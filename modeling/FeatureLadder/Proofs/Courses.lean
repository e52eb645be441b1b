import FeatureLadder.Program.Run
import FeatureLadder.Proofs.Planning

/-!
# Which course the program takes

`Takes` says once, for every course, under which conditions on the arguments, the
manifest and the declared versions the program takes it, and what the state of the
executor is afterwards.  `perform_takes` says that this covers every run; what holds of
all runs is then proved course by course.

To speak of the commands that reach the executor, the executor is watched: a watched
executor answers like the one it watches and keeps every command it is handed.  Watching
changes nothing (`proceed_watched`), so what is kept is what any executor is handed.

**Results.**
* `perform_takes`: the course of a run, and when it is taken.
* `proceed_watched`: a watched run is the same run, and keeps the commands of its course.
-/

namespace FeatureLadder

/-- The executor that answers like `e` and keeps the commands it is handed. -/
def Executor.watched {σ : Type} (e : Executor σ) : Executor (σ × List (Command × OutputMode)) where
  execute command mode s :=
    let (execution, t) := e.execute command mode s.1
    (execution, (t, s.2 ++ [(command, mode)]))

namespace Program

def Host.watched {σ : Type} (host : Host σ) : Host (σ × List (Command × OutputMode)) where
  file := host.file
  executor := host.executor.watched

/-- Whether a target may be planned for, given the text of the manifest. -/
def Admitted (a : Arguments) (v : Version) (text : String) : Prop :=
  a.allowUnlisted = true ∨ v ∈ (Manifest.declaredIn text).versions

instance (a : Arguments) (v : Version) (text : String) : Decidable (Admitted a v text) :=
  inferInstanceAs (Decidable (_ ∨ _))

theorem admitted_iff_membership
    (a : Arguments)
    (v : Version)
    (text : String) :
    Admitted a v text ↔
      a.options.rule.membership = .permissive ∨ v ∈ (Manifest.declaredIn text).versions := by
  have hrule : a.options.rule.membership = .permissive ↔ a.allowUnlisted = true := by
    cases h : a.allowUnlisted <;> simp [Arguments.options, h]
  rw [hrule]
  exact Iff.rfl

theorem admitted_iff_name
    (a : Arguments)
    (v : Version)
    (text : String) :
    Admitted a v text ↔
      a.allowUnlisted = true ∨ v.text ∈ (Manifest.declaredIn text).names := by
  rw [Admitted, Catalog.text_mem_names_iff]

section Courses

variable {σ : Type}

/-- The program takes a course and leaves a state of the executor behind. -/
inductive Takes (host : Host σ) (a : Arguments) (s : σ) : Course × σ → Prop
  | listed
      {text : String}
      (hlist : a.list = true)
      (hfile : host.file a.manifestPath = .ok text) :
      Takes host a s (.listed (.ok (Manifest.declaredIn text)), s)
  | unlisted
      {cause : Failure}
      (hlist : a.list = true)
      (hfile : host.file a.manifestPath = .error cause) :
      Takes host a s (.listed (.error (Error.ofRead a.manifestPath cause)), s)
  | idle
      (hlist : a.list = false)
      (htarget : a.target = none) :
      Takes host a s (.idle, s)
  | illFormed
      {target : String}
      (hlist : a.list = false)
      (htarget : a.target = some target)
      (hname : Version.isName target.toList = false) :
      Takes host a s (.unplanned (.invalidVersion target), s)
  | unread
      {v : Version}
      {cause : Failure}
      (hlist : a.list = false)
      (htarget : a.target = some v.text)
      (hfile : host.file a.manifestPath = .error cause) :
      Takes host a s (.unplanned (Error.ofRead a.manifestPath cause), s)
  | undeclared
      {v : Version}
      {text : String}
      (hlist : a.list = false)
      (htarget : a.target = some v.text)
      (hfile : host.file a.manifestPath = .ok text)
      (hallow : ¬ Admitted a v text) :
      Takes host a s
        (.unplanned (.undeclared v.text (Manifest.declaredIn text).listing), s)
  | tried
      {v : Version}
      {text : String}
      (hlist : a.list = false)
      (htarget : a.target = some v.text)
      (hfile : host.file a.manifestPath = .ok text)
      (hallow : Admitted a v text)
      (hdry : a.dryRun = true) :
      Takes host a s (.tried (Plan.forTarget a.options v text), s)
  | ran
      {v : Version}
      {text : String}
      (hlist : a.list = false)
      (htarget : a.target = some v.text)
      (hfile : host.file a.manifestPath = .ok text)
      (hallow : Admitted a v text)
      (hdry : a.dryRun = false) :
      Takes host a s
        (.ran (Plan.forTarget a.options v text)
          ((Plan.forTarget a.options v text).executing host.executor a.options s).1,
          ((Plan.forTarget a.options v text).executing host.executor a.options s).2)

variable (host : Host σ)
variable (a : Arguments)
variable (s : σ)

theorem make_of_admitted
    {host : Host σ}
    {a : Arguments}
    {v : Version}
    {text : String}
    (hfile : host.file a.manifestPath = .ok text)
    (hallow : Admitted a v text) :
    Plan.make host.file v.text a.options = .ok (Plan.forTarget a.options v text) :=
  Plan.make_of_admitted host.file a.options v hfile
    ((admitted_iff_membership a v text).mp hallow)

theorem make_of_not_admitted
    {host : Host σ}
    {a : Arguments}
    {v : Version}
    {text : String}
    (hfile : host.file a.manifestPath = .ok text)
    (hallow : ¬ Admitted a v text) :
    Plan.make host.file v.text a.options =
      .error (.undeclared v.text (Manifest.declaredIn text).listing) := by
  obtain ⟨hstrict, hmem⟩ := not_or.mp hallow
  have hrule : a.options.rule.membership = .strict := by
    simp [Arguments.options, hstrict]
  exact Plan.make_of_undeclared host.file a.options v hfile hrule hmem

theorem proceed_of_list
    (hlist : a.list = true) :
    proceed host a s =
      { course := .listed (Manifest.load a.manifestPath (host.file a.manifestPath))
        notices := (Manifest.loading a.manifestPath (host.file a.manifestPath)).notices
        state := s } := by
  rw [proceed, if_pos hlist]
  rfl

/-- Without a listing, the course follows the plan, and what is noted about the plan comes
first. -/
theorem proceed_of_target
    (hlist : a.list = false)
    {target : String}
    (htarget : a.target = some target) :
    proceed host a s =
      match Plan.make host.file target a.options with
      | .error e =>
        { course := .unplanned e
          notices := (Plan.making host.file target a.options).notices
          state := s }
      | .ok plan =>
        { carryOut host a plan s with
          notices := (Plan.making host.file target a.options).notices ++
            (carryOut host a plan s).notices } := by
  rw [proceed, if_neg (by simp [hlist]), htarget]
  rfl

theorem proceed_of_missing
    (hlist : a.list = false)
    (htarget : a.target = none) :
    proceed host a s = { course := .idle, state := s } := by
  rw [proceed, if_neg (by simp [hlist]), htarget]

theorem proceed_of_illFormed
    (hlist : a.list = false)
    {target : String}
    (htarget : a.target = some target)
    (hname : Version.isName target.toList = false) :
    proceed host a s = { course := .unplanned (.invalidVersion target), state := s } := by
  rw [proceed_of_target host a s hlist htarget, Plan.make_of_not_isName host.file a.options hname,
    Plan.making_of_not_isName host.file a.options hname]
  rfl

theorem perform_of_target
    (hlist : a.list = false)
    {target : String}
    (htarget : a.target = some target) :
    perform host a s =
      match Plan.make host.file target a.options with
      | .error e => (.unplanned e, s)
      | .ok plan =>
        if a.dryRun then (.tried plan, s)
        else
          (.ran plan (plan.executing host.executor a.options s).1,
            (plan.executing host.executor a.options s).2) := by
  rw [perform, proceed_of_target host a s hlist htarget]
  cases Plan.make host.file target a.options with
  | error e => rfl
  | ok plan => cases hdry : a.dryRun <;> simp [carryOut, hdry]

/-- A listing shows the declared versions or reports the manifest. -/
theorem perform_takes_of_list
    (hlist : a.list = true) :
    Takes host a s (perform host a s) := by
  rw [perform, proceed_of_list host a s hlist]
  cases hfile : host.file a.manifestPath with
  | error cause => exact .unlisted hlist hfile
  | ok text =>
      rw [Manifest.load_ok]
      exact .listed hlist hfile

/-- The course for a target that is a version, once the manifest is looked at. -/
theorem perform_takes_of_version
    (hlist : a.list = false)
    {v : Version}
    (htarget : a.target = some v.text) :
    Takes host a s (perform host a s) := by
  rw [perform_of_target host a s hlist htarget]
  cases hfile : host.file a.manifestPath with
  | error cause =>
      rw [Plan.make_of_unread host.file a.options v hfile]
      exact .unread hlist htarget hfile
  | ok text =>
      by_cases hallow : Admitted a v text
      · rw [make_of_admitted hfile hallow]
        cases hdry : a.dryRun with
        | true => exact .tried hlist htarget hfile hallow hdry
        | false => exact .ran hlist htarget hfile hallow hdry
      · rw [make_of_not_admitted hfile hallow]
        exact .undeclared hlist htarget hfile hallow

/-- **Every run takes one of the courses, under the conditions given for it.** -/
theorem perform_takes :
    Takes host a s (perform host a s) := by
  cases hlist : a.list with
  | true => exact perform_takes_of_list host a s hlist
  | false =>
      cases htarget : a.target with
      | none =>
          rw [perform, proceed_of_missing host a s hlist htarget]
          exact .idle hlist htarget
      | some target =>
          cases hname : Version.isName target.toList with
          | false =>
              rw [perform, proceed_of_illFormed host a s hlist htarget hname]
              exact .illFormed hlist htarget hname
          | true =>
              obtain ⟨v, rfl⟩ := (Version.isName_iff_exists_text target).mp hname
              exact perform_takes_of_version host a s hlist htarget

/-- The commands that reach the executor on a course. -/
def Course.handed : Course → List (Command × OutputMode)
  | .ran plan _ => [(plan.command, a.options.mode)]
  | _ => []

/-- A watched executor runs tests like the one it watches, and keeps their command. -/
theorem executing_watched
    (plan : Plan)
    (kept : List (Command × OutputMode)) :
    plan.executing host.watched.executor a.options (s, kept) =
      ((plan.executing host.executor a.options s).1,
        ((plan.executing host.executor a.options s).2,
          kept ++ [(plan.command, a.options.mode)])) :=
  rfl

/-- **A watched run is the same run**, with the same notices, and keeps the commands of its
course. -/
theorem proceed_watched
    (kept : List (Command × OutputMode)) :
    proceed host.watched a (s, kept) =
      { course := (proceed host a s).course
        notices := (proceed host a s).notices
        state := ((proceed host a s).state, kept ++ (proceed host a s).course.handed a) } := by
  cases hlist : a.list with
  | true =>
      rw [proceed_of_list _ a _ hlist, proceed_of_list _ a _ hlist]
      simp [Host.watched, Course.handed]
  | false =>
      cases htarget : a.target with
      | none =>
          rw [proceed_of_missing _ a _ hlist htarget, proceed_of_missing _ a _ hlist htarget]
          simp [Course.handed]
      | some target =>
          rw [proceed_of_target _ a _ hlist htarget, proceed_of_target _ a _ hlist htarget]
          cases hmake : Plan.make host.file target a.options with
          | error e => simp [Host.watched, hmake, Course.handed]
          | ok plan =>
              have hplan : Plan.make host.watched.file target a.options = .ok plan := hmake
              rw [hplan]
              cases hdry : a.dryRun with
              | true => simp [carryOut, hdry, Host.watched, Course.handed]
              | false =>
                  simp only [carryOut, hdry, executing_watched]
                  rfl

theorem perform_watched
    (kept : List (Command × OutputMode)) :
    perform host.watched a (s, kept) =
      ((perform host a s).1,
        ((perform host a s).2, kept ++ (perform host a s).1.handed a)) := by
  rw [perform, proceed_watched]
  rfl

end Courses
end Program
end FeatureLadder
