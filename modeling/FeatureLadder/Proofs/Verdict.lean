import FeatureLadder.Executor.Scripted
import FeatureLadder.Proofs.Courses

/-!
# The verdict of a run

What can stand in the way of a run is listed as six faults, each looked for on its own
and without regard to the others.  The program reports the first one that is there, and
it fails if there is one.

**Input**: the arguments, the manifest and the executor.

**Results.**
* `Takes.failure?_eq`: the reported error is the first fault.
* `Takes.handed_ne_nil_iff`: when a command reaches the executor.
* `Takes.failure?_eq_none_iff`: when the program succeeds.
* `exit_and_spawning`: the three together, for a whole run.
-/

namespace FeatureLadder
namespace Program

section Faults

variable {σ : Type}
variable (host : Host σ)
variable (a : Arguments)
variable (s : σ)

/-- The target that a run is asked for; a listing needs none. -/
def wanted : Option String :=
  if a.list then none else a.target

/-- The answer of the executor, if there is a plan and it is to be carried out. -/
def answer? : Option (Except Error Completion) :=
  match wanted a with
  | none => none
  | some target =>
    match Plan.make host.file target a.options with
    | .error _ => none
    | .ok plan =>
      if a.dryRun then none
      else some (host.executor.execute plan.command a.options.mode s).1.answer

/-- A run is asked for, and no target is given. -/
def missingFault : Option Error :=
  if a.list = false ∧ a.target = none then some noTarget else none

/-- The target is no version name. -/
def formFault : Option Error :=
  match wanted a with
  | none => none
  | some target =>
    if Version.isName target.toList then none else some (.invalidVersion target)

def manifestFault : Option Error :=
  match host.file a.manifestPath with
  | .ok _ => none
  | .error cause => some (Error.ofRead a.manifestPath cause)

/-- The manifest was read, and the target is neither declared in it nor excused. -/
def membershipFault : Option Error :=
  match wanted a, host.file a.manifestPath with
  | some target, .ok text =>
    if a.allowUnlisted = true ∨ target ∈ (Manifest.declaredIn text).names then none
    else some (.undeclared target (Manifest.declaredIn text).listing)
  | _, _ => none

/-- The executor could not run the command. -/
def spawnFault : Option Error :=
  match answer? host a s with
  | some (.error e) => some e
  | _ => none

/-- The command ended with a code other than zero. -/
def testFault : Option Error :=
  match answer? host a s with
  | some (.ok completion) =>
    if completion.code = 0 then none else some (.testsFailed completion.code)
  | _ => none

def firstFault : Option Error :=
  [missingFault a, formFault a, manifestFault host a, membershipFault host a,
    spawnFault host a s, testFault host a s].findSome? id

end Faults

section Verdict

variable {σ : Type}
variable {host : Host σ}
variable {a : Arguments}
variable {s : σ}
variable {p : Course × σ}

/-- How a command fails that was handed to the executor. -/
theorem Course.failure?_ran
    (plan : Plan)
    (execution : Execution) :
    (Course.ran plan execution).failure? =
      match execution.answer with
      | .error e => some e
      | .ok completion =>
        if completion.code = 0 then none else some (.testsFailed completion.code) := by
  cases hanswer : execution.answer with
  | error e => simp [Course.failure?, hanswer]
  | ok completion =>
      by_cases hcode : completion.code = 0
      all_goals
        simp [Course.failure?, Completion.check_eq, hanswer, hcode]

/-- A plan that is only tried is not handed to the executor. -/
theorem answer?_of_dryRun
    (hdry : a.dryRun = true) :
    answer? host a s = none := by
  unfold answer?
  split
  · rfl
  · split
    · rfl
    · rw [if_pos hdry]

/-- A plan that is not only tried has the answer of the executor. -/
theorem answer?_of_admitted
    {v : Version}
    {text : String}
    (hlist : a.list = false)
    (htarget : a.target = some v.text)
    (hfile : host.file a.manifestPath = .ok text)
    (hallow : Admitted a v text)
    (hdry : a.dryRun = false) :
    answer? host a s =
      some (host.executor.execute (Plan.forTarget a.options v text).command
        a.options.mode s).1.answer := by
  have hmake := make_of_admitted hfile hallow
  simp [answer?, wanted, hlist, htarget, hmake, hdry]

attribute [local simp] Course.failure? firstFault missingFault formFault manifestFault
  membershipFault spawnFault testFault wanted

/-- **The reported error is the first fault.** -/
theorem Takes.failure?_eq
    (h : Takes host a s p) :
    p.1.failure? = firstFault host a s := by
  -- in each case the hypotheses of the course rule out the faults in front of its own
  cases h with
  | listed hlist hfile => simp [answer?, hlist, hfile]
  | unlisted hlist hfile => simp [hlist, hfile]
  | idle hlist htarget => simp [hlist, htarget]
  | illFormed hlist htarget hname => simp [hlist, htarget, hname]
  | unread hlist htarget hfile => simp [hlist, htarget, hfile]
  | undeclared hlist htarget hfile hallow =>
      rw [admitted_iff_name, not_or] at hallow
      simp [hlist, htarget, hfile, hallow]
  | tried hlist htarget hfile hallow hdry =>
      rw [admitted_iff_name] at hallow
      simp [hlist, htarget, hfile, hallow, answer?_of_dryRun hdry]
  | @ran v text hlist htarget hfile hallow hdry =>
      have hanswer := answer?_of_admitted (s := s) hlist htarget hfile hallow hdry
      rw [admitted_iff_name] at hallow
      rw [Course.failure?_ran, Plan.answer_executing]
      cases hend : (host.executor.execute (Plan.forTarget a.options v text).command
          a.options.mode s).1.answer with
      | error e => simp [hlist, htarget, hfile, hallow, hanswer, hend]
      | ok completion => simp [hlist, htarget, hfile, hallow, hanswer, hend]

/-- **When a command reaches the executor.** -/
theorem Takes.handed_ne_nil_iff
    (h : Takes host a s p) :
    p.1.handed a ≠ [] ↔
      a.list = false ∧
      ∃ target, a.target = some target ∧
        Version.isName target.toList = true ∧
        ∃ text, host.file a.manifestPath = .ok text ∧
          (target ∈ (Manifest.declaredIn text).names ∨ a.allowUnlisted = true) ∧
          a.dryRun = false := by
  cases h with
  | listed hlist hfile => simp [Course.handed, hlist]
  | unlisted hlist hfile => simp [Course.handed, hlist]
  | idle hlist htarget => simp [Course.handed, htarget]
  | illFormed hlist htarget hname => simp [Course.handed, htarget, hname]
  | unread hlist htarget hfile => simp [Course.handed, hfile]
  | undeclared hlist htarget hfile hallow =>
      rw [admitted_iff_name, not_or] at hallow
      simp [Course.handed, htarget, hfile, hallow]
  | tried hlist htarget hfile hallow hdry => simp [Course.handed, hdry]
  | ran hlist htarget hfile hallow hdry =>
      rw [admitted_iff_name, or_comm] at hallow
      simp [Course.handed, hlist, htarget, hfile, hallow, hdry]

/-- **When the program succeeds.** -/
theorem Takes.failure?_eq_none_iff
    (h : Takes host a s p) :
    p.1.failure? = none ↔
      (a.list = true ∧ ∃ text, host.file a.manifestPath = .ok text) ∨
      (a.list = false ∧
        ∃ target plan, a.target = some target ∧
          Plan.make host.file target a.options = .ok plan ∧
          (a.dryRun = true ∨
            ∃ completion,
              (host.executor.execute plan.command a.options.mode s).1.answer = .ok completion ∧
              completion.code = 0)) := by
  cases h with
  | listed hlist hfile => simp [hlist, hfile]
  | unlisted hlist hfile => simp [hlist, hfile]
  | idle hlist htarget => simp [hlist, htarget]
  | illFormed hlist htarget hname =>
      simp [hlist, htarget, Plan.make_of_not_isName host.file a.options hname]
  | @unread v cause hlist htarget hfile =>
      simp [hlist, htarget, Plan.make_of_unread host.file a.options v hfile]
  | @undeclared v text hlist htarget hfile hallow =>
      have hmake := make_of_not_admitted hfile hallow
      simp [hlist, htarget, hmake]
  | @tried v text hlist htarget hfile hallow hdry =>
      have hmake := make_of_admitted hfile hallow
      simp [hlist, htarget, hmake, hdry]
  | @ran v text hlist htarget hfile hallow hdry =>
      have hmake := make_of_admitted hfile hallow
      rw [Course.failure?_ran, Plan.answer_executing]
      cases hend : (host.executor.execute (Plan.forTarget a.options v text).command
          a.options.mode s).1.answer with
      | error e => simp [hlist, htarget, hmake, hdry, hend]
      | ok completion => simp [hlist, htarget, hmake, hdry, hend]

/-- The diagnostic is printed last, and alone if no command was started. -/
theorem Takes.stdout_eq_of_failure?
    (h : Takes host a s p)
    {e : Error}
    (hfail : p.1.failure? = some e) :
    ∃ before,
      p.1.stdout a = before ++ Utf8.encode (e.message ++ "\n").toList ∧
      (p.1.handed a = [] → before = []) := by
  refine ⟨p.1.inherited ++ Utf8.encode (p.1.report a).toList, ?_, ?_⟩
  · simp [Course.stdout, Course.printed, Course.diagnostic, hfail, Utf8.encode_append,
      -Course.failure?]
  · intro hnone
    cases h with
    | listed hlist hfile => simp at hfail
    | tried hlist htarget hfile hallow hdry => simp at hfail
    | ran hlist htarget hfile hallow hdry => simp [Course.handed] at hnone
    | unlisted | idle | illFormed | unread | undeclared =>
        simp [Course.inherited, Course.report]

/-- The state that is left behind is that of handing over the commands of the course. -/
theorem Takes.state_eq
    (h : Takes host a s p) :
    p.2 = (p.1.handed a).foldl (fun t call => (host.executor.execute call.1 call.2 t).2) s := by
  cases h <;> rfl

end Verdict

section Run

variable {σ : Type}
variable (host : Host σ)
variable (env : Environment)
variable (clock : Clock)
variable (arguments : List String)
variable (s : σ)

/-- The commands that a run hands to the executor, in order. -/
def handedIn : List (Command × OutputMode) :=
  (run host.watched env clock arguments (s, [])).2.2

variable {arguments}
variable {a : Arguments}

theorem run_of_parse
    (hparse : Arguments.parse arguments = .ok a) :
    run host env clock arguments s = runAccepted host env clock a s := by
  rw [run, hparse]

/-- A watched run gives the outcome of the run that is not watched. -/
theorem run_watched
    (hparse : Arguments.parse arguments = .ok a)
    (kept : List (Command × OutputMode)) :
    run host.watched env clock arguments (s, kept) =
      ((run host env clock arguments s).1,
        ((run host env clock arguments s).2, kept ++ (perform host a s).1.handed a)) := by
  rw [run_of_parse _ _ _ _ hparse, run_of_parse _ _ _ _ hparse, runAccepted, dispatch,
    proceed_watched]
  rfl

theorem handedIn_eq
    (hparse : Arguments.parse arguments = .ok a) :
    handedIn host env clock arguments s = (perform host a s).1.handed a := by
  rw [handedIn, run_watched host env clock s hparse, List.nil_append]

/-- At most one command is handed over on any course. -/
theorem Course.length_handed_le
    (c : Course) :
    (c.handed a).length ≤ 1 := by
  cases c <;> simp [Course.handed]

theorem Course.exitCode_eq_zero_iff
    (c : Course) :
    c.exitCode = 0 ↔ c.failure? = none := by
  cases h : c.failure? <;> simp [Course.exitCode, h]

theorem Course.exitCode_eq_one_of_ne_zero
    (c : Course)
    (h : c.exitCode ≠ 0) :
    c.exitCode = 1 := by
  cases hfail : c.failure? with
  | none => exact absurd ((Course.exitCode_eq_zero_iff c).mpr hfail) h
  | some e => simp [Course.exitCode, hfail]

/-- Without a target that is a version name, no file is looked at. -/
theorem runAccepted_congr_file
    (hlist : a.list = false)
    (htarget : ∀ target, a.target = some target → Version.isName target.toList = false)
    (file : String → Except Failure String) :
    runAccepted { host with file := file } env clock a s = runAccepted host env clock a s := by
  have hproceed : proceed { host with file := file } a s = proceed host a s := by
    cases hgiven : a.target with
    | none =>
        rw [proceed_of_missing _ a s hlist hgiven, proceed_of_missing _ a s hlist hgiven]
    | some target =>
        have hname := htarget target hgiven
        rw [proceed_of_illFormed _ a s hlist hgiven hname,
          proceed_of_illFormed _ a s hlist hgiven hname]
  rw [runAccepted, runAccepted, dispatch, dispatch, hproceed]

/-- **Exit code and spawning.**  For arguments that are accepted, whatever the files hold
and whatever the executor answers:

* the executor is handed at most one command, and the run leaves the state that this
  leaves;
* it is handed one exactly if a run is asked for, its target is a version name, the
  manifest is read, the target is declared or need not be, and the plan is not only tried;
* the exit code is `0` or `1`, and `0` exactly for a listing of a manifest that is read
  and for a plan that is only tried or whose command ends with the code `0`;
* the program fails with the first fault there is; the exit code is `1` exactly if there is
  one, and its message is the last thing printed, and the only one if no command was started;
* without a target that is a version name, the outcome is the same for all files. -/
theorem exit_and_spawning
    (hparse : Arguments.parse arguments = .ok a) :
    (∀ kept,
      run host.watched env clock arguments (s, kept) =
        ((run host env clock arguments s).1,
          ((run host env clock arguments s).2,
            kept ++ handedIn host env clock arguments s))) ∧
    (handedIn host env clock arguments s).length ≤ 1 ∧
    (run host env clock arguments s).2 =
      (handedIn host env clock arguments s).foldl
        (fun t call => (host.executor.execute call.1 call.2 t).2) s ∧
    (handedIn host env clock arguments s ≠ [] ↔
      a.list = false ∧
      ∃ target, a.target = some target ∧
        Version.isName target.toList = true ∧
        ∃ text, host.file a.manifestPath = .ok text ∧
          (target ∈ (Manifest.declaredIn text).names ∨ a.allowUnlisted = true) ∧
          a.dryRun = false) ∧
    ((run host env clock arguments s).1.exit = 0 ↔
      (a.list = true ∧ ∃ text, host.file a.manifestPath = .ok text) ∨
      (a.list = false ∧
        ∃ target plan, a.target = some target ∧
          Plan.make host.file target a.options = .ok plan ∧
          (a.dryRun = true ∨
            ∃ completion,
              (host.executor.execute plan.command a.options.mode s).1.answer = .ok completion ∧
              completion.code = 0))) ∧
    ((run host env clock arguments s).1.exit ≠ 0 →
      (run host env clock arguments s).1.exit = 1) ∧
    (perform host a s).1.failure? = firstFault host a s ∧
    ((run host env clock arguments s).1.exit = 0 ↔ firstFault host a s = none) ∧
    (∀ e, firstFault host a s = some e →
      ∃ before,
        (run host env clock arguments s).1.stdout =
          before ++ Utf8.encode (e.message ++ "\n").toList ∧
        (handedIn host env clock arguments s = [] → before = [])) ∧
    (a.list = false →
      (∀ target, a.target = some target → Version.isName target.toList = false) →
      ∀ file, run { host with file := file } env clock arguments s =
        run host env clock arguments s) := by
  have htakes := perform_takes host a s
  have hexit :
      (runAccepted host env clock a s).1.exit = 0 ↔ (perform host a s).1.failure? = none :=
    Course.exitCode_eq_zero_iff _
  rw [handedIn_eq host env clock s hparse]
  refine ⟨fun kept => run_watched host env clock s hparse kept, ?_⟩
  simp only [run_of_parse _ _ _ _ hparse]
  refine ⟨Course.length_handed_le _, htakes.state_eq, htakes.handed_ne_nil_iff,
    hexit.trans htakes.failure?_eq_none_iff, Course.exitCode_eq_one_of_ne_zero _,
    htakes.failure?_eq, ?_, ?_, ?_⟩
  · rw [hexit, htakes.failure?_eq]
  · intro e he
    exact htakes.stdout_eq_of_failure? (htakes.failure?_eq.trans he)
  · intro hlist htarget file
    exact runAccepted_congr_file host env clock s hlist htarget file

/-- The tests of a version that is not declared are run if they may be, and fail. -/
theorem exit_and_spawning_unlisted :
    ∃ (host : Host Scripted.Tape) (a : Arguments),
      Arguments.parse ["--allow-unlisted", "v0-2"] = .ok a ∧
      host.file a.manifestPath = .ok "" ∧
      firstFault host a {} = some (.testsFailed 3) ∧
      ∀ (env : Environment) (clock : Clock),
        (handedIn host env clock ["--allow-unlisted", "v0-2"] {}).length = 1 ∧
        (run host env clock ["--allow-unlisted", "v0-2"] {}).1.exit = 1 := by
  let host : Host Scripted.Tape :=
    { file := fun _ => .ok "", executor := Scripted.executor { code := 3 } }
  let a : Arguments := { target := some "v0-2", allowUnlisted := true }
  have hparse : Arguments.parse ["--allow-unlisted", "v0-2"] = .ok a := by decide
  have hfault : firstFault host a {} = some (.testsFailed 3) := by decide +kernel
  refine ⟨host, a, hparse, rfl, hfault, ?_⟩
  intro env clock
  obtain ⟨-, hatMost, -, hhanded, -, hone, -, hzero, -⟩ :=
    exit_and_spawning host env clock {} hparse
  have hsome : handedIn host env clock ["--allow-unlisted", "v0-2"] {} ≠ [] :=
    hhanded.mpr ⟨rfl, "v0-2", rfl, by decide, "", rfl, Or.inr rfl, rfl⟩
  constructor
  · have hpos := List.length_pos_iff.mpr hsome
    omega
  · apply hone
    rw [ne_eq, hzero, hfault]
    simp

end Run
end Program
end FeatureLadder
