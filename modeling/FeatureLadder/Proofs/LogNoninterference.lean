import FeatureLadder.Proofs.LineSplitting
import FeatureLadder.Proofs.Verdict

/-!
# The log does not interfere

**Input**: two runs whose command lines differ only in the options of the log, in any two
environments and at any two times.  The manifest is the same, and the executors answer alike.

From the options of the log nothing else of the record can be told: a command line without
them is accepted with the same record, in which the log is set as without arguments
(`Meets.withoutLog`).  What a run does is then compared course by course, with any two
settings of the log.  The two runs take the same course, except that a command may write
different things to the standard error (`Course.Alike`), and alike courses show the same on
the standard output, however the log is set.

**Results.**
* `quiet_eq_of_sameButLog`: the two records agree in everything but the log.
* `perform_alike`: the two runs take the same course.
* `log_never_interferes`: standard output, exit code and commands are the same.
-/

namespace FeatureLadder
namespace Arguments

/-- Whether a place belongs to the settings of the log. -/
def Slot.isLog : Slot → Bool
  | .setting .logFormat => true
  | .setting .logLevel => true
  | _ => false

def withLog (a : Arguments) (format : Option Log.Format) (level : Log.Level) : Arguments :=
  { a with logFormat := format, logLevel := level }

/-- The record with the log set as without arguments. -/
def quiet (a : Arguments) : Arguments :=
  a.withLog none .warn

def Line.withoutLog (l : Line) : Line :=
  { l with groups := l.groups.filter fun g => !g.request.slot.isLog }

/-- Two command lines that differ only in the options of the log. -/
def SameButLog (arguments arguments' : List String) : Prop :=
  ∃ l l' : Line, arguments = l.spelled ∧ arguments' = l'.spelled ∧ l.withoutLog = l'.withoutLog

section Records

variable {a a' : Arguments}
variable {rs : List Request}

theorem requests_withoutLog
    (l : Line) :
    l.withoutLog.requests = l.requests.filter fun r => !r.slot.isLog := by
  have hescaped :
      ((l.escaped.getD []).map Request.target).filter (fun r => !r.slot.isLog) =
        (l.escaped.getD []).map Request.target := by
    rw [List.filter_eq_self]
    intro r hr
    obtain ⟨value, -, rfl⟩ := List.mem_map.mp hr
    rfl
  rw [Line.requests, Line.requests, List.filter_append, hescaped, List.filter_map]
  rfl

theorem holds_quiet_iff
    (r : Request) :
    a.quiet.Holds r ↔ if r.slot.isLog then ({} : Arguments).Holds r else a.Holds r := by
  cases r with
  | setting s value => cases s <;> rfl
  | switch s => cases s <;> rfl
  | target value => rfl
  | information => rfl

theorem mem_slots_filter_iff
    {slot : Slot} :
    slot ∈ (rs.filter fun r => !r.slot.isLog).map Request.slot ↔
      slot ∈ rs.map Request.slot ∧ slot.isLog = false := by
  simp only [List.mem_map, List.mem_filter, Bool.not_eq_true']
  constructor
  · rintro ⟨r, ⟨hr, hlog⟩, rfl⟩
    exact ⟨⟨r, hr, rfl⟩, hlog⟩
  · rintro ⟨⟨r, hr, rfl⟩, hlog⟩
    exact ⟨r, ⟨hr, hlog⟩, rfl⟩

/-- Requests about the log can be left out without a trace elsewhere. -/
theorem Meets.withoutLog
    (h : a.Meets rs) :
    a.quiet.Meets (rs.filter fun r => !r.slot.isLog) where
  holds_iff r := by
    rw [holds_quiet_iff, mem_slots_filter_iff, List.mem_filter]
    cases hlog : r.slot.isLog with
    | true => simp
    | false => simpa using h.holds_iff r
  distinct := ((List.filter_sublist).map Request.slot).nodup h.distinct
  path_ne := h.path_ne

/-- **Command lines that differ only in the options of the log are accepted with records that
differ only in the log.** -/
theorem quiet_eq_of_sameButLog
    {arguments arguments' : List String}
    (h : parse arguments = .ok a)
    (h' : parse arguments' = .ok a')
    (hsame : SameButLog arguments arguments') :
    a.quiet = a'.quiet := by
  obtain ⟨l, l', rfl, rfl, hline⟩ := hsame
  have hmeets := ((parse_spelled_iff l a).mp h).1.withoutLog
  have hmeets' := ((parse_spelled_iff l' a').mp h').1.withoutLog
  rw [← requests_withoutLog] at hmeets hmeets'
  rw [← hline] at hmeets'
  exact hmeets.unique hmeets'

/-- Records that differ only in the log are one record with two settings of it. -/
theorem eq_withLog_of_quiet_eq
    (h : a.quiet = a'.quiet) :
    a' = a.withLog a'.logFormat a'.logLevel := by
  have hset := congrArg (fun b : Arguments => b.withLog a'.logFormat a'.logLevel) h
  exact hset.symm

end Records
end Arguments

/-- Two executions that differ at most in what the command wrote to the standard error. -/
def Execution.Alike (e e' : Execution) : Prop :=
  e.answer = e'.answer ∧ e.stdout = e'.stdout

namespace Program

/-- Two courses that differ at most in what a command wrote to the standard error. -/
inductive Course.Alike : Course → Course → Prop
  | same
      (c : Course) :
      Alike c c
  | ran
      {e e' : Execution}
      (plan : Plan)
      (h : e.Alike e') :
      Alike (.ran plan e) (.ran plan e')

section Runs

variable {σ τ : Type}
variable {host : Host σ}
variable {host' : Host τ}
variable {s : σ}
variable {t : τ}
variable {a a' : Arguments}
variable {c c' : Course}
variable (format : Option Log.Format)
variable (level : Log.Level)

theorem Course.Alike.failure?_eq
    (h : c.Alike c') :
    c.failure? = c'.failure? := by
  cases h with
  | same => rfl
  | ran plan h => simp only [Course.failure?, h.1]

theorem Course.Alike.exitCode_eq
    (h : c.Alike c') :
    c.exitCode = c'.exitCode := by
  rw [Course.exitCode, Course.exitCode, h.failure?_eq]

/-- Alike courses report the same, with any two settings of the log. -/
theorem Course.Alike.report_eq
    (h : c.Alike c') :
    c.report a = c'.report (a.withLog format level) := by
  cases h with
  | same => rfl
  | ran plan h =>
      simp only [Course.report, h.1]
      rfl

theorem Course.Alike.inherited_eq
    (h : c.Alike c') :
    c.inherited = c'.inherited := by
  cases h with
  | same => rfl
  | ran plan h => exact h.2

/-- Alike courses write the same to the standard output, with any two settings of the log. -/
theorem Course.Alike.stdout_eq
    (h : c.Alike c') :
    c.stdout a = c'.stdout (a.withLog format level) := by
  rw [Course.stdout, Course.stdout, Course.printed, Course.printed, Course.diagnostic,
    Course.diagnostic, h.inherited_eq, h.failure?_eq, h.report_eq format level]

/-- Alike courses hand over the same commands, with any two settings of the log. -/
theorem Course.Alike.handed_eq
    (h : c.Alike c') :
    c.handed a = c'.handed (a.withLog format level) := by
  cases h <;> rfl

/-- Executors that answer alike carry out a plan alike. -/
theorem executing_alike
    (plan : Plan)
    (o : Options)
    (hexecutor : ∀ command mode,
      (host.executor.execute command mode s).1.Alike (host'.executor.execute command mode t).1) :
    (plan.executing host.executor o s).1.Alike (plan.executing host'.executor o t).1 := by
  obtain ⟨hanswer, hstdout⟩ := hexecutor plan.command o.mode
  constructor
  · rw [Plan.answer_executing, Plan.answer_executing, hanswer]
  · rw [Plan.stdout_executing, Plan.stdout_executing, hstdout]

/-- **Runs that differ in the settings of the log take the same course**, if they find the
same manifest and their executors answer alike. -/
theorem perform_alike
    (hfile : host.file a.manifestPath = host'.file a.manifestPath)
    (hexecutor : ∀ command mode,
      (host.executor.execute command mode s).1.Alike (host'.executor.execute command mode t).1) :
    (perform host a s).1.Alike (perform host' (a.withLog format level) t).1 := by
  have hmake : ∀ target,
      Plan.make host.file target a.options =
        Plan.make host'.file target (a.withLog format level).options := by
    intro target
    have hpath : host.file a.options.manifestPath = host'.file a.options.manifestPath := hfile
    rw [Plan.make_eq, hpath, ← Plan.make_eq]
    rfl
  cases hlist : a.list with
  | true =>
      rw [perform, perform, proceed_of_list host a s hlist,
        proceed_of_list host' (a.withLog format level) t hlist, hfile]
      exact .same _
  | false =>
      cases htarget : a.target with
      | none =>
          rw [perform, perform, proceed_of_missing host a s hlist htarget,
            proceed_of_missing host' (a.withLog format level) t hlist htarget]
          exact .same _
      | some target =>
          rw [perform_of_target host a s hlist htarget,
            perform_of_target host' (a.withLog format level) t hlist htarget, hmake]
          cases Plan.make host'.file target (a.withLog format level).options with
          | error e => exact .same _
          | ok plan =>
              have hdry' : (a.withLog format level).dryRun = a.dryRun := rfl
              rw [hdry']
              cases a.dryRun with
              | true => exact .same _
              | false => exact .ran plan (executing_alike plan a.options hexecutor)

/-- **The log never interferes.**  Two runs are given command lines that are accepted and
differ only in the options of the log, in any two environments and at any two times.  If
they find the same manifest, and their executors answer every command alike, then they write
the same to the standard output, end with the same exit code, and hand the same commands to
their executors. -/
theorem log_never_interferes
    (env env' : Environment)
    (clock clock' : Clock)
    {arguments arguments' : List String}
    (hparse : Arguments.parse arguments = .ok a)
    (hparse' : Arguments.parse arguments' = .ok a')
    (hsame : Arguments.SameButLog arguments arguments')
    (hfile : host.file a.manifestPath = host'.file a.manifestPath)
    (hexecutor : ∀ command mode,
      (host.executor.execute command mode s).1.Alike (host'.executor.execute command mode t).1) :
    (run host env clock arguments s).1.stdout =
      (run host' env' clock' arguments' t).1.stdout ∧
    (run host env clock arguments s).1.exit = (run host' env' clock' arguments' t).1.exit ∧
    handedIn host env clock arguments s = handedIn host' env' clock' arguments' t := by
  have hquiet := Arguments.quiet_eq_of_sameButLog hparse hparse' hsame
  obtain ⟨format, level, rfl⟩ : ∃ format level, a' = a.withLog format level :=
    ⟨_, _, Arguments.eq_withLog_of_quiet_eq hquiet⟩
  have halike := perform_alike format level hfile hexecutor
  rw [run_of_parse _ _ _ _ hparse, run_of_parse _ _ _ _ hparse', handedIn_eq _ _ _ _ hparse,
    handedIn_eq _ _ _ _ hparse']
  exact ⟨halike.stdout_eq format level, halike.exitCode_eq, halike.handed_eq format level⟩

end Runs

/-- A run that falls back to showing everything, because its filter cannot be read, and a run
that shows as JSON what its environment asks for. -/
theorem log_never_interferes_unreadable_filter :
    ∃ (host : Host Scripted.Tape) (env env' : Environment),
      env.filter = some "vtest=loud" ∧ Log.Filter.ofString? "vtest=loud" = none ∧
      env'.filter = some "info" ∧ env'.fallback = some "off" ∧
      ∀ clock clock' : Clock,
        (run host env clock ["--log-level", "trace", "v0-1"] {}).1.stdout =
          (run host env' clock' ["v0-1", "--log-format=json"] {}).1.stdout ∧
        (run host env clock ["--log-level", "trace", "v0-1"] {}).1.exit =
          (run host env' clock' ["v0-1", "--log-format=json"] {}).1.exit ∧
        handedIn host env clock ["--log-level", "trace", "v0-1"] {} =
          handedIn host env' clock' ["v0-1", "--log-format=json"] {} := by
  let host : Host Scripted.Tape :=
    { file := fun _ => .ok "[features]\nv0-1 = []", executor := Scripted.executor { code := 3 } }
  let a : Arguments := { target := some "v0-1", logLevel := .trace }
  let a' : Arguments := { target := some "v0-1", logFormat := some .json }
  have hparse : Arguments.parse ["--log-level", "trace", "v0-1"] = .ok a := by decide
  have hparse' : Arguments.parse ["v0-1", "--log-format=json"] = .ok a' := by decide
  have hsame :
      Arguments.SameButLog ["--log-level", "trace", "v0-1"] ["v0-1", "--log-format=json"] :=
    ⟨⟨[.apart .logLevel "trace" (by decide), .positional "v0-1" (by decide)], none⟩,
      ⟨[.positional "v0-1" (by decide), .joined .logFormat "json"], none⟩, rfl, rfl, rfl⟩
  refine
    ⟨host, { filter := some "vtest=loud" }, { filter := some "info", fallback := some "off" }, rfl,
      by decide +kernel, rfl, rfl, ?_⟩
  intro clock clock'
  exact log_never_interferes _ _ clock clock' hparse hparse' hsame rfl fun _ _ => ⟨rfl, rfl⟩

end Program
end FeatureLadder
