import FeatureLadder.Executor.Scripted
import FeatureLadder.Executor.Shell
import FeatureLadder.Proofs.Courses
import FeatureLadder.Proofs.Documents

/-!
# A dry run predicts the run

**Input**: a target, and two runs for it that differ in one argument: one of them only
tries its plan.

Both runs ask for a plan in the same way.  If there is none, they end alike.  If there is
one, the dry run shows it and the real run hands its command to the executor.  To speak of
what reaches the executor, the runs are watched (`runFor`); `perform_forTarget` holds of
any executor, so also of a watched one.

**Results.**
* `perform_of_unplanned`, `perform_dry`, `perform_real`: the courses of the two runs.
* `dry_run_predicts_run`: one error for both, or the command line that is printed, as
  text or in the summary, is the one that is handed over, once.
-/

namespace FeatureLadder

/-- The arguments of a run for a target, which may be only tried. -/
def Arguments.forTarget (a : Arguments) (target : String) (dryRun : Bool) : Arguments :=
  { a with list := false, target := some target, dryRun := dryRun }

/-- A scripted executor records the line of the command it is handed. -/
theorem Scripted.history_execute
    (default : Response)
    (command : Command)
    (mode : OutputMode)
    (tape : Tape) :
    ((executor default).execute command mode tape).2.history =
      tape.history ++ [command.line] := by
  cases hqueued : tape.queued <;> simp [executor, Tape.execute, hqueued]

namespace Program

section Prediction

variable {σ : Type}
variable (host : Host σ)
variable (a : Arguments)
variable (target : String)
variable (s : σ)

/-- Whether it is only tried or not, a run follows the plan for its target. -/
theorem perform_forTarget
    (dryRun : Bool) :
    perform host (a.forTarget target dryRun) s =
      match Plan.make host.file target a.options with
      | .error e => (.unplanned e, s)
      | .ok plan =>
        if dryRun then (.tried plan, s)
        else
          (.ran plan (plan.executing host.executor a.options s).1,
            (plan.executing host.executor a.options s).2) :=
  perform_of_target host (a.forTarget target dryRun) s rfl rfl

variable {a target}

/-- Without a plan, both runs end alike. -/
theorem perform_of_unplanned
    {e : Error}
    (hmake : Plan.make host.file target a.options = .error e)
    (dryRun : Bool) :
    perform host (a.forTarget target dryRun) s = (.unplanned e, s) := by
  rw [perform_forTarget, hmake]

/-- A plan that is only tried is shown, and the executor stays as it is. -/
theorem perform_dry
    {plan : Plan}
    (hmake : Plan.make host.file target a.options = .ok plan) :
    perform host (a.forTarget target true) s = (.tried plan, s) := by
  rw [perform_forTarget, hmake]
  rfl

/-- The same plan is handed to the executor if it is not only tried. -/
theorem perform_real
    {plan : Plan}
    (hmake : Plan.make host.file target a.options = .ok plan) :
    perform host (a.forTarget target false) s =
      (.ran plan (plan.executing host.executor a.options s).1,
        (plan.executing host.executor a.options s).2) := by
  rw [perform_forTarget, hmake]
  rfl

variable (a target)

/-- A watched run for a target: its course, the executor's state, and the commands that
the executor was handed. -/
def runFor (dryRun : Bool) : Course × σ × List (Command × OutputMode) :=
  perform host.watched (a.forTarget target dryRun) (s, [])

/-- Watching a run does not change it. -/
theorem runFor_unwatched
    (dryRun : Bool) :
    ((runFor host a target s dryRun).1, (runFor host a target s dryRun).2.1) =
      perform host (a.forTarget target dryRun) s := by
  rw [runFor, perform_watched]

variable {a target}

theorem runFor_of_unplanned
    {e : Error}
    (hmake : Plan.make host.file target a.options = .error e)
    (dryRun : Bool) :
    runFor host a target s dryRun = (.unplanned e, s, []) :=
  perform_of_unplanned host.watched (s, []) hmake dryRun

theorem runFor_dry
    {plan : Plan}
    (hmake : Plan.make host.file target a.options = .ok plan) :
    runFor host a target s true = (.tried plan, s, []) :=
  perform_dry host.watched (s, []) hmake

theorem runFor_real
    {plan : Plan}
    (hmake : Plan.make host.file target a.options = .ok plan) :
    runFor host a target s false =
      (.ran plan (plan.executing host.executor a.options s).1,
        (plan.executing host.executor a.options s).2,
        [(plan.command, a.options.mode)]) :=
  perform_real host.watched (s, []) hmake

/-- A plan that is shown is all that is printed. -/
theorem printed_tried
    (a : Arguments)
    (plan : Plan) :
    (Course.tried plan).printed a = trial a plan :=
  String.append_empty

variable (a target)

/-- **A dry run predicts the run.**

* Watching the runs changes neither of them.
* If no plan can be made, both runs fail with the error that says why, print nothing
  before it, and hand nothing to the executor.
* If one can, its command calls the tool with the names of the planned versions, in the
  directory of the manifest.  The dry run hands nothing to the executor, and prints the line
  of the command that the real run hands to it, once; a scripted executor records that line.
* The summaries agree in what they say of the plan.  They differ in `dryRun` and in the
  result, which only the real run has: it is what the executor answers.
* A command that the executor fails to run leaves no summary, and the run fails with the
  executor's error; that of a shell has the predicted line. -/
theorem dry_run_predicts_run :
    (∀ dryRun, ((runFor host a target s dryRun).1, (runFor host a target s dryRun).2.1) =
      perform host (a.forTarget target dryRun) s) ∧
    (∀ e, Plan.make host.file target a.options = .error e →
      ∀ dryRun,
        (runFor host a target s dryRun).1.failure? = some e ∧
        (runFor host a target s dryRun).1.report (a.forTarget target dryRun) = "" ∧
        (runFor host a target s dryRun).2 = (s, [])) ∧
    ∀ plan, Plan.make host.file target a.options = .ok plan →
      plan.command =
        { tool := a.tool
          features := plan.features.map Version.text
          workingDir := a.options.workingDir } ∧
      (runFor host a target s true).1.failure? = none ∧
      (runFor host a target s true).2 = (s, []) ∧
      (runFor host a target s false).2.2 = [(plan.command, a.options.mode)] ∧
      (a.output = .text →
        (runFor host a target s true).1.printed (a.forTarget target true) =
          plan.command.line ++ "\n") ∧
      (∀ (default : Scripted.Response) (tape : Scripted.Tape),
        (perform ⟨host.file, Scripted.executor default⟩ (a.forTarget target true) tape).2 =
          tape ∧
        (perform ⟨host.file, Scripted.executor default⟩ (a.forTarget target false)
            tape).2.history =
          tape.history ++ [plan.command.line]) ∧
      (a.output = .json →
        Datum.read? ((runFor host a target s true).1.printed (a.forTarget target true)) =
          some (.object (plan.members ++ [("dryRun", .bool true)])) ∧
        ∀ completion,
          (host.executor.execute plan.command a.options.mode s).1.answer = .ok completion →
          Datum.read? ((runFor host a target s false).1.report (a.forTarget target false)) =
            some (.object (plan.members ++
              [("dryRun", .bool false), ("result", .object completion.members)]))) ∧
      (∀ e,
        (host.executor.execute plan.command a.options.mode s).1.answer = .error e →
        (runFor host a target s false).1.report (a.forTarget target false) = "" ∧
        (runFor host a target s false).1.failure? = some e) ∧
      ∀ (environment : List (String × String)) (tree : FileTree) (e : Error),
        ((Shell.executor environment).execute plan.command a.options.mode tree).1.answer =
          .error e →
        ∃ cause, e = .spawnFailed plan.command.line cause := by
  refine ⟨runFor_unwatched host a target s, ?_, ?_⟩
  · intro e hmake dryRun
    rw [runFor_of_unplanned host s hmake]
    exact ⟨rfl, rfl, rfl⟩
  · intro plan hmake
    rw [runFor_dry host s hmake, runFor_real host s hmake, printed_tried]
    refine ⟨Plan.command_of_make host.file a.options hmake, rfl, rfl, rfl, ?_, ?_, ?_, ?_, ?_⟩
    · intro htext
      have hform : (a.forTarget target true).output = .text := htext
      rw [trial, hform]
    · intro default tape
      rw [perform_dry _ tape hmake, perform_real _ tape hmake]
      exact ⟨rfl, Scripted.history_execute default plan.command a.options.mode tape⟩
    · intro hjson
      have hform : ∀ dryRun, (a.forTarget target dryRun).output = .json := fun _ => hjson
      refine ⟨read?_report (hform true) (.tried plan), ?_⟩
      intro completion hanswer
      rw [read?_report (hform false), Course.document?, Plan.answer_executing, hanswer]
    · intro e hanswer
      rw [Course.report, Course.failure?, Plan.answer_executing, hanswer]
      exact ⟨rfl, rfl⟩
    · intro environment tree e hanswer
      obtain ⟨cause, -, he⟩ := (Shell.executor_error_iff _ _ _ _ e).mp hanswer
      exact ⟨cause, he⟩

end Prediction

/-- The summaries of a run whose tests fail with captured output, and the error that both
runs have for a version that is not declared. -/
theorem dry_run_predicts_captured_run :
    ∃ (host : Host Scripted.Tape) (a : Arguments) (plan : Plan) (e : Error),
      a.output = .json ∧ a.capture = true ∧
      Plan.make host.file "v0-1" a.options = .ok plan ∧
      Plan.make host.file "v0-2" a.options = .error e ∧
      Datum.read? ((runFor host a "v0-1" {} true).1.printed (a.forTarget "v0-1" true)) =
        some (.object (plan.members ++ [("dryRun", .bool true)])) ∧
      Datum.read? ((runFor host a "v0-1" {} false).1.report (a.forTarget "v0-1" false)) =
        some (.object (plan.members ++ [("dryRun", .bool false), ("result", .object
          [("code", .number 3 0), ("success", .bool false), ("output", .text "")])])) ∧
      ∀ dryRun, (runFor host a "v0-2" {} dryRun).1.failure? = some e := by
  let host : Host Scripted.Tape :=
    { file := fun _ => .ok "[features]\nv0-1 = []", executor := Scripted.executor { code := 3 } }
  let a : Arguments := { capture := true, output := .json }
  let v : Version := (Version.ofChars? ['v', '0', '-', '1']).get rfl
  let plan : Plan := Plan.forTarget a.options v "[features]\nv0-1 = []"
  have hmake : Plan.make host.file "v0-1" a.options = .ok plan := by decide +kernel
  have herror : Plan.make host.file "v0-2" a.options = .error (.undeclared "v0-2" "v0-1") := by
    decide +kernel
  obtain ⟨-, -, hplanned⟩ := dry_run_predicts_run host a "v0-1" {}
  obtain ⟨-, -, -, -, -, -, hjson, -⟩ := hplanned plan hmake
  obtain ⟨-, hunplanned, -⟩ := dry_run_predicts_run host a "v0-2" {}
  obtain ⟨hdry, hreal⟩ := hjson rfl
  refine ⟨host, a, plan, _, rfl, rfl, hmake, herror, hdry, hreal _ rfl, ?_⟩
  intro dryRun
  exact (hunplanned _ herror dryRun).1

end Program
end FeatureLadder
