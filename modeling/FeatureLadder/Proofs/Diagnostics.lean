import FeatureLadder.Executor.Shell
import FeatureLadder.Proofs.Listing
import FeatureLadder.Proofs.Verdict

/-!
# Where the diagnostic of a failed run ends up

**Input**: a run for a target whose plan is carried out with captured output, and the
executor's answer: a code other than zero and any text.

As text, the captured output is printed as it is, and the diagnostic follows without a line
feed in between.  Whether the diagnostic has a line of its own is left to the output:

* what stands behind the last line feed of the output is its open line;
* the open line and the diagnostic are printed as one line, and that is the last.

**Results.**
* `lastLine?_append_line`: a line that is printed behind a text joins its open line.
* `openLine_eq_empty_iff`: which texts leave no line open.
* `Scripted.executor_captures`, `Shell.executor_captures`: captured output reaches the
  program's own output through its report alone.
* `failed_run_last_line`: the last line of a failed run, and when it is the diagnostic.
* `failed_run_joins_diagnostic`: it is not always.
-/

namespace FeatureLadder

/-- What a command writes while its output is captured does not reach the program's own
output. -/
def Executor.Captures {σ : Type} (e : Executor σ) : Prop :=
  ∀ command s, (e.execute command .capture s).1.stdout = []

theorem Scripted.executor_captures
    (default : Response) :
    (executor default).Captures :=
  fun _ _ => rfl

theorem Shell.executor_captures
    (environment : List (String × String)) :
    (executor environment).Captures := by
  intro command tree
  simp only [executor]
  split <;> rfl

/-- The number of a code is written on one line. -/
theorem lf_not_mem_toString
    (n : Int) :
    '\n' ∉ (toString n).toList := by
  have hdigits : ∀ m : Nat, '\n' ∉ m.repr.toList := by
    intro m hmem
    rw [Nat.toList_repr] at hmem
    have hdigit := Nat.isDigit_of_mem_toDigits (by decide) (by decide) hmem
    revert hdigit
    decide
  cases n with
  | ofNat m => exact hdigits m
  | negSucc m =>
      have hsign : (toString (Int.negSucc m)).toList = '-' :: (m + 1).repr.toList := by
        change ("-" ++ (m + 1).repr).toList = _
        simp
      rw [hsign, List.mem_cons, not_or]
      exact ⟨by decide, hdigits (m + 1)⟩

/-- The diagnostic of tests that failed is one line. -/
theorem Error.lf_not_mem_testsFailed
    (code : Int) :
    '\n' ∉ (Error.testsFailed code).message.toList := by
  have hcode := lf_not_mem_toString code
  unfold message
  simp only [String.toList_append, List.mem_append, not_or]
  exact ⟨⟨by decide, hcode⟩, by decide⟩

namespace Program

def lastLine? (s : String) : Option String :=
  (printedLines s).getLast?

/-- What stands behind the last line feed of a text. -/
def openLine (s : String) : String :=
  String.ofList (Text.lastPiece '\n' s.toList)

/-- **A line that is printed behind a text joins its open line.** -/
theorem lastLine?_append_line
    (s : String)
    {line : String}
    (hline : '\n' ∉ line.toList) :
    lastLine? (s ++ (line ++ "\n")) = some (openLine s ++ line) := by
  have htext : (s ++ (line ++ "\n")).toList = s.toList ++ line.toList ++ '\n' :: [] := by
    simp
  have hlines :
      Text.pieces '\n' (s ++ (line ++ "\n")).toList =
        Text.pieces '\n' (s.toList ++ line.toList) ++ [[]] := by
    rw [htext, Text.pieces_append_cons]
    rfl
  unfold lastLine? printedLines openLine
  rw [hlines, List.dropLast_concat, Text.pieces_append_of_not_mem _ hline, List.map_append,
    List.map_singleton, List.getLast?_concat, String.ofList_append, String.ofList_toList]

/-- No line is left open exactly by the empty text and by a text that ends with a line
feed. -/
theorem openLine_eq_empty_iff
    (s : String) :
    openLine s = "" ↔ s = "" ∨ ∃ front, s = front ++ "\n" := by
  have hempty : openLine s = "" ↔ Text.lastPiece '\n' s.toList = [] := by
    unfold openLine
    exact String.ofList_eq_empty_iff
  rw [hempty, Text.lastPiece_eq_nil_iff, String.toList_eq_nil_iff]
  apply or_congr_right
  constructor
  · rintro ⟨front, hs⟩
    refine ⟨String.ofList front, ?_⟩
    rw [← String.toList_inj, hs]
    simp
  · rintro ⟨front, rfl⟩
    exact ⟨front.toList, by simp⟩

section FailedRun

variable {σ : Type}
variable {a : Arguments}
variable {completion : Completion}

/-- As text, a failed run prints what was captured and then the diagnostic. -/
theorem printed_of_failed
    (plan : Plan)
    {execution : Execution}
    (htext : a.output = .text)
    (hanswer : execution.answer = .ok completion)
    (hcode : completion.code ≠ 0) :
    (Course.ran plan execution).printed a =
      completion.output.getD "" ++ ((Error.testsFailed completion.code).message ++ "\n") := by
  have hfails : completion.success = false := by
    rw [← Bool.not_eq_true, completion.success_iff]
    exact hcode
  have hreport : (Course.ran plan execution).report a = completion.output.getD "" := by
    simp [Course.report, hanswer, outcome, htext, hfails]
  have hdiagnostic :
      (Course.ran plan execution).diagnostic =
        (Error.testsFailed completion.code).message ++ "\n" := by
    simp [Course.diagnostic, Course.failure?_ran, hanswer, hcode]
  rw [Course.printed, hreport, hdiagnostic]

/-- **The last line of a failed run.**  If the output is captured and printed as text, and the
command ends with a code other than zero, then the program fails, and what it prints ends
with one line that consists of what the captured output left open and of the diagnostic.  So
the diagnostic is the last line if and only if the output is empty or ends with a line feed.
With an executor that captures, what is printed is all of the standard output. -/
theorem failed_run_last_line
    (host : Host σ)
    (s : σ)
    {target : String}
    {plan : Plan}
    (hlist : a.list = false)
    (htarget : a.target = some target)
    (hdry : a.dryRun = false)
    (htext : a.output = .text)
    (hcapture : a.capture = true)
    (hmake : Plan.make host.file target a.options = .ok plan)
    (hanswer : (host.executor.execute plan.command .capture s).1.answer = .ok completion)
    (hcode : completion.code ≠ 0) :
    (perform host a s).1.exitCode = 1 ∧
    lastLine? ((perform host a s).1.printed a) =
      some (openLine (completion.output.getD "") ++
        ("test failed (exit code " ++ toString completion.code ++ ")")) ∧
    (lastLine? ((perform host a s).1.printed a) =
        some ("test failed (exit code " ++ toString completion.code ++ ")") ↔
      completion.output.getD "" = "" ∨
        ∃ front, completion.output.getD "" = front ++ "\n") ∧
    (host.executor.Captures →
      (perform host a s).1.stdout a =
        Utf8.encode ((perform host a s).1.printed a).toList) := by
  have hmode : a.options.mode = .capture := by
    simp [Arguments.options, hcapture]
  have hcourse :
      (perform host a s).1 = .ran plan (plan.executing host.executor a.options s).1 := by
    simp [perform_of_target host a s hlist htarget, hmake, hdry]
  have hended : (plan.executing host.executor a.options s).1.answer = .ok completion := by
    rw [Plan.answer_executing, hmode, hanswer]
  have hlast :=
    lastLine?_append_line (completion.output.getD "")
      (Error.lf_not_mem_testsFailed completion.code)
  rw [← printed_of_failed plan htext hended hcode, ← hcourse] at hlast
  refine ⟨?_, hlast, ?_, ?_⟩
  · rw [hcourse, Course.exitCode, Course.failure?_ran, hended]
    simp [hcode]
  · rw [hlast, ← openLine_eq_empty_iff, Option.some_inj]
    exact String.append_eq_right_iff
  · intro hcaptures
    rw [hcourse, Course.stdout, Course.inherited, Plan.stdout_executing, hmode,
      hcaptures plan.command s, List.nil_append]

end FailedRun

/-- A command that a signal ended in the middle of its second line, and one that failed after
a whole line. -/
theorem failed_run_last_line_signalled :
    ∃ (host : Host Scripted.Tape) (a : Arguments) (plan : Plan) (cut whole : Scripted.Tape),
      Plan.make host.file "v0-1" a.options = .ok plan ∧
      cut.queued = [⟨Completion.signalCode, some "ok\nhalf"⟩] ∧
      whole.queued = [⟨101, some "ok\n"⟩] ∧
      lastLine? ((perform host a cut).1.printed a) = some "halftest failed (exit code -1)" ∧
      lastLine? ((perform host a whole).1.printed a) = some "test failed (exit code 101)" ∧
      (perform host a whole).1.stdout a =
        Utf8.encode ((perform host a whole).1.printed a).toList := by
  let host : Host Scripted.Tape :=
    { file := fun _ => .ok "[features]\nv0-1 = []\n", executor := Scripted.executor }
  let a : Arguments := { target := some "v0-1", capture := true }
  let v : Version := (Version.ofChars? ['v', '0', '-', '1']).get rfl
  let plan : Plan := Plan.forTarget a.options v "[features]\nv0-1 = []\n"
  let cut : Scripted.Tape := { queued := [⟨Completion.signalCode, some "ok\nhalf"⟩] }
  let whole : Scripted.Tape := { queued := [⟨101, some "ok\n"⟩] }
  have hmake : Plan.make host.file "v0-1" a.options = .ok plan := by decide +kernel
  have hopen : openLine "ok\nhalf" = "half" := by decide +kernel
  obtain ⟨-, hcut, -, -⟩ :=
    failed_run_last_line (a := a) host cut rfl rfl rfl rfl rfl hmake rfl (by decide)
  obtain ⟨-, -, hwhole, hstdout⟩ :=
    failed_run_last_line (a := a) host whole rfl rfl rfl rfl rfl hmake rfl (by decide)
  refine
    ⟨host, a, plan, cut, whole, hmake, rfl, rfl, ?_, hwhole.mpr (Or.inr ⟨"ok", rfl⟩),
      hstdout (Scripted.executor_captures _)⟩
  exact hcut.trans (congrArg (fun line => some (line ++ _)) hopen)

/-- **The diagnostic of a failed run need not be a line of its own**: captured output that does
not end with a line feed is continued by it. -/
theorem failed_run_joins_diagnostic :
    ∃ (host : Host Scripted.Tape) (a : Arguments) (plan : Plan) (completion : Completion),
      a.list = false ∧ a.target = some "v0-1" ∧ a.dryRun = false ∧
      a.output = .text ∧ a.capture = true ∧
      Plan.make host.file "v0-1" a.options = .ok plan ∧
      (host.executor.execute plan.command .capture {}).1.answer = .ok completion ∧
      completion.code = 1 ∧ completion.output = some "abc" ∧
      (perform host a {}).1.printed a = "abctest failed (exit code 1)\n" ∧
      lastLine? ((perform host a {}).1.printed a) ≠ some "test failed (exit code 1)" := by
  let host : Host Scripted.Tape :=
    { file := fun _ => .ok "[features]\nv0-1 = []\n"
      executor := Scripted.executor ⟨1, some "abc"⟩ }
  let a : Arguments := { target := some "v0-1", capture := true }
  let v : Version := (Version.ofChars? ['v', '0', '-', '1']).get rfl
  let plan : Plan := Plan.forTarget a.options v "[features]\nv0-1 = []\n"
  have hmake : Plan.make host.file "v0-1" a.options = .ok plan := by decide +kernel
  have hprinted : (perform host a {}).1.printed a = "abctest failed (exit code 1)\n" := by
    decide +kernel
  refine
    ⟨host, a, plan, .fromCode 1 (some "abc"), rfl, rfl, rfl, rfl, rfl, hmake, rfl, rfl, rfl,
      hprinted, ?_⟩
  rw [hprinted]
  decide +kernel

end Program
end FeatureLadder
