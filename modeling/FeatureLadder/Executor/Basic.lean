import FeatureLadder.Command
import FeatureLadder.Completion
import FeatureLadder.Log.Noted
import FeatureLadder.Options

/-!
# Executors

An executor runs commands.  It has a state, which a run may change, and answers with
the result of the command or with the error that kept it from running.

`Executor.running` runs tests and gives their end with what is noted on the way;
`Executor.runTests` is its result.
-/

namespace FeatureLadder

open Log (Entry Noted Notice)

/-- What came of handing a command to an executor. -/
structure Execution where
  answer : Except Error Completion
  /-- what the command wrote to the program's own standard output -/
  stdout : List UInt8 := []
  /-- what was noted, with what the command wrote to the program's own standard error -/
  notices : List Notice := []

/-- A way to run commands, with states of type `σ`. -/
structure Executor (σ : Type) where
  execute : Command → OutputMode → σ → Execution × σ

def Command.startEntry (command : Command) : Entry where
  level := .info
  source := "vtest_core::runner"
  message := "Running: " ++ command.line

def Completion.endEntry (c : Completion) : Entry :=
  if c.success then
    { level := .info, source := "vtest_core::runner", message := "Tests passed" }
  else
    { level := .info, source := "vtest_core::runner", message := "Tests failed",
      fields := [⟨"code", .number c.code⟩] }

/-- The answer of an execution, between the notes about its start and its end. -/
def Execution.reported (e : Execution) (command : Command) : Noted Completion := do
  .note command.startEntry
  let completion ← { result := e.answer, notices := e.notices }
  .note completion.endEntry
  return completion

namespace Executor

variable {σ : Type}

/-- Runs the tests of a command. -/
def running (executor : Executor σ) (command : Command) (mode : OutputMode) (s : σ) :
    Execution × σ :=
  let (execution, t) := executor.execute command mode s
  let reported := execution.reported command
  ({ answer := reported.result, stdout := execution.stdout, notices := reported.notices }, t)

/-- How the tests of a command end. -/
def runTests (executor : Executor σ) (command : Command) (mode : OutputMode) (s : σ) :
    Except Error Completion × σ :=
  let (execution, t) := executor.running command mode s
  (execution.answer, t)

variable (executor : Executor σ) (command : Command) (mode : OutputMode) (s : σ)

@[simp] theorem answer_running :
    (executor.running command mode s).1.answer = (executor.execute command mode s).1.answer := by
  simp only [running, Execution.reported, Noted.result_bind, Noted.result_note]
  cases (executor.execute command mode s).1.answer <;> rfl

@[simp] theorem stdout_running :
    (executor.running command mode s).1.stdout = (executor.execute command mode s).1.stdout :=
  rfl

@[simp] theorem state_running :
    (executor.running command mode s).2 = (executor.execute command mode s).2 :=
  rfl

theorem runTests_eq :
    executor.runTests command mode s =
      ((executor.execute command mode s).1.answer, (executor.execute command mode s).2) := by
  rw [← answer_running, ← state_running]
  rfl

end Executor
end FeatureLadder
