import FeatureLadder.Error
import FeatureLadder.Json.Value
import FeatureLadder.Text.Utf8

/-!
# Results of a run
-/

namespace FeatureLadder

/-- How the tests ended. -/
structure Completion where
  /-- the exit code of the command -/
  code : Int
  /-- whether the tests passed -/
  success : Bool
  /-- what the command wrote, if that was captured -/
  output : Option String
  success_iff : success = true ↔ code = 0
  deriving DecidableEq

namespace Completion

/-- The code of a command that a signal ended. -/
def signalCode : Int := -1

/-- The result of a command that ended with a code. -/
def fromCode (code : Int) (output : Option String := none) : Completion where
  code := code
  success := code == 0
  output := output
  success_iff := beq_iff_eq

/-- A result is an error unless the tests passed. -/
def check (c : Completion) : Except Error Completion :=
  if c.success then .ok c else .error (.testsFailed c.code)

theorem check_eq (c : Completion) :
    c.check = if c.code = 0 then .ok c else .error (.testsFailed c.code) := by
  simp only [check, c.success_iff]

/-- The result as a JSON object; it has no output if none was captured. -/
def toJson (c : Completion) : Json :=
  let output :=
    match c.output with
    | none => []
    | some text => [("output", Json.text text)]
  .object ([("code", .number c.code), ("success", .bool c.success)] ++ output)

end Completion

/-- The text of captured output: first what was written to the standard output, then
what was written to the standard error, each read on its own. -/
def combineOutput (stdout stderr : List UInt8) : String :=
  String.ofList (Utf8.lossy stdout ++ Utf8.lossy stderr)

end FeatureLadder
