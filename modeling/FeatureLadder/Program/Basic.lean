import FeatureLadder.Arguments.Help
import FeatureLadder.Arguments.Parse
import FeatureLadder.Plan

/-!
# What the program does

**Input**: the arguments of the program, what reading files gives, and an executor.

**Algorithm**: a listing reads the manifest and shows its versions.  Otherwise a target
is needed and a plan is made for it; the plan is shown if it is only to be tried, and
handed to the executor if not.

**Results**: `proceed` gives the course that the program takes, with what is noted on it
and the state of the executor afterwards; `perform` leaves out the notices.
`Course.printed` and `Course.failure?` are what the program prints and how it fails.  The
executor is used on the course `ran` and on no other, and once.
-/

namespace FeatureLadder
namespace Program

/-- What the program takes from its surroundings. -/
structure Host (σ : Type) where
  /-- the text of the file at a path -/
  file : String → Except Failure String
  executor : Executor σ

/-- The course that the program takes. -/
inductive Course where
  /-- the declared versions are listed, or could not be found out -/
  | listed (catalog : Except Error Catalog)
  /-- there is no target -/
  | idle
  /-- there is no plan for the target -/
  | unplanned (error : Error)
  /-- the plan is shown and not carried out -/
  | tried (plan : Plan)
  /-- the plan was carried out -/
  | ran (plan : Plan) (execution : Execution)

/-- The course that was taken, what was noted on it, and the state of the executor at its
end. -/
structure Passage (σ : Type) where
  course : Course
  notices : List Log.Notice := []
  state : σ

def trialEntry (plan : Plan) : Log.Entry where
  level := .debug
  source := "vtest::commands::run"
  message := "Dry run, not executing: " ++ plan.command.line

section Perform

variable {σ : Type}
variable (host : Host σ)
variable (a : Arguments)

/-- Carries out a plan, or only tries it. -/
def carryOut (plan : Plan) (s : σ) : Passage σ :=
  if a.dryRun then
    { course := .tried plan, notices := [.entry (trialEntry plan)], state := s }
  else
    let (execution, t) := plan.executing host.executor a.options s
    { course := .ran plan execution, notices := execution.notices, state := t }

/-- Carries out what the arguments ask for. -/
def proceed (s : σ) : Passage σ :=
  if a.list then
    let loaded := Manifest.loading a.manifestPath (host.file a.manifestPath)
    { course := .listed loaded.result, notices := loaded.notices, state := s }
  else
    match a.target with
    | none => { course := .idle, state := s }
    | some target =>
      let planned := Plan.making host.file target a.options
      match planned.result with
      | .error e => { course := .unplanned e, notices := planned.notices, state := s }
      | .ok plan =>
        let carried := carryOut host a plan s
        { carried with notices := planned.notices ++ carried.notices }

/-- The course that is taken, and the state of the executor at its end. -/
def perform (s : σ) : Course × σ :=
  ((proceed host a s).course, (proceed host a s).state)

end Perform

def listing (a : Arguments) (catalog : Catalog) : String :=
  let arranged := catalog.arranged a.order
  match a.output with
  | .text => String.join (arranged.names.map (· ++ "\n"))
  | .json =>
    (Json.object [
      ("manifestPath", .text a.manifestPath),
      ("versions", arranged.toJson)]).toPretty ++ "\n"

/-- The summary of a run; a run that was only tried has no result. -/
def summary (plan : Plan) (dryRun : Bool) (result : Option Completion) : Json :=
  let result :=
    match result with
    | none => []
    | some completion => [("result", completion.toJson)]
  .object ([
    ("target", .text plan.target.text),
    ("features", .list (plan.features.map fun v => .text v.text)),
    ("command", .text plan.command.line),
    ("dryRun", .bool dryRun)] ++ result)

/-- What is printed for a plan that is only tried. -/
def trial (a : Arguments) (plan : Plan) : String :=
  match a.output with
  | .text => plan.command.line ++ "\n"
  | .json => (summary plan true none).toPretty ++ "\n"

/-- What is printed for a result: as text, the captured output of tests that failed. -/
def outcome (a : Arguments) (plan : Plan) (completion : Completion) : String :=
  match a.output with
  | .text => if completion.success then "" else completion.output.getD ""
  | .json => (summary plan false (some completion)).toPretty ++ "\n"

/-- The error for a command line without target. -/
def noTarget : Error :=
  .usage ("`VERSION` must be specified\n\n" ++ Arguments.usage)

namespace Course

/-- What the command that was run wrote to the program's own output. -/
def inherited : Course → List UInt8
  | .ran _ execution => execution.stdout
  | _ => []

/-- What the program itself prints, up to the diagnostic. -/
def report (a : Arguments) : Course → String
  | .listed (.ok catalog) => listing a catalog
  | .listed (.error _) => ""
  | .idle => ""
  | .unplanned _ => ""
  | .tried plan => trial a plan
  | .ran plan execution =>
    match execution.answer with
    | .ok completion => outcome a plan completion
    | .error _ => ""

/-- How the program fails, if it does. -/
def failure? : Course → Option Error
  | .listed (.ok _) => none
  | .listed (.error e) => some e
  | .idle => some noTarget
  | .unplanned e => some e
  | .tried _ => none
  | .ran _ execution =>
    match execution.answer with
    | .error e => some e
    | .ok completion =>
      match completion.check with
      | .ok _ => none
      | .error e => some e

/-- The last line, if the program fails: the diagnostic. -/
def diagnostic (c : Course) : String :=
  match c.failure? with
  | none => ""
  | some e => e.message ++ "\n"

/-- Everything that the program itself prints. -/
def printed (a : Arguments) (c : Course) : String :=
  c.report a ++ c.diagnostic

def exitCode (c : Course) : Nat :=
  if c.failure?.isSome then 1 else 0

/-- The bytes of the standard output: what the command wrote comes first. -/
def stdout (a : Arguments) (c : Course) : List UInt8 :=
  c.inherited ++ Utf8.encode (c.printed a).toList

end Course
end Program
end FeatureLadder
