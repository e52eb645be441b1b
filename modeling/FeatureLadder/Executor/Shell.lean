import FeatureLadder.Executor.Basic
import FeatureLadder.FileTree
import FeatureLadder.Shell.Run

/-!
# The shell executor

Hands the command line to a shell that runs in a file tree, with an empty standard
input.  The shell runs in the directory of the command; a null character anywhere, a
directory that cannot be entered, or a search path without shell keeps it from starting,
in this order.  The variables of the environment are the same for all commands.

**Results**: `executor_error_iff` says that a command fails to start with an error that
carries its line, and in no other way.
-/

namespace FeatureLadder

/-- The tree as a command with a working directory finds it. -/
def FileTree.enter (t : FileTree) : Option String → Except Failure FileTree
  | none => .ok t
  | some directory => do
    let location ← t.locate directory
    match t.root.get? location with
    | some (.directory _) => return { t with here := location }
    | some _ => throw .notDirectory
    | none => throw .noSuchFile

namespace Shell

/-- Whether a text holds the null character. -/
def hasNull (s : String) : Bool :=
  s.toList.contains (Char.ofNat 0)

def span (command : FeatureLadder.Command) (mode : OutputMode) : Log.Span where
  name := "execute"
  source := "vtest_core::runner"
  fields := [⟨"mode", .shown (match mode with | .inherit => "Inherit" | .capture => "Capture")⟩,
    ⟨"tool", .shown command.tool⟩]

/-- What is noted about a command that ended with a code. -/
def endEntry (command : FeatureLadder.Command) (mode : OutputMode) (code : Int) : Log.Entry where
  level := .debug
  source := "vtest_core::runner"
  message := "Command completed with exit code: " ++ toString code ++ " in "
  timed := true
  spans := [span command mode]

/-- What a command that ended reports in a mode. -/
def Ending.execution (e : Ending) (command : FeatureLadder.Command) (mode : OutputMode) :
    Execution :=
  let code := e.code.elim Completion.signalCode Int.ofNat
  match mode with
  | .inherit =>
    { answer := .ok (.fromCode code)
      stdout := e.stdout
      notices := [.raw e.stderr, .entry (endEntry command mode code)] }
  | .capture =>
    { answer := .ok (.fromCode code (some (combineOutput e.stdout e.stderr)))
      notices := [.entry (endEntry command mode code)] }

/-- Starts a command in a file tree, and waits for its end. -/
def spawn (environment : List (String × String)) (command : FeatureLadder.Command)
    (tree : FileTree) : Except Failure Ending :=
  if hasNull command.line || command.workingDir.any hasNull then .error .nullInCommand
  else do
    let bindings := environment.map fun (name, value) => (ofText name, ofText value)
    Shell.execute (← tree.enter command.workingDir) bindings (ofText command.line)

/-- The executor whose state is a file tree, in an environment. -/
def executor (environment : List (String × String)) : Executor FileTree where
  execute command mode tree :=
    match spawn environment command tree with
    | .error cause => ({ answer := .error (.spawnFailed command.line cause) }, tree)
    | .ok ending => (ending.execution command mode, { ending.tree with here := tree.here })

/-- **A command fails to start with an error that carries its line**, and in no other way. -/
theorem executor_error_iff
    (environment : List (String × String))
    (command : FeatureLadder.Command)
    (mode : OutputMode)
    (tree : FileTree)
    (e : Error) :
    ((executor environment).execute command mode tree).1.answer = .error e ↔
      ∃ cause, spawn environment command tree = .error cause ∧
        e = .spawnFailed command.line cause := by
  cases hspawn : spawn environment command tree with
  | error cause => simp [executor, hspawn, eq_comm]
  | ok ending => cases mode <;> simp [executor, hspawn, Ending.execution]

end Shell
end FeatureLadder
