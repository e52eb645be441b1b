import FeatureLadder.Shell.Evaluate
import FeatureLadder.Shell.Invocation
import FeatureLadder.Shell.Program

/-!
# Shells

**Input**: a file tree, an environment and the text of a command.

**Algorithm**: `evaluator` ties the knot: what runs the commands in a command is an
evaluator with one step less.  The shell itself is the first program `sh` in the search
path of the environment.

**Results**: `execute` gives what the shell wrote, how it ended, and the tree that it
left, or why there is no shell.
-/

namespace FeatureLadder
namespace Shell

open FeatureLadder.Shell.Action

/-- Runs a program, or a script with the shell that its first line names. -/
def launch (ev : Evaluator) (node : Node) (path : List Char) (fields : List (List Char)) :
    Action Nat := do
  let args := fields.drop 1
  match node with
  | .program name =>
    if name = "sh" then startShell ev (fields.headD []) args
    else runUtility ev name args
  | .file bytes _ =>
    let line := (ofBytes bytes).takeWhile (· ≠ '\n')
    match line with
    | '#' :: '!' :: rest =>
      let words := (Text.pieces ' ' (rest.map fun c => if c = '\t' then ' ' else c)).filter
        (!·.isEmpty)
      match words with
      | [] => startShell ev path (path :: args)
      | interpreter :: more =>
        let argument := if more.isEmpty then [] else [[' '].intercalate more]
        match ← findProgram interpreter with
        | .program node found => ev.launch node found (interpreter :: argument ++ path :: args)
        | _ =>
          warn (path ++ ofText ": not found")
          return 127
    | _ => startShell ev path (path :: args)
  | _ => return 126

/-- An evaluator for commands of a limited depth. -/
def evaluator : Nat → Evaluator
  | 0 =>
    { run := fun _ _ _ => throw .exhausted
      launch := fun _ _ _ => throw .exhausted }
  | n + 1 =>
    { run := fun script tested last => runScript (evaluator n) script tested last
      launch := fun node path fields => launch (evaluator n) node path fields }

/-- The greatest depth of commands in commands. -/
def depthLimit : Nat := 1000000

/-- How a shell ended. -/
structure Ending where
  /-- the status, or none after a signal -/
  code : Option Nat
  stdout : List UInt8
  stderr : List UInt8
  tree : FileTree

/-- The machine of a process that is about to be started. -/
def Machine.start (t : FileTree) (environment : List (List Char × List Char)) : Machine :=
  let bindings := environment.map fun (name, value) =>
    (name, ({ value := some value, exported := true } : Variable))
  let p : Process :=
    { number := 2, shell := 2, name := ['s', 'h'], here := t.here, bindings := bindings
      descriptors := [(0, 0), (1, 1), (2, 2)] }
  { process := p, root := t.root, alive := [2]
    streams := #[.source [], .sink none 0 [], .sink none 0 []] }

/-- Starts a program with some fields and an empty standard input, and waits for it. -/
def startAndWait (t : FileTree) (environment : List (List Char × List Char)) (node : Node)
    (path : List Char) (fields : List (List Char)) : Ending :=
  let ev := evaluator depthLimit
  let whole : Action Outcome := do
    let outcome ← toTheEnd ev (ev.launch node path fields)
    runOwnJobs ev
    return outcome
  let (result, m) := (whole.run).run (Machine.start t environment)
  let written (i : Nat) : List UInt8 :=
    match m.streams[i]? with
    | some (.sink _ _ texts) => toBytes texts.reverse.flatten
    | _ => []
  let code :=
    match result with
    | .ok (.exited n) => some (n % 256)
    | .ok (.signaled _) => none
    | .error _ => some 2
  { code := code, stdout := written 1, stderr := written 2, tree := { t with root := m.root } }

/-- The arguments of a program have to be shorter than this, in bytes. -/
def argumentLimit : Nat := 131072

/-- Runs a text in a new shell whose standard input is empty.  A text that starts with a
sign is taken for options of the shell. -/
def execute (t : FileTree) (environment : List (List Char × List Char)) (text : List Char) :
    Except Failure Ending := do
  let name := ofText "sh"
  let directories := Text.pieces ':' ((environment.lookup (ofText "PATH")).getD barePath)
  let (node, path) ← startedProgram t name false .noSuchFile directories
  if argumentLimit ≤ text.length then throw .argumentTooLong
  return startAndWait t environment node path [name, ['-', 'c'], text]

end Shell
end FeatureLadder
