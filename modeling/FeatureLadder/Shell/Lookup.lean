import FeatureLadder.Shell.Calling
import FeatureLadder.Shell.Running

/-!
# What a command's name stands for

**Input**: the name of a command.

**Algorithm**: a name with a slash is a path.  Any other name is looked up among the
functions, the commands of the shell, and the programs in the directories of the search
path, in this order.

**Results**: `findCommand`, and `describe` in words.
-/

namespace FeatureLadder
namespace Shell

/-- The commands of the shell whose failure ends a script, and whose assignments stay. -/
def specialNames : List String :=
  [".", ":", "break", "continue", "eval", "exec", "exit", "export", "local", "readonly", "return",
    "set", "shift", "times", "trap", "unset"]

/-- The other commands of the shell. -/
def regularNames : List String :=
  ["[", "alias", "bg", "cd", "chdir", "command", "echo", "false", "fg", "getopts", "hash", "jobs",
    "kill", "printf", "pwd", "read", "test", "true", "type", "ulimit", "umask", "unalias", "wait"]

/-- The commands of the shell whose arguments can be assignments. -/
def declaringNames : List String :=
  ["alias", "export", "local", "readonly"]

/-- The search path that is used unless another one is set. -/
def usualPath : List Char :=
  ofText "/usr/local/sbin:/usr/local/bin:/usr/sbin:/usr/bin:/sbin:/bin"

/-- What a command's name stands for. -/
inductive Command where
  | function (body : Script)
  | builtin (name : String)
  | program (node : Node) (path : List Char)
  | missing (cause : Failure)

/-- The program at a path, or why there is none. -/
def programAt (t : FileTree) (path : List Char) : Except Failure Node := do
  match ← t.find (toText path) with
  | .program name => return .program name
  | .file bytes true => return .file bytes true
  | _ => throw .permissionDenied

/-- The program that a name stands for in a list of directories. -/
def searchPath (t : FileTree) (name : List Char) : List (List Char) → Failure → Command
  | [], cause => .missing cause
  | directory :: more, cause =>
    let path := if directory.isEmpty then name else directory ++ ['/'] ++ name
    match programAt t path with
    | .ok node => .program node path
    | .error .noSuchFile | .error .notDirectory => searchPath t name more cause
    | .error e => searchPath t name more e

/-- The search path of a process whose environment has none. -/
def barePath : List Char :=
  ofText "/bin:/usr/bin"

/-- The program that the system starts for a name without a slash, searched in some
directories, and its path.  A program that may not be run is passed over but remembered
in `denied`, a missing one leaves its `cause`, and any other failure ends the search. -/
def startedProgram (t : FileTree) (name : List Char) (denied : Bool) (cause : Failure) :
    List (List Char) → Except Failure (Node × List Char)
  | [] => .error (if denied then .permissionDenied else cause)
  | directory :: more =>
    let path := if directory.isEmpty then name else directory ++ ['/'] ++ name
    match programAt t path with
    | .ok node => .ok (node, path)
    | .error .permissionDenied => startedProgram t name true cause more
    | .error .noSuchFile => startedProgram t name denied .noSuchFile more
    | .error .notDirectory => startedProgram t name denied .notDirectory more
    | .error e => .error e

/-- Remembers where a program was found. -/
def remember (name path : List Char) : Action PUnit :=
  modifyProcess fun p =>
    if p.known.any (·.1 == name) then
      { p with known := p.known.map fun k => if k.1 == name then (name, path, false) else k }
    else { p with known := p.known ++ [(name, path, false)] }

/-- The program that a name stands for. -/
def findProgram (name : List Char) (path : Option (List Char) := none) : Action Command := do
  let t ← tree
  if name.contains '/' then
    match programAt t name with
    | .ok node => return .program node name
    | .error e => return .missing e
  else
    let usual := path.isNone
    let path := path.getD ((← valueOfText? "PATH").getD [])
    let found := searchPath t name (Text.pieces ':' path) .noSuchFile
    match found with
    | .program _ path => if usual then remember name path
    | _ => pure ⟨⟩
    return found

/-- Runs a program in the running process.  It finds the variables that are exported, in the
order of the table in which the shell keeps them. -/
def startProgram (ev : Evaluator) (node : Node) (path : List Char) (fields : List (List Char)) :
    Action Nat := do
  modifyProcess fun p =>
    let exported := p.bindings.filter (·.2.exported)
    { p with bindings := exported.mergeSort fun a b => bucket 39 a.1 ≤ bucket 39 b.1 }
  ev.launch node path fields

/-- What a command's name stands for; functions count only with `functions`. -/
def findCommand (name : List Char) (functions : Bool := true)
    (path : Option (List Char) := none) : Action Command := do
  if name.contains '/' then return ← findProgram name
  let p ← process
  match if functions then p.functions.lookup name else none with
  | some body => return .function body
  | none =>
    let text := toText name
    if specialNames.contains text || regularNames.contains text then return .builtin text
    else findProgram name path

/-- Why a command could not be run. -/
def commandReason : Failure → String
  | .noSuchFile | .notDirectory => "not found"
  | e => e.reason

/-- The status of a path that could not be run. -/
def commandStatus : Failure → Nat
  | .noSuchFile | .notDirectory | .nameTooLong | .tooManyLinks => 127
  | _ => 126

/-- Says what a name stands for, in words or as it could be written, and gives the
status. -/
def describe (inWords : Bool) (name : List Char) (path : Option (List Char) := none) :
    Action Nat := do
  let say (words : String) (plain : List Char) : Action Nat := do
    put ((if inWords then name ++ ofText words else plain) ++ ['\n'])
    return 0
  if keywords.contains (toText name) then return ← say " is a shell keyword" name
  match (← process).aliases.lookup name with
  | some value =>
    if inWords then put (name ++ ofText " is an alias for " ++ value ++ ['\n'])
    else put (ofText "alias " ++ name ++ ['='] ++ quoted value ++ ['\n'])
    return 0
  | none =>
    let found ←
      if name.contains '/' then
        match (← tree).find (toText name) with
        | .ok node => pure (Command.program node name)
        | .error e => pure (Command.missing e)
      else findCommand name true path
    match found with
    | .function _ => say " is a shell function" name
    | .builtin text =>
      say (if specialNames.contains text then " is a special shell builtin" else " is a shell builtin")
        name
    | .program _ path => say (" is " ++ toText path) path
    | .missing _ =>
      if inWords then put (name ++ ofText ": not found\n")
      return 127

end Shell
end FeatureLadder
