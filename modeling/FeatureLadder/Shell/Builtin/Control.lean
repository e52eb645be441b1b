import FeatureLadder.Shell.Calling
import FeatureLadder.Shell.Lookup
import FeatureLadder.Shell.Redirection

/-!
# Commands on what is run

Leaving loops, functions and the script, running texts, files and programs, and saying
what names stand for.
-/

namespace FeatureLadder
namespace Shell
namespace Control

open FeatureLadder.Shell.Action

/-- The number of loops that are meant. -/
def loopCount (args : List (List Char)) : Action Nat := do
  match args with
  | [] => return min 1 (← process).loops
  | text :: _ =>
    let n ← number text
    if n = 0 then illegalNumber text
    return min n (← process).loops

/-- Leaves loops. -/
def leave (args : List (List Char)) : Action Nat := do
  let n ← loopCount args
  setStatus 0
  if n = 0 then return 0 else throw (.leave n)

/-- Starts the next round of a loop. -/
def again (args : List (List Char)) : Action Nat := do
  let n ← loopCount args
  setStatus 0
  if n = 0 then return 0 else throw (.again n)

/-- Leaves a function or a file. -/
def back (args : List (List Char)) : Action Nat := do
  if let text :: _ := args then setStatus (← number text)
  throw .back

def exit (args : List (List Char)) : Action Nat := do
  if let text :: _ := args then setStatus (← number text)
  throw .exit

/-- Runs its arguments as a text. -/
def eval (ev : Evaluator) (tested : Bool) (args : List (List Char)) : Action Nat := do
  let args := if args.head? = some ['-', '-'] then args.drop 1 else args
  if args.isEmpty then return 0
  runText ev tested false ([' '].intercalate args)

/-- The file that is meant by a name, which may be in a directory of the search path. -/
def sourcePath (name : List Char) : Action (List Char) := do
  if name.contains '/' then return name
  let t ← tree
  let path := Text.pieces ':' ((← valueOfText? "PATH").getD [])
  let candidates := path.map fun d => if d.isEmpty then name else d ++ ['/'] ++ name
  let isFile (path : List Char) : Bool :=
    match t.find (toText path) with
    | .ok (.file ..) => true
    | _ => false
  match candidates.find? isFile with
  | some path => return path
  | none => fail (name ++ ofText ": not found")

/-- Runs a file in the same process. -/
def source (ev : Evaluator) (args : List (List Char)) : Action Nat := do
  let (_, args) ← options "" args
  match args with
  | [] => return 0
  | name :: _ =>
    let path ← sourcePath name
    match ← openInput path with
    | .error e => fail (ofText "cannot open " ++ path ++ ofText (": " ++ inputReason e))
    | .ok place =>
      let text ←
        match (← get).streams[place]? with
        | some (.file location ..) =>
          match (← tree).root.get? location with
          | some (.file bytes _) => pure (ofBytes bytes)
          | _ => pure []
        | _ => pure []
      let before := (← process).caption
      modifyProcess fun p => { p with caption := some path, calls := p.calls + 1 }
      let result ← attempt (runText ev false false text true)
      modifyProcess fun p => { p with caption := before, calls := p.calls - 1 }
      match result with
      | .ok n => return n
      | .error .back => return (← process).status
      | .error halt => throw halt

/-- Runs a program in place of the shell. -/
def replace (ev : Evaluator) (args : List (List Char)) : Action Nat := do
  let (_, args) ← options "" args
  match args with
  | [] => return 0
  | name :: _ =>
    match ← findProgram name with
    | .program node path =>
      flush
      modifyProcess fun p => { p with traps := p.traps.filter (·.2.isEmpty), caption := none }
      setStatus (← startProgram ev node path args)
      throw .exit
    | .missing cause =>
      warn (name ++ ofText (": " ++ commandReason cause))
      setStatus (commandStatus cause)
      throw .exit
    | _ => return 0

/-- Says what a name stands for; a call that runs a command does not get here. -/
def command (args : List (List Char)) : Action Nat := do
  let (chosen, args) ← options "pvV" args
  match args, chosen.find? fun c => c.letter = 'v' || c.letter = 'V' with
  | name :: _, some c =>
    let path := if chosen.any (·.letter == 'p') then some usualPath else none
    describe (c.letter == 'V') name path
  | _, _ => return 0

/-- Says in words what names stand for. -/
def type (args : List (List Char)) : Action Nat := do
  let mut status := 0
  for name in args do
    status := status ||| (← describe true name)
  return status

/-- Looks up programs, or shows those that were found, or forgets them. -/
def hash (args : List (List Char)) : Action Nat := do
  let (chosen, names) ← options "r" args
  if !chosen.isEmpty then
    modifyProcess fun p => { p with known := [] }
    return 0
  if names.isEmpty then
    let order := (← process).known.mergeSort fun a b => bucket 31 a.1 ≤ bucket 31 b.1
    for (_, path, stale) in order do
      put (path ++ if stale then ['*', '\n'] else ['\n'])
    return 0
  let mut status := 0
  for name in names do
    match ← findCommand name with
    | .missing cause =>
      warn (name ++ ofText (": " ++ commandReason cause))
      status := 1
    | _ => pure ()
  return status

/-- Shows the time that was used. -/
def times : Action Nat := do
  put (ofText "0m0.000000s 0m0.000000s\n0m0.000000s 0m0.000000s\n")
  return 0

/-- Shows the limits of the process. -/
def limits (args : List (List Char)) : Action Nat := do
  let (chosen, values) ← options "HSatfdscmlpnvwr" args
  let letter := (chosen.map Choice.letter).filter fun c => c ≠ 'H' && c ≠ 'S'
  match values with
  | [] => pure ⟨⟩
  | [value] =>
    if letter.contains 'a' then failText "too many arguments"
    if value ≠ "unlimited".toList && (digits? value).isNone then failText "bad number"
    return 0
  | _ => failText "too many arguments"
  let value :=
    match letter.getLast? with
    | some 'c' => "0"
    | some 'n' => "1024"
    | some 's' => "8192"
    | _ => "unlimited"
  put (ofText (value ++ "\n"))
  return 0

/-- Refuses to bring a command in the background to the front. -/
def noJob (args : List (List Char)) : Action Nat :=
  match args with
  | [] => failText "No current job"
  | text :: _ => fail (ofText "No such job: " ++ text)

end Control
end Shell
end FeatureLadder
