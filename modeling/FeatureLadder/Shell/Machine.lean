import FeatureLadder.FileTree
import FeatureLadder.Shell.Fields
import FeatureLadder.Shell.Script

/-!
# The machine that runs scripts

**Input**: the state of the process that is running, and what all processes share: the
file tree, the open streams, the commands that run in the background and the signals
under way.

**Algorithm**: an `Action` changes the state and may end early, and says how.  A process
that is started gets a copy of the state of the one that starts it, and what it changes
in that copy is forgotten when it ends.

**Results**: the actions that everything else is made of: variables, streams and
messages.
-/

namespace FeatureLadder
namespace Shell

/-- A variable. -/
structure Variable where
  value : Option (List Char)
  exported : Bool := false
  readonly : Bool := false

/-- Something that can be read from or written to. -/
inductive Stream where
  /-- what is left to read -/
  | source (rest : List Char)
  /-- what was written, latest first; with a limit no more than that is taken -/
  | sink (limit : Option Nat) (size : Nat) (written : List (List Char))
  | file (location : List String) (offset : Nat) (reading writing append : Bool)
  | directory
  | device (name : String)

/-- Why nothing could be read or written. -/
inductive Trouble where
  | closed
  | full
  | isDirectory
deriving DecidableEq

/-- A trouble in plain words. -/
def Trouble.reason : Trouble → String
  | .closed => "Bad file descriptor"
  | .full => "No space left on device"
  | .isDirectory => "Is a directory"

/-- How a process ended. -/
inductive Outcome where
  | exited (status : Nat)
  | signaled (signal : Nat)

/-- The status that a shell reports for a process that ended. -/
def Outcome.status : Outcome → Nat
  | .exited n => n
  | .signaled n => 128 + n

/-- What belongs to a process. -/
structure Process where
  number : Nat
  /-- the number of the shell that it is a part of -/
  shell : Nat
  /-- the name of the script -/
  name : List Char
  /-- the command that is named in messages, if any -/
  caption : Option (List Char) := none
  line : Nat := 1
  status : Nat := 0
  here : List String
  /-- the current directory as the user wrote it -/
  directory : List Char := []
  bindings : List (List Char × Variable) := []
  arguments : List (List Char) := []
  functions : List (List Char × Script) := []
  aliases : List (List Char × List Char) := []
  /-- the programs that have been found, where, and whether they are to be found anew -/
  known : List (List Char × List Char × Bool) := []
  /-- the streams that descriptors lead to -/
  descriptors : List (Nat × Nat) := []
  /-- the options that are on, as letters -/
  flags : List Char := []
  /-- the options that are still open while the shell is being started -/
  undecided : List Char := []
  /-- what is done on a signal; nothing for one that is ignored -/
  traps : List (Nat × List Char) := []
  /-- for each call, what its local variables were before -/
  locals : List (List (List Char × Option Variable)) := []
  loops : Nat := 0
  /-- how many functions and files are being run -/
  calls : Nat := 0
  /-- how many functions are being run -/
  functionCalls : Nat := 0
  /-- the latest command in the background -/
  background : Option Nat := none
  /-- the status of the latest substitution of a command's output -/
  substitution : Nat := 0
  /-- the argument at which the next option letter is looked for -/
  optionIndex : Nat := 1
  /-- the place in a group of option letters -/
  optionPlace : Nat := 0
  /-- the permissions that new files lack -/
  mask : Nat := 0x12
  /-- what commands of the shell have written, latest first, before it is passed on -/
  buffer : List (List Char) := []
  /-- why something could not be written -/
  broken : Option Trouble := none

/-- A command in the background. -/
inductive Job where
  | waiting (number parent : Nat) (process : Process) (body : Script)
  /-- with `reported` its end has been waited for -/
  | ended (number parent : Nat) (outcome : Outcome) (reported : Bool)

namespace Job

/-- The process that a job runs in. -/
def number : Job → Nat
  | .waiting n .. | .ended n .. => n

/-- The process that started a job. -/
def parent : Job → Nat
  | .waiting _ p .. | .ended _ p .. => p

/-- Whether the end of a job has been waited for. -/
def isReported : Job → Bool
  | .ended _ _ _ reported => reported
  | .waiting .. => false

end Job

/-- The running process and what all processes share. -/
structure Machine where
  process : Process
  root : Node
  streams : Array Stream := #[]
  jobs : List Job := []
  /-- the signals that have been sent, each to a process -/
  signals : List (Nat × Nat) := []
  /-- the processes that are running -/
  alive : List Nat := []
  /-- the number of the latest process -/
  latest : Nat := 2
  /-- whether nothing may pause -/
  hurried : Bool := false

/-- How a script is left before its end. -/
inductive Halt where
  /-- a number of loops is left -/
  | leave (loops : Nat)
  /-- the next round of a loop is started -/
  | again (loops : Nat)
  /-- a function or a file is left -/
  | back
  | exit
  | error
  | killed (signal : Nat)
  /-- a job pauses that was to run without a pause -/
  | paused
  /-- the bound on the number of steps was reached -/
  | exhausted

/-- A change of the machine that may end early. -/
abbrev Action := ExceptT Halt (StateM Machine)

namespace Action

/-- Runs an action and says how it ended. -/
def attempt {α : Type} (act : Action α) : Action (Except Halt α) :=
  ExceptT.mk do return .ok (← act.run)

/-- Runs an action and then, however it ended, another one. -/
def andThen {α : Type} (act : Action α) (after : Action PUnit) : Action α := do
  let result ← attempt act
  after
  match result with
  | .ok a => return a
  | .error halt => throw halt

end Action

open FeatureLadder.Shell.Action

def process : Action Process :=
  return (← get).process

def modifyProcess (f : Process → Process) : Action PUnit :=
  modify fun m => { m with process := f m.process }

/-- Sets the status of the latest command. -/
def setStatus (n : Nat) : Action PUnit :=
  modifyProcess fun p => { p with status := n }

/-- The file tree as the running process sees it. -/
def tree : Action FileTree := do
  let m ← get
  return { root := m.root, here := m.process.here }

def setTree (t : FileTree) : Action PUnit :=
  modify fun m => { m with root := t.root }

def hasFlag (c : Char) : Action Bool :=
  return (← process).flags.contains c

/-! ## Streams -/

/-- Adds a stream and gives its place. -/
def addStream (s : Stream) : Action Nat := do
  let m ← get
  set { m with streams := m.streams.push s }
  return m.streams.size

def setStream (i : Nat) (s : Stream) : Action PUnit :=
  modify fun m => { m with streams := m.streams.setIfInBounds i s }

/-- The stream that a descriptor leads to, and its place. -/
def stream? (descriptor : Nat) : Action (Option (Nat × Stream)) := do
  let m ← get
  return do
    let i ← m.process.descriptors.lookup descriptor
    return (i, ← m.streams[i]?)

/-- Lets a descriptor lead to a stream, or closes it. -/
def setDescriptor (descriptor : Nat) (place : Option Nat) : Action PUnit :=
  modifyProcess fun p =>
    let others := p.descriptors.filter (·.1 != descriptor)
    { p with descriptors := (place.toList.map (descriptor, ·)) ++ others }

/-- The signal that ends a process which writes to a stream that is no longer read. -/
def brokenPipe : Nat := 13

/-- Some bytes with others written over them. -/
def overwrite (old : List UInt8) (offset : Nat) (new : List UInt8) : List UInt8 :=
  let before := old.take offset
  before ++ List.replicate (offset - before.length) 0 ++ new ++ old.drop (offset + new.length)

/-- Writes to a descriptor. -/
def write (descriptor : Nat) (text : List Char) : Action (Option Trouble) := do
  if text.isEmpty then return none
  match ← stream? descriptor with
  | none => return some .closed
  | some (i, .sink limit size written) =>
    if limit.any (· < size) then throw (.killed brokenPipe)
    setStream i (.sink limit (size + text.length) (text :: written))
    return none
  | some (i, .file location offset reading true append) =>
    let t ← tree
    match t.root.get? location with
    | some (.file bytes executable) =>
      let offset := if append then bytes.length else offset
      let new := toBytes text
      setTree (t.putAt location (.file (overwrite bytes offset new) executable))
      setStream i (.file location (offset + new.length) reading true append)
    | _ => pure ()
    return none
  | some (_, .device "full") => return some .full
  | some (_, .device _) => return none
  | some _ => return some .closed

/-- Writes to the standard output at once. -/
def emit (text : List Char) : Action PUnit := do
  if let some trouble ← write 1 text then
    modifyProcess fun p => { p with broken := some trouble }

/-- Writes to the standard output, to be passed on when the command has ended. -/
def put (text : List Char) : Action PUnit :=
  modifyProcess fun p => { p with buffer := text :: p.buffer }

/-- Passes on what commands of the shell have written. -/
def flush : Action PUnit := do
  let p ← process
  if !p.buffer.isEmpty then
    modifyProcess fun p => { p with buffer := [] }
    emit p.buffer.reverse.flatten

def putError (text : List Char) : Action PUnit := do
  let _ ← write 2 text

/-- Reads what is left at a descriptor, up to a number of bytes. -/
def readFrom (descriptor : Nat) (limit : Option Nat := none) : Action (Except Trouble (List Char)) := do
  let some (i, s) ← stream? descriptor | return .error .closed
  let part (cs : List Char) : List Char := limit.elim cs cs.take
  match s with
  | .source rest =>
    let taken := part rest
    setStream i (.source (rest.drop taken.length))
    return .ok taken
  | .file location offset true writing append =>
    match (← tree).root.get? location with
    | some (.file bytes _) =>
      let taken := part (ofBytes (bytes.drop offset))
      setStream i (.file location (offset + taken.length) true writing append)
      return .ok taken
    | _ => return .ok []
  | .device "zero" =>
    return .ok (List.replicate (limit.getD 0) (Char.ofNat 0))
  | .device _ => return .ok []
  | .directory => return .error .isDirectory
  | _ => return .error .closed

/-- Gives bytes back that were read too early, where the stream allows it. -/
def unread (descriptor : Nat) (count : Nat) : Action PUnit := do
  if let some (i, .file location offset reading writing append) ← stream? descriptor then
    setStream i (.file location (offset - count) reading writing append)

/-- Reads a line with its line feed, one byte at a time. -/
def readLineOf (descriptor : Nat) : Action (Except Trouble (List Char)) := do
  let some (i, s) ← stream? descriptor | return .error .closed
  let line (cs : List Char) : List Char :=
    let start := cs.takeWhile (· ≠ '\n')
    if start.length < cs.length then start ++ ['\n'] else start
  match s with
  | .source rest =>
    let taken := line rest
    setStream i (.source (rest.drop taken.length))
    return .ok taken
  | .file location offset true writing append =>
    match (← tree).root.get? location with
    | some (.file bytes _) =>
      let taken := line (ofBytes (bytes.drop offset))
      setStream i (.file location (offset + taken.length) true writing append)
      return .ok taken
    | _ => return .ok []
  | .device _ => return .ok []
  | .directory => return .error .isDirectory
  | _ => return .error .closed

/-- What was written to a stream. -/
def writtenTo (i : Nat) : Action (List Char) := do
  match (← get).streams[i]? with
  | some (.sink _ _ written) => return written.reverse.flatten
  | _ => return []

/-! ## Messages -/

/-- A message with the name of the script, the line and the command before it. -/
def messageLine (p : Process) (text : List Char) : List Char :=
  p.name ++ [':', ' '] ++ ofNumber p.line ++ [':', ' '] ++
    (p.caption.map (· ++ [':', ' '])).getD [] ++ text ++ ['\n']

/-- Says something about a failure. -/
def warn (text : List Char) : Action PUnit := do
  putError (messageLine (← process) text)

/-- Ends what is being run with a message. -/
def fail {α : Type} (text : List Char) : Action α := do
  warn text
  setStatus 2
  throw .error

/-- Ends what is being run with a message. -/
def failText {α : Type} (text : String) : Action α :=
  fail (ofText text)

/-! ## Variables -/

/-- A variable, if it is known. -/
def binding? (name : List Char) : Action (Option Variable) :=
  return (← process).bindings.lookup name

/-- The value of a variable, if it has one. -/
def valueOf? (name : List Char) : Action (Option (List Char)) :=
  return (← binding? name).bind Variable.value

/-- The value of a variable, if it has one. -/
def valueOfText? (name : String) : Action (Option (List Char)) :=
  valueOf? name.toList

/-- Bindings with one of them replaced. -/
def rebind (name : List Char) (v : Variable) : List (List Char × Variable) → List (List Char × Variable)
  | [] => [(name, v)]
  | (other, w) :: rest => if other = name then (name, v) :: rest else (other, w) :: rebind name v rest

/-- Forgets what depends on a variable that is about to change. -/
def Process.forgets (p : Process) (name : List Char) : Process :=
  if name = "PATH".toList then { p with known := [] } else p

def setVariable (name : List Char) (v : Variable) : Action PUnit :=
  modifyProcess fun p => { p.forgets name with bindings := rebind name v p.bindings }

def dropVariable (name : List Char) : Action PUnit :=
  modifyProcess fun p => { p.forgets name with bindings := p.bindings.filter (·.1 != name) }

/-- Gives a variable a value; with `exported` it is exported too. -/
def assign (name value : List Char) (exported : Bool := false) : Action PUnit := do
  if !isName name then fail (name ++ ofText ": bad variable name")
  let old := (← binding? name).getD { value := none }
  if old.readonly then fail (name ++ ofText ": is read only")
  let all ← hasFlag 'a'
  setVariable name { old with value := some value, exported := old.exported || exported || all }
  if name = "OPTIND".toList then
    match number? value with
    | some n => modifyProcess fun p => { p with optionIndex := max 1 n, optionPlace := 0 }
    | none => fail (ofText "Illegal number: " ++ value)

/-- Makes a variable local to the call that is being run, with a value or without. -/
def makeLocal (name : List Char) (value : Option (List Char)) (exported : Bool := false) :
    Action PUnit := do
  let old ← binding? name
  modifyProcess fun p =>
    match p.locals with
    | frame :: outer => { p with locals := ((name, old) :: frame) :: outer }
    | [] => p
  match value with
  | some v => assign name v exported
  | none => if old.isNone then setVariable name { value := none }

/-- Makes the options local to the call that is being run.  They are kept under a name that
no variable can have. -/
def makeFlagsLocal : Action PUnit :=
  modifyProcess fun p =>
    match p.locals with
    | frame :: outer => { p with locals := ((['-'], some { value := some p.flags }) :: frame) :: outer }
    | [] => p

/-- Runs an action whose local variables are forgotten in the end. -/
def withLocals {α : Type} (act : Action α) : Action α := do
  modifyProcess fun p => { p with locals := [] :: p.locals }
  andThen act do
    match (← process).locals with
    | frame :: outer =>
      for (name, old) in frame do
        match old with
        | some v =>
          if name = ['-'] then modifyProcess fun p => { p with flags := v.value.getD [] }
          else setVariable name v
        | none => dropVariable name
      modifyProcess fun p => { p with locals := outer }
    | [] => pure ()

/-- The characters that separate fields. -/
def separators : Action (List Char) :=
  return (← valueOfText? "IFS").getD Fields.usual

/-- What a process that is started finds in its environment. -/
def environment : Action (List (List Char × List Char)) := do
  return (← process).bindings.filterMap fun (name, v) =>
    if v.exported then v.value.map (name, ·) else none

end Shell
end FeatureLadder
