import FeatureLadder.Shell.Machine
import FeatureLadder.Shell.Parse
import FeatureLadder.Shell.Signal

/-!
# Processes

**Input**: an `Evaluator`, which runs commands and programs, and a text or an action.

**Algorithm**: a text is read and run command by command.  An action in a process of its
own works on a copy of the state of the process that starts it; in the end the action
for the end of the script is run, and then what is still waiting in the background.

**Results**: `runText`, `inChild` and `capture`.
-/

namespace FeatureLadder
namespace Shell

open FeatureLadder.Shell.Action

/-- What runs commands and programs. -/
structure Evaluator where
  /-- Runs a command.  With `tested` its failure is looked at by another command, and with
  `last` the process has nothing else to do. -/
  run : Script → (tested last : Bool) → Action Nat
  /-- Runs a program with its name and arguments, in place of what the process was. -/
  launch : Node → (path : List Char) → List (List Char) → Action Nat

/-- Shows the lines of a file that have been read, if the option `v` is on. -/
def showLines (source : Source) (found : Next) : Action PUnit := do
  let left :=
    match found with
    | .command _ rest => rest.rest.length
    | _ => 0
  if ← hasFlag 'v' then putError (source.rest.take (source.rest.length - left))

/-- Runs what is left of a text, given a bound on the number of its commands. -/
def runSource (ev : Evaluator) (tested last : Bool) : Nat → Source → Nat → Action Nat
  | 0, _, _ => throw .exhausted
  | n + 1, source, status => do
    let found := next { source with aliases := (← process).aliases }
    if source.inFile then showLines source found
    match found with
    | .finish => return status
    | .malformed fault =>
      modifyProcess fun p => { p with line := fault.line }
      failText fault.malformation.message
    | .command script rest =>
      if ← hasFlag 'n' then return ← runSource ev tested last n rest status
      let ends :=
        match rest.back with
        | some .finish => true
        | _ => false
      match script with
      | .nothing => runSource ev tested last n rest status
      | _ =>
        let status ← ev.run script tested (last && ends)
        runSource ev tested last n rest status

/-- Runs a text, which may come from a file. -/
def runText (ev : Evaluator) (tested last : Bool) (text : List Char) (inFile : Bool := false) :
    Action Nat :=
  runSource ev tested last (text.length + 2) { rest := text, inFile := inFile } 0

/-! ## Signals -/

/-- Sends a signal to a process. -/
def sendSignal (number signal : Nat) : Action PUnit :=
  modify fun m => { m with signals := m.signals ++ [(number, signal)] }

/-- Does what the signals call for that have been sent to the running process, given a
bound on their number. -/
def deliver (ev : Evaluator) : Nat → Action PUnit
  | 0 => return
  | n + 1 => do
    let m ← get
    match m.signals.find? (·.1 == m.process.number) with
    | none => return
    | some (number, signal) =>
      set { m with signals := m.signals.erase (number, signal) }
      match if signal = 9 then none else m.process.traps.lookup signal with
      | none => if !Signal.isHarmless signal then throw (.killed signal)
      | some [] => pure ()
      | some action =>
        let _ ← runText ev false false action
        setStatus m.process.status
      deliver ev n

/-- The most signals that are dealt with at a time. -/
def signalLimit : Nat := 1000

/-- Does what the signals call for that have been sent to the running process. -/
def takeSignals (ev : Evaluator) : Action PUnit := do
  if !(← get).signals.isEmpty then deliver ev signalLimit

/-! ## The end of a process -/

/-- Runs the action for the end of the script, if there is one. -/
def runExitTrap (ev : Evaluator) : Action PUnit := do
  let p ← process
  match p.traps.lookup 0 with
  | none => return
  | some action =>
    modifyProcess fun p => { p with traps := p.traps.filter (·.1 != 0) }
    match ← attempt (runText ev false false action) with
    | .ok _ | .error .back | .error (.leave _) | .error (.again _) => setStatus p.status
    | .error .exit | .error .error => return
    | .error halt => throw halt

/-- Runs an action as all that a process does, and says how the process ended. -/
def toTheEnd (ev : Evaluator) (act : Action Nat) : Action Outcome := do
  let whole : Action PUnit := do
    match ← attempt act with
    | .ok n => setStatus n
    | .error (.killed signal) => throw (.killed signal)
    | .error .exhausted => throw .exhausted
    | .error .paused => throw .paused
    | .error _ => pure ()
    runExitTrap ev
    flush
  match ← attempt whole with
  | .error (.killed signal) => return .signaled signal
  | .error .exhausted => throw .exhausted
  | .error .paused => throw .paused
  | _ => return .exited ((← process).status % 256)

/-- A number for a new process. -/
def newNumber : Action Nat := do
  let m ← get
  set { m with latest := m.latest + 1 }
  return m.latest + 1

/-- A process as it is copied: what would be done on a signal is forgotten, unless the
signal is ignored. -/
def Process.copy (p : Process) (number : Nat) : Process :=
  { p with number := number, traps := p.traps.filter (·.2.isEmpty) }

/-- Runs a waiting job to its end. -/
def runJob (ev : Evaluator) (job : Job) : Action PUnit := do
  match job with
  | .ended .. => return
  | .waiting number parent child body =>
    let before ← process
    let becomes (outcome : Outcome) (m : Machine) : Machine :=
      { m with jobs := m.jobs.map fun job =>
          if job.number = number then .ended number parent outcome false else job }
    modify fun m => { becomes (.exited 0) m with process := child, alive := number :: m.alive }
    let outcome ← attempt (toTheEnd ev (ev.run body false true))
    modify fun m => { m with process := before, alive := m.alive.filter (· != number) }
    match outcome with
    | .ok outcome => modify (becomes outcome)
    | .error halt => throw halt

/-- Runs the waiting jobs, of one process or of all of them, to their ends, given a bound on
their number. -/
def runJobs (ev : Evaluator) (parent : Option Nat) : Nat → Action PUnit
  | 0 => return
  | n + 1 => do
    let waiting : Job → Bool
      | .waiting _ p .. => parent.all (· == p)
      | .ended .. => false
    match (← get).jobs.find? waiting with
    | none => return
    | some job =>
      runJob ev job
      runJobs ev parent n

/-- The most jobs that are run at a time. -/
def jobLimit : Nat := 10000

/-- Runs the waiting jobs of the running process. -/
def runOwnJobs (ev : Evaluator) : Action PUnit := do
  if !(← get).jobs.isEmpty then runJobs ev (some (← process).number) jobLimit

/-- Runs those waiting jobs of the running process that do not pause.  While another process
is started, they have come to their ends. -/
def runQuickJobs (ev : Evaluator) : Action PUnit := do
  let m ← get
  for job in m.jobs do
    let before ← get
    let isWaiting (other : Job) : Bool :=
      match other with
      | .waiting n parent .. => n = job.number && parent = m.process.number
      | .ended .. => false
    if before.jobs.any isWaiting then
      set { before with hurried := true }
      match ← attempt (runJob ev job) with
      | .ok _ => modify fun m => { m with hurried := before.hurried }
      | .error .paused => set before
      | .error halt => throw halt

/-- Ends the running process if a signal has been sent to it that does so at once. -/
def checkSignals : Action PUnit := do
  let m ← get
  let isFatal (s : Nat × Nat) : Bool :=
    s.1 == m.process.number && !Signal.isHarmless s.2 &&
      (s.2 == 9 || (m.process.traps.lookup s.2).isNone)
  if let some s := m.signals.find? isFatal then
    set { m with signals := m.signals.erase s }
    throw (.killed s.2)

/-- Runs an action in a process of its own with a given number, which `setup` prepares. -/
def inProcess (ev : Evaluator) (number : Nat) (setup : Process → Process) (act : Action Nat) :
    Action Outcome := do
  flush
  runQuickJobs ev
  let before ← process
  modify fun m =>
    { m with process := setup (m.process.copy number), alive := number :: m.alive }
  let outcome ← attempt do
    let outcome ← toTheEnd ev act
    runOwnJobs ev
    return outcome
  modify fun m =>
    { m with process := before, alive := m.alive.filter (· != number) }
  match outcome with
  | .ok outcome => return outcome
  | .error halt => throw halt

/-- Runs an action in a process of its own, and waits for it. -/
def inChild (ev : Evaluator) (act : Action Nat) (setup : Process → Process := id) :
    Action Outcome := do
  let outcome ← inProcess ev (← newNumber) setup act
  checkSignals
  return outcome

/-- Says that a signal ended a process that the shell was waiting for. -/
def report (outcome : Outcome) : Action Nat := do
  match outcome with
  | .signaled n =>
    if !Signal.isQuiet n then putError (ofText (Signal.description n) ++ ['\n'])
  | .exited _ => pure ()
  return outcome.status

/-- A process with a descriptor that leads to a stream. -/
def Process.lead (p : Process) (descriptor place : Nat) : Process :=
  { p with descriptors := (descriptor, place) :: p.descriptors.filter (·.1 != descriptor) }

/-- What a script writes to the standard output. -/
def capture (ev : Evaluator) (script : Script) : Action (List Char) := do
  match script with
  | .nothing => return []
  | _ =>
    let place ← addStream (.sink none 0 [])
    let outcome ← inChild ev (ev.run script false true) (·.lead 1 place)
    let status ← report outcome
    modifyProcess fun p => { p with substitution := status }
    let text ← writtenTo place
    setStream place .directory
    return text

end Shell
end FeatureLadder
