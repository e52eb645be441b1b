import FeatureLadder.Shell.Calling
import FeatureLadder.Shell.Running

/-!
# Commands on signals and on commands in the background

`trap` says what is done on a signal, `kill` sends one, and `wait` waits for commands in
the background.
-/

namespace FeatureLadder
namespace Shell
namespace Signals

/-- Says what is done on signals, or shows it. -/
def trap (args : List (List Char)) : Action Nat := do
  let (_, args) ← options "" args
  let isSignalNumber (text : List Char) : Bool := (digits? text).any (· < Signal.count)
  let reset := args.length = 1 || args.head?.any isSignalNumber
  match args with
  | [] =>
    for n in List.range Signal.count do
      if let some action := (← process).traps.lookup n then
        let name := if n = 0 then "EXIT" else Signal.name n
        put (ofText "trap -- " ++ quoted action ++ ofText (" " ++ name ++ "\n"))
    return 0
  | first :: rest =>
    let (action, names) := if reset then (none, args) else (some first, rest)
    let action := if action = some ['-'] then none else action
    for name in names do
      match Signal.number? true name with
      | none =>
        putError (ofText "trap: " ++ name ++ ofText ": bad trap\n")
        return 1
      | some n =>
        modifyProcess fun p =>
          let others := p.traps.filter (·.1 != n)
          { p with traps := match action with
              | some text => (n, text) :: others
              | none => others }
    return 0

/-- What a list of signals looks like. -/
def signalList : List Char :=
  ofText (String.join ((List.range Signal.count).map fun n => Signal.name n ++ "\n"))

/-- Ends a waiting job by a signal. -/
def killJob (number signal : Nat) : Action PUnit :=
  modify fun m =>
    { m with jobs := m.jobs.map fun
        | .waiting n parent child body =>
          let ignored := signal ≠ 9 && child.traps.lookup signal = some []
          if n = number && !Signal.isHarmless signal && !ignored then
            .ended n parent (.signaled signal) false
          else .waiting n parent child body
        | job => job }

/-- Sends a signal to a process and says whether there is one. -/
def sendTo (target signal : Nat) : Action Bool := do
  let m ← get
  if target = 0 || target = m.process.number then
    if 0 < signal then
      sendSignal m.process.number signal
      checkSignals
    return true
  else if m.jobs.any fun job => job.number = target && !job.isReported then
    if 0 < signal then killJob target signal
    return true
  else if m.alive.contains target then
    if 0 < signal then sendSignal target signal
    return true
  else return false

/-- The process that a number, or a percent sign and the number of a job, stands for. -/
def target (text : List Char) : Action Nat := do
  let m ← get
  let own := m.jobs.filter (·.parent == m.process.number)
  let latest := own.mergeSort fun a b => b.number ≤ a.number
  match text with
  | '%' :: rest =>
    let job :=
      match rest with
      | [] | ['%'] | ['+'] => latest.head?
      | ['-'] => latest[1]?
      | _ => (digits? rest).bind fun n => if n = 0 then none else own[n - 1]?
    match job with
    | some job => return job.number
    | none => fail (ofText "No such job: " ++ text)
  | '-' :: rest => number rest
  | _ => number text

/-- What is shown about a job. -/
def jobState : Job → List Char
  | .waiting .. => ofText "Running"
  | .ended _ _ (.exited 0) _ => ofText "Done"
  | .ended _ _ (.exited n) _ => ofText "Done(" ++ ofNumber n ++ [')']
  | .ended _ _ (.signaled n) _ => ofText (Signal.description n)

/-- The width of what is shown about a job. -/
def jobWidth : Nat := 33

/-- Shows commands in the background, the latest first.  Those that have ended are forgotten
then. -/
def jobs (args : List (List Char)) : Action Nat := do
  let (chosen, specs) ← options "lp" args
  let m ← get
  let own := m.jobs.filter fun job => job.parent == m.process.number && !job.isReported
  let latest := own.mergeSort fun a b => b.number ≤ a.number
  let wanted ← specs.mapM fun spec =>
    match spec with
    | '%' :: _ => target spec
    | _ => fail (ofText "No such job: " ++ spec)
  let mut kept := 0
  for job in latest do
    let isOver := match job with
      | .ended .. => true
      | .waiting .. => false
    let sign := if kept = 0 then '+' else if kept = 1 then '-' else ' '
    if !isOver then kept := kept + 1
    if specs.isEmpty || wanted.contains job.number then
      let place := ((m.jobs.filter (·.parent == m.process.number)).findIdx fun other =>
        other.number == job.number) + 1
      let number := ofNumber (Int.ofNat job.number)
      let lead := ['['] ++ ofNumber (Int.ofNat place) ++ [']', ' ', sign, ' '] ++
        if chosen.any (·.letter == 'l') then number ++ [' '] else []
      let line := lead ++ jobState job
      if chosen.any (·.letter == 'p') then put (number ++ ['\n'])
      else put (line ++ List.replicate (jobWidth - line.length) ' ' ++ ['\n'])
      modify fun m =>
        { m with jobs := m.jobs.map fun
            | .ended n parent outcome reported =>
              .ended n parent outcome (reported || n == job.number)
            | job => job }
  return 0

/-- Sends a signal to processes, or shows signals. -/
def kill (args : List (List Char)) : Action Nat := do
  let usage : Action Nat :=
    failText ("Usage: kill [-s sigspec | -signum | -sigspec] [pid | job]... or\n" ++
      "kill -l [exitstatus]")
  let first := args.headD []
  let direct := if first.head? = some '-' then Signal.number? false (first.drop 1) else none
  let (signal, shows, targets) ←
    match direct with
    | some n => pure (some n, false, args.drop 1)
    | none =>
      if first.head? = some '-' then do
        let (chosen, rest) ← options "ls:" args
        let mut signal := none
        for c in chosen do
          if c.letter = 's' then
            match Signal.number? false c.value with
            | some n => signal := some n
            | none => fail (ofText "invalid signal number or name: " ++ c.value)
        pure (signal, chosen.any (·.letter == 'l'), rest)
      else pure (none, false, args)
  if shows then
    if signal.isSome && targets.isEmpty then return ← usage
    match targets with
    | [] => put signalList
    | text :: _ =>
      let n ← number text
      let n := if 128 < n then n - 128 else n
      if 0 < n && n < Signal.count then put (ofText (Signal.name n ++ "\n"))
      else fail (ofText "invalid signal number or exit status: " ++ text)
    return 0
  if targets.isEmpty then return ← usage
  let mut status := 0
  for text in targets do
    if !(← sendTo (← target text) (signal.getD 15)) then
      warn (ofText "No such process\n")
      status := 1
  return status

/-- Waits for commands in the background. -/
def wait (ev : Evaluator) (args : List (List Char)) : Action Nat := do
  let (_, args) ← options "" args
  runOwnJobs ev
  let own := (← process).number
  let mut status := if args.isEmpty then 0 else 127
  let markReported (which : Nat → Bool) : Action PUnit :=
    modify fun m =>
      { m with jobs := m.jobs.map fun
          | .ended n parent outcome reported =>
            if which n && parent = own then .ended n parent (.exited outcome.status) true
            else .ended n parent outcome reported
          | job => job }
  if args.isEmpty then markReported fun _ => true
  for text in args do
    let wanted ← target text
    for job in (← get).jobs do
      match job with
      | .ended n parent outcome _ => if n = wanted && parent = own then status ← report outcome
      | _ => pure ()
    markReported (· == wanted)
  return status

end Signals
end Shell
end FeatureLadder
