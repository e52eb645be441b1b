import FeatureLadder.Shell.Builtin

/-!
# Running commands

**Input**: a command, and an `Evaluator` for the commands in it.

**Algorithm**: a simple command expands its words, redirects its descriptors, makes its
assignments and then runs a function, a command of the shell or a program.  The commands
of a pipeline are run one after the other, each in a process of its own that reads what
the one before it has written.  A command that fails ends the script if the option `e` is
on and nothing looks at its failure.

**Results**: `runScript`, one step of an evaluator.
-/

namespace FeatureLadder
namespace Shell

open FeatureLadder.Shell.Action

/-- How a simple command is run. -/
structure Call where
  tested : Bool
  last : Bool

/-- The fields of the words of a simple command.  Behind the name of a command that
declares variables an assignment stays whole. -/
def commandFields (ev : Evaluator) : List Word → List (List Char) → Action (List (List Char))
  | [], found => return found
  | w :: ws, found => do
    match if declares found then w.assignment? else none with
    | some (name, value) =>
      let text ← Expansion.assigned (capture ev) value
      commandFields ev ws (found ++ [name ++ ['='] ++ text])
    | none => commandFields ev ws (found ++ (← Expansion.fields (capture ev) w))
where
  /-- Whether the first of some fields names a command that declares variables. -/
  declares : List (List Char) → Bool
    | name :: rest =>
      if name = "command".toList then declares rest else declaringNames.contains (toText name)
    | [] => false

/-- A command behind `command`: whether the name is meant that stands there, the search
path that is asked for, and the fields from the name on. -/
def strip (fields : List (List Char)) : Option (Option (List Char) × List (List Char)) :=
  go none fields
where
  /-- The fields behind the options that were read. -/
  go (path : Option (List Char)) :
      List (List Char) → Option (Option (List Char) × List (List Char))
    | [] => none
    | ['-', '-'] :: rest => if rest.isEmpty then none else some (path, rest)
    | ['-'] :: rest => some (path, ['-'] :: rest)
    | ('-' :: letters) :: rest =>
      if letters.all (· == 'p') then go (some usualPath) rest else none
    | fields => some (path, fields)

/-- Shows a command before it is run, if the option `x` is on. -/
def trace (assignments : List (List Char × List Char)) (fields : List (List Char)) :
    Action PUnit := do
  if ← hasFlag 'x' then
    let texts := assignments.map (fun (name, value) => name ++ ['='] ++ value) ++ fields
    putError ((← valueOfText? "PS4").getD [] ++ [' '].intercalate texts ++ ['\n'])

/-- Runs a command of the shell, whose name is put in front of its messages. -/
def runBuiltin (ev : Evaluator) (call : Call) (name : String) (special : Bool)
    (args : List (List Char)) : Action Nat := do
  let before := (← process).caption
  modifyProcess fun p => { p with caption := some (ofText name), broken := none }
  let result ← attempt do
    let status ← builtin ev call.tested name args
    flush
    if (← process).broken.isSome then
      modifyProcess fun p => { p with broken := none }
      warn (ofText (name ++ ": I/O error"))
      return status ||| 1
    return status
  modifyProcess fun p => { p with caption := before }
  match result with
  | .ok n => return n
  | .error .error => if special then throw .error else return (← process).status
  | .error halt => throw halt

/-- The most functions that call each other. -/
def callLimit : Nat := 1000

def runFunction (ev : Evaluator) (call : Call) (body : Script) (args : List (List Char)) :
    Action Nat := do
  let before ← process
  if callLimit ≤ before.functionCalls then
    failText ("Maximum function recursion depth (" ++ toString callLimit ++ ") reached")
  modifyProcess fun p =>
    { p with
      arguments := args, loops := 0, calls := p.calls + 1, functionCalls := p.functionCalls + 1
      optionIndex := 1, optionPlace := 0 }
  let result ← attempt (ev.run body call.tested false)
  modifyProcess fun p =>
    { p with
      arguments := before.arguments, loops := before.loops, calls := before.calls
      functionCalls := before.functionCalls, optionIndex := before.optionIndex
      optionPlace := before.optionPlace }
  match result with
  | .ok n => return n
  | .error .back => return (← process).status
  | .error halt => throw halt

/-- Runs a program, in place of the shell if there is nothing else to do. -/
def runProgram (ev : Evaluator) (call : Call) (node : Node) (path : List Char)
    (fields : List (List Char)) : Action Nat := do
  let p ← process
  if call.last && !p.traps.any (!·.2.isEmpty) then
    flush
    runQuickJobs ev
    setStatus (← startProgram ev node path fields)
    throw .exit
  else report (← inChild ev (startProgram ev node path fields))

/-- Runs what a command's name stands for. -/
def dispatch (ev : Evaluator) (call : Call) (found : Command) (special : Bool)
    (fields : List (List Char)) : Action Nat := do
  let args := fields.drop 1
  match found with
  | .function body => runFunction ev call body args
  | .builtin name => runBuiltin ev call name special args
  | .program node path => runProgram ev call node path fields
  | .missing cause =>
    let name := fields.headD []
    warn (name ++ ofText (": " ++ commandReason cause))
    return if name.contains '/' then commandStatus cause else 127

def makeAssignments (ev : Evaluator) (isLocal : Bool) :
    List (List Char × Word) → Action (List (List Char × List Char))
  | [] => return []
  | (name, w) :: rest => do
    let value ← Expansion.assigned (capture ev) w
    if isLocal then makeLocal name (some value) true else assign name value
    return (name, value) :: (← makeAssignments ev isLocal rest)

def runSimple (ev : Evaluator) (call : Call) (line : Nat) (assignments : List (List Char × Word))
    (words : List Word) (redirects : List Redirect) : Action Nat := do
  modifyProcess fun p => { p with line := line, substitution := 0 }
  let fields ← commandFields ev words []
  let isCommand := fields.head? = some "command".toList
  let stripped := if isCommand then strip (fields.drop 1) else none
  let (path, named, functions) :=
    match stripped with
    | some (path, named) => (path, named, false)
    | none => (none, fields, true)
  let name := named.headD []
  let isFunction := functions && (← process).functions.any (·.1 == name)
  let isSpecial := specialNames.contains (toText name) && !isFunction
  let fatal := isSpecial && !isCommand
  let isLocal := !fields.isEmpty && (!isSpecial || isCommand)
  let changes ← redirects.mapM (change ev)
  let before := (← process).descriptors
  let replaces := isSpecial && name = "exec".toList
  let body : Action Nat := do
    if !(← performAll ev changes) then
      if fatal then throw .error else return 2
    let made ← makeAssignments ev isLocal assignments
    trace made fields
    if fields.isEmpty then return (← process).substitution
    let found ← findCommand name functions path
    let status ← dispatch ev call found fatal named
    return status
  let result ← attempt (if isLocal then withLocals body else body)
  let keeps :=
    match result with
    | .ok 0 => replaces
    | _ => false
  if !keeps then restore before changes
  match result with
  | .ok n => return n
  | .error halt => throw halt

/-! ## Compound commands -/

/-- The most that a command of a pipeline can write. -/
def pipeLimit : Nat := 1048576

/-- The program that a command runs by its name. -/
def plainName? : Script → Option (List Char)
  | .simple _ _ (w :: _) _ => (Word.plain? w).filter isName
  | _ => none

/-- Runs the commands of a pipeline, each reading what the one before it has written. -/
def runStages (ev : Evaluator) : Option Nat → List Script → Action Nat
  | _, [] => return 0
  | input, [stage] => do
    let setup (p : Process) : Process := input.elim p (p.lead 0)
    report (← inChild ev (ev.run stage false true) setup)
  | input, stage :: more => do
    let place ← addStream (.sink (some pipeLimit) 0 [])
    let setup (p : Process) : Process := (input.elim p (p.lead 0)).lead 1 place
    let _ ← report (← inProcess ev (← newNumber) setup (ev.run stage false true))
    let text ← writtenTo place
    setStream place (.source text)
    runStages ev (some place) more

/-- Starts a command in the background. -/
def startJob (body : Script) : Action Nat := do
  flush
  let number ← newNumber
  let null ← addStream (.device "null")
  let m ← get
  let child := (m.process.copy number).lead 0 null
  let own := m.process.number
  let job := Job.waiting number own child body
  let isFree (other : Job) : Bool := other.parent == own && other.isReported
  set { m with jobs :=
          match m.jobs.findIdx? isFree with
          | some i => m.jobs.set i job
          | none => m.jobs ++ [job] }
  modifyProcess fun p => { p with background := some number }
  return 0

/-- What a round of a loop calls for. -/
inductive Round where
  | goesOn (status : Nat)
  | ends (status : Nat)

/-- Runs a round of a loop and says whether the loop goes on. -/
def runRound (act : Action Nat) : Action Round := do
  match ← attempt act with
  | .ok n => return .goesOn n
  | .error (.leave n) =>
    if n ≤ 1 then return .ends (← process).status else throw (.leave (n - 1))
  | .error (.again n) =>
    if n ≤ 1 then return .goesOn (← process).status else throw (.again (n - 1))
  | .error halt => throw halt

/-- Runs a loop, given a bound on the number of its rounds. -/
def runLoop (ev : Evaluator) (tested negated : Bool) (condition body : Script) :
    Nat → Nat → Action Nat
  | 0, _ => throw .exhausted
  | n + 1, status => do
    match ← attempt (ev.run condition true false) with
    | .error (.leave k) => if k ≤ 1 then return status else throw (.leave (k - 1))
    | .error (.again k) =>
      if k ≤ 1 then runLoop ev tested negated condition body n status else throw (.again (k - 1))
    | .error halt => throw halt
    | .ok k =>
      if (k == 0) == negated then return status
      match ← runRound (ev.run body tested false) with
      | .ends status => return status
      | .goesOn status => runLoop ev tested negated condition body n status

/-- Runs a command for each of some values of a variable. -/
def runEach (ev : Evaluator) (tested : Bool) (name : List Char) (body : Script) :
    List (List Char) → Nat → Action Nat
  | [], status => return status
  | value :: more, _ => do
    assign name value
    match ← runRound (ev.run body tested false) with
    | .ends status => return status
    | .goesOn status => runEach ev tested name body more status

/-- The most rounds of a loop. -/
def roundLimit : Nat := 10000000

/-- Runs an action in which one more loop can be left. -/
def inLoop (act : Action Nat) : Action Nat := do
  let before := (← process).loops
  modifyProcess fun p => { p with loops := before + 1 }
  andThen act (modifyProcess fun p => { p with loops := before })

/-- The command of the first case that has a pattern for a text. -/
def chooseCase (ev : Evaluator) (subject : List Char) :
    List (List Word × Script) → Action (Option Script)
  | [] => return none
  | (patterns, body) :: more => do
    if ← anyAccepts patterns then return some body
    chooseCase ev subject more
where
  /-- Whether one of some patterns accepts the text. -/
  anyAccepts : List Word → Action Bool
    | [] => return false
    | w :: ws => do
      let glyphs ← Expansion.pattern (capture ev) false w
      if Pattern.accepts glyphs subject then return true else anyAccepts ws

/-- Ends the script because a command failed that nothing looks at. -/
def checkFailure (tested : Bool) (status : Nat) : Action Nat := do
  setStatus status
  if status ≠ 0 && !tested && (← hasFlag 'e') then throw .exit
  return status

/-- Runs a command by means of an evaluator for the commands in it.  Nothing is run while
the option `n` is on. -/
def runScript (ev : Evaluator) (script : Script) (tested last : Bool) : Action Nat := do
  if ← hasFlag 'n' then return 0
  let finish (n : Nat) : Action Nat := do
    setStatus n
    return n
  let setLine (line : Nat) : Action PUnit := modifyProcess fun p => { p with line := line }
  takeSignals ev
  let status ←
    match script with
    | .nothing => pure 0
    | .simple line assignments words redirects =>
      checkFailure tested (← runSimple ev ⟨tested, last⟩ line assignments words redirects)
    | .redirected line body redirects =>
      setLine line
      finish (← withRedirections ev redirects (ev.run body tested false))
    | .subshell line body redirects =>
      setLine line
      let changes ← redirects.mapM (change ev)
      let inside : Action Nat := do
        changes.forM (perform ev)
        ev.run body tested true
      let p ← process
      if last && !p.traps.any (!·.2.isEmpty) then
        let status ← inside
        setStatus status
        throw .exit
      else checkFailure tested (← report (← inChild ev inside))
    | .background line body redirects =>
      setLine line
      let body := if redirects.isEmpty then body else .redirected line body redirects
      finish (← startJob body)
    | .branch condition yes no =>
      if (← ev.run condition true false) = 0 then ev.run yes tested last
      else
        match no with
        | .nothing => finish 0
        | _ => ev.run no tested last
    | .loop negated condition body =>
      finish (← inLoop (runLoop ev tested negated condition body roundLimit 0))
    | .each line name items body =>
      setLine line
      let values ← items.mapM (Expansion.fields (capture ev))
      finish (← inLoop (runEach ev tested name body values.flatten 0))
    | .choice line subject cases =>
      setLine line
      let text ← Expansion.text (capture ev) subject
      match ← chooseCase ev text cases with
      | none => finish 0
      | some .nothing => finish 0
      | some body => ev.run body tested last
    | .function _ name body =>
      modifyProcess fun p =>
        { p with functions := (name, body) :: p.functions.filter (·.1 != name) }
      finish 0
    | .pipeline true stages => finish (← startJob (.pipeline false stages))
    | .pipeline false stages =>
      for name in stages.filterMap plainName? do
        let _ ← findCommand name
      checkFailure tested (← runStages ev none stages)
    | .negated body =>
      let n ← ev.run body true false
      finish (if n = 0 then 1 else 0)
    | .both first second =>
      let n ← ev.run first true false
      if n ≠ 0 then pure n else ev.run second tested last
    | .either first second =>
      let n ← ev.run first true false
      if n = 0 then pure n else ev.run second tested last
    | .sequence first second =>
      let _ ← ev.run first tested false
      ev.run second tested last
  takeSignals ev
  return status

end Shell
end FeatureLadder
