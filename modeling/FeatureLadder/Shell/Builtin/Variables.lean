import FeatureLadder.Shell.Calling
import FeatureLadder.Shell.Expand

/-!
# Commands on variables, arguments and options

`set`, `shift`, `export`, `readonly`, `local`, `unset`, `read` and `getopts` change what
the process knows; without arguments some of them show it.
-/

namespace FeatureLadder
namespace Shell
namespace Variables

/-- The names of the options with their letters, in the order in which they are shown. -/
def optionNames : List (String × Char) :=
  [("errexit", 'e'), ("noglob", 'f'), ("ignoreeof", 'I'), ("interactive", 'i'), ("monitor", 'm'),
    ("noexec", 'n'), ("stdin", 's'), ("xtrace", 'x'), ("verbose", 'v'), ("vi", 'V'), ("emacs", 'E'),
    ("noclobber", 'C'), ("allexport", 'a'), ("notify", 'b'), ("nounset", 'u'), ("privileged", 'p'),
    ("nolog", '\x01'), ("debug", '\x02')]

/-- Turns an option on or off. -/
def setFlag (c : Char) (on : Bool) : Action PUnit := do
  if !optionNames.any (·.2 == c) then failText ("Illegal option -" ++ String.singleton c)
  modifyProcess fun p =>
    let others := p.flags.filter (· != c)
    { p with
      flags := if on then c :: others else others
      undecided := p.undecided.filter (· != c) }

/-- Turns an option on or off that is given by its name. -/
def setNamed (name : List Char) (on : Bool) : Action PUnit := do
  match optionNames.lookup (toText name) with
  | some c => setFlag c on
  | none => fail (ofText "Illegal option -o " ++ name)

/-- Shows all options; with `again` as commands that would set them. -/
def showOptions (again : Bool) : Action PUnit := do
  let p ← process
  let flags := p.flags ++ p.undecided
  if !again then put (ofText "Current option settings\n")
  for (name, c) in optionNames do
    let on := flags.contains c
    if again then put (ofText ("set " ++ (if on then "-" else "+") ++ "o " ++ name ++ "\n"))
    else
      let blanks := String.ofList (List.replicate (16 - name.length) ' ')
      put (ofText (name ++ blanks ++ (if on then "on" else "off") ++ "\n"))

/-- Works off the letters of a group of options, and gives the arguments behind it. -/
def letters (on : Bool) : List Char → List (List Char) → Action (List (List Char))
  | [], rest => return rest
  | 'o' :: cs, rest => do
    match rest with
    | [] =>
      showOptions !on
      letters on cs []
    | name :: rest =>
      setNamed name on
      letters on cs rest
  | c :: cs, rest => do
    setFlag c on
    letters on cs rest

/-- Works off the options in front of the arguments of a script, given a bound on their
number, and gives these arguments; none if they stay as they are. -/
def settings : Nat → List (List Char) → Action (Option (List (List Char)))
  | 0, args => return some args
  | n + 1, args => do
    match args with
    | [] => return none
    | ['-', '-'] :: rest => return some rest
    | ['-'] :: rest =>
      setFlag 'x' false
      setFlag 'v' false
      return if rest.isEmpty then none else some rest
    | ('-' :: cs) :: rest => settings n (← letters true cs rest)
    | ('+' :: cs) :: rest => settings n (← letters false cs rest)
    | _ => return some args

/-- A variable as a command that would set it. -/
def definition (lead : String) (name : List Char) (v : Variable) : List Char :=
  ofText lead ++ name ++ (v.value.map fun text => '=' :: quoted text).getD [] ++ ['\n']

/-- Shows the variables of some kind in the order of their names. -/
def showVariables (lead : String) (kind : Variable → Bool) : Action PUnit := do
  let found := (← process).bindings.filter fun b => kind b.2
  for (name, v) in found.mergeSort fun a b => bytesLe a.1 b.1 do
    put (definition lead name v)

def set (args : List (List Char)) : Action Nat := do
  if args.isEmpty then showVariables "" fun v => v.value.isSome
  else
    match ← settings (args.length + 1) args with
    | some arguments =>
      modifyProcess fun p =>
        { p with arguments := arguments, optionIndex := 1, optionPlace := 0 }
    | none => pure ()
  return 0

def shift (args : List (List Char)) : Action Nat := do
  let n ← match args with
    | a :: _ => number a
    | [] => pure 1
  let p ← process
  if p.arguments.length < n then failText "can't shift that many"
  modifyProcess fun p =>
    { p with arguments := p.arguments.drop n, optionIndex := 1, optionPlace := 0 }
  return 0

/-- The name and the value of a definition. -/
def definitionOf (text : List Char) : List Char × Option (List Char) :=
  let name := text.takeWhile (· ≠ '=')
  (name, match text.drop name.length with
    | _ :: value => some value
    | [] => none)

/-- Ends the command because a text is no name. -/
def badName {α : Type} (name : List Char) : Action α :=
  fail (name ++ ofText ": bad variable name")

/-- Marks variables, with values for some of them; without arguments shows those that are
marked. -/
def declare (command : String) (mark : Variable → Variable) (isMarked : Variable → Bool)
    (args : List (List Char)) : Action Nat := do
  let (chosen, names) ← options "p" args
  if names.isEmpty || !chosen.isEmpty then
    showVariables (command ++ " ") isMarked
  else
    for text in names do
      let (name, value) := definitionOf text
      if !isName name then badName name
      if let some v := value then assign name v
      setVariable name (mark ((← binding? name).getD { value := none }))
  return 0

/-- Exports variables. -/
def exported : List (List Char) → Action Nat :=
  declare "export" ({ · with exported := true }) Variable.exported

def readonly : List (List Char) → Action Nat :=
  declare "readonly" ({ · with readonly := true }) Variable.readonly

/-- Makes variables local to the function that is being run. -/
def localize (args : List (List Char)) : Action Nat := do
  if (← process).functionCalls = 0 then failText "not in a function"
  for text in args do
    let (name, value) := definitionOf text
    if name = ['-'] then
      makeFlagsLocal
      continue
    if !isName name then badName name
    makeLocal name value
  return 0

def unset (args : List (List Char)) : Action Nat := do
  let (chosen, names) ← options "vf" args
  let functions := chosen.getLast?.any (·.letter == 'f')
  for name in names do
    if functions then
      modifyProcess fun p => { p with functions := p.functions.filter (·.1 != name) }
    else
      if !isName name then badName name
      if (← binding? name).any Variable.readonly then fail (name ++ ofText ": is read only")
      if name = "OPTIND".toList then fail (ofText "Illegal number: ")
      dropVariable name
  return 0

/-! ## Reading a line -/

/-- A line cut at the characters behind backslashes, which separate nothing.  The second
component says whether the line goes on behind its end. -/
def lineChunks : List Char → List Glyph → List Chunk × Bool
  | [], run => ([.text .separators run.reverse], false)
  | '\\' :: '\n' :: _, run => ([.text .separators run.reverse], true)
  | ['\\'], run => ([.text .separators run.reverse], false)
  | '\\' :: c :: rest, run =>
    let (more, goesOn) := lineChunks rest []
    (.text .separators run.reverse :: .text .whole [⟨c, true⟩] :: more, goesOn)
  | c :: rest, run => lineChunks rest (⟨c, false⟩ :: run)

/-- Reads a line and those that it goes on with, given a bound on their number.  The second
component says whether the input ended first. -/
def readChunks (raw : Bool) : Nat → Action (List Chunk × Bool)
  | 0 => return ([], true)
  | n + 1 => do
    match ← readLineOf 0 with
    | .error _ => return ([], true)
    | .ok text =>
      let ended := text.getLast? ≠ some '\n'
      let text := text.filter (· ≠ Fields.null)
      let line := if ended then text else text.dropLast
      if raw then return ([.text .separators (Glyph.ofChars false line)], ended)
      else
        let (chunks, goesOn) := lineChunks text []
        if goesOn then
          let (more, ended) ← readChunks raw n
          return (chunks ++ more, ended)
        else
          let chunks := if ended then chunks else (lineChunks line []).1
          return (chunks, ended)

/-- The most lines that are read as one. -/
def lineLimit : Nat := 100000

def read (args : List (List Char)) : Action Nat := do
  let (chosen, names) ← options "p:r" args
  let raw := chosen.any (·.letter == 'r')
  if names.isEmpty then failText "arg count"
  let (chunks, ended) ← readChunks raw lineLimit
  let fields := Fields.share (← separators) names.length chunks
  for (name, i) in names.zipIdx do
    assign name (Glyph.chars (fields[i]?.getD []))
  return if ended then 1 else 0

/-! ## Options of scripts -/

/-- What was found among the arguments of a script. -/
inductive Found where
  | finish
  | letter (c : Char) (value : Option (List Char))
  | unknown (c : Char)
  | missing (c : Char)

/-- The next option among some arguments.  The index, counted from one, is that of the
argument behind the group of letters that is being read, and the place is that of the next
letter in the group, or zero.  Both are given for the next time, too. -/
def nextOption (known : List Char) (args : List (List Char)) (index place : Nat) :
    Found × Nat × Nat :=
  let group := if 1 < index && 0 < place then ((args[index - 2]?).getD []).drop place else []
  match group with
  | c :: more => found c more index (place + 1)
  | [] =>
    match args[index - 1]? with
    | some ['-', '-'] => (.finish, index + 1, 0)
    | some ('-' :: c :: more) => found c more (index + 1) 2
    | _ => (.finish, index, 0)
where
  /-- What a letter stands for, with the letters behind it in its group. -/
  found (c : Char) (more : List Char) (index place : Nat) : Found × Nat × Nat :=
    let behind := (known.dropWhile (· ≠ c)).drop 1
    if c = ':' || !known.contains c then (.unknown c, index, place)
    else if behind.head? = some ':' then
      if !more.isEmpty then (.letter c (some more), index, 0)
      else
        match args[index - 1]? with
        | some value => (.letter c (some value), index + 1, 0)
        | none => (.missing c, index, 0)
    else (.letter c none, index, place)

/-- Gives the next option of a script. -/
def getopts (args : List (List Char)) : Action Nat := do
  match args with
  | known :: name :: own =>
    let p ← process
    let args := if own.isEmpty then p.arguments else own
    let quiet := known.head? = some ':'
    let known := if quiet then known.drop 1 else known
    let (found, index, place) := nextOption known args p.optionIndex p.optionPlace
    let optarg := "OPTARG".toList
    let answer ←
      match found with
      | .letter c value =>
        match value with
        | some v => assign optarg v
        | none => assign optarg []
        pure c
      | .unknown c =>
        if quiet then assign optarg [c]
        else
          dropVariable optarg
          putError (ofText ("Illegal option -" ++ String.singleton c ++ "\n"))
        pure '?'
      | .missing c =>
        if quiet then
          assign optarg [c]
          pure ':'
        else
          dropVariable optarg
          putError (ofText ("No arg for -" ++ String.singleton c ++ " option\n"))
          pure '?'
      | .finish => pure '?'
    assign "OPTIND".toList (ofNumber index)
    modifyProcess fun p => { p with optionIndex := index, optionPlace := place }
    assign name [answer]
    match found with
    | .finish => return 1
    | _ => return 0
  | _ => failText "Usage: getopts optstring var [arg...]"

/-! ## Other names for commands -/

/-- Gives commands other names, or shows them. -/
def rename (args : List (List Char)) : Action Nat := do
  let line (name value : List Char) : List Char := name ++ ['='] ++ quoted value ++ ['\n']
  if args.isEmpty then
    let all := (← process).aliases.mergeSort fun a b => bucket 39 a.1 ≤ bucket 39 b.1
    for (name, value) in all do
      put (line name value)
    return 0
  let mut status := 0
  for text in args do
    let start := text.take 1 ++ (text.drop 1).takeWhile (· ≠ '=')
    if start.length < text.length then
      let value := text.drop (start.length + 1)
      modifyProcess fun p =>
        if p.aliases.any (·.1 == start) then
          { p with aliases := p.aliases.map fun a => if a.1 == start then (start, value) else a }
        else { p with aliases := p.aliases ++ [(start, value)] }
    else
      match (← process).aliases.lookup text with
      | some value => put (line text value)
      | none =>
        putError (ofText "alias: " ++ text ++ ofText " not found\n")
        status := 1
  return status

def unalias (args : List (List Char)) : Action Nat := do
  let (chosen, names) ← options "a" args
  if !chosen.isEmpty then
    modifyProcess fun p => { p with aliases := [] }
    return 0
  let mut status := 0
  for name in names do
    if (← process).aliases.any (·.1 == name) then
      modifyProcess fun p => { p with aliases := p.aliases.filter (·.1 != name) }
    else
      putError (ofText "unalias: " ++ name ++ ofText " not found\n")
      status := 1
  return status

end Variables
end Shell
end FeatureLadder
