import FeatureLadder.Shell.Builtin
import FeatureLadder.Shell.Lookup

/-!
# Starting a shell

**Input**: the arguments of a shell: options, then a text behind `-c`, or the path of a
script, or neither for a script on the standard input, and the arguments of the script.

**Algorithm**: the process starts anew.  Of what it knew, only the exported variables and
the ignored signals are left.

**Results**: `startShell`.
-/

namespace FeatureLadder
namespace Shell

/-- The variables that have a place of their own in the shell's table. -/
def tableNames : List String :=
  ["IFS", "MAIL", "MAILPATH", "PATH", "PS1", "PS2", "PS4", "OPTIND"]

/-- The variables of a shell that has just been started in a directory, from its
environment.  Some of them are set whatever the environment says, and stay exported if
they were there; others are set only if they are missing. -/
def initialBindings (directory : List Char) (environment : List (List Char × List Char)) :
    List (List Char × Variable) :=
  let given := (environment.filter (isName ·.1)).map fun (name, value) =>
    (name, ({ value := some value, exported := true } : Variable))
  let own (name : String) (value : List Char) : List Char × Variable :=
    (name.toList, { value := some value })
  let missing := [own "PATH" usualPath, own "PS1" ['#', ' '], own "PS2" ['>', ' '],
    own "PS4" ['+', ' ']].filter fun b => !given.any (·.1 == b.1)
  let forced := [own "IFS" Fields.usual, own "OPTIND" ['1'], own "PPID" ['1'],
    ("PWD".toList, { value := some directory, exported := true })]
  let all := forced.foldl
    (fun found (name, v) =>
      let exported := v.exported || found.any (·.1 == name)
      rebind name { v with exported := exported } found)
    (given ++ missing)
  let inTable := tableNames.filterMap fun name => all.find? (·.1 == name.toList)
  inTable ++ all.filter fun b => !inTable.any (·.1 == b.1)

/-- A process that has just become a shell. -/
def freshProcess (p : Process) (directory : List Char)
    (environment : List (List Char × List Char)) (name : List Char) : Process :=
  { number := p.number, shell := p.number, name := name, here := p.here, directory := directory
    bindings := initialBindings directory environment, descriptors := p.descriptors
    traps := p.traps.filter (·.2.isEmpty), mask := p.mask, line := 0 }

/-- How a shell was called. -/
structure Opening where
  /-- whether a text is given -/
  text : Bool := false
  /-- whether the script is on the standard input -/
  input : Bool := false
  arguments : List (List Char)

/-- Works off the options of a shell, given a bound on their number. -/
def openings : Nat → Opening → Action Opening
  | 0, o => return o
  | n + 1, o => do
    match o.arguments with
    | ['-', '-'] :: rest | ['-'] :: rest => return { o with arguments := rest }
    | (sign :: letters) :: rest =>
      if sign ≠ '-' && sign ≠ '+' then return o
      let text := letters.contains 'c'
      let input := sign = '-' && letters.contains 's'
      let others := letters.filter fun c => c ≠ 'c' && c ≠ 'l'
      let rest ← Variables.letters (sign = '-') others rest
      openings n { text := o.text || text, input := o.input || input, arguments := rest }
    | _ => return o

/-- The text of a script at a path. -/
def scriptText (path : List Char) : Action (List Char) := do
  match ← openInput path with
  | .error e => fail (ofText "cannot open " ++ path ++ ofText (": " ++ inputReason e))
  | .ok place =>
    let before := (← process).descriptors.lookup 10
    setDescriptor 10 (some place)
    let text ← readFrom 10
    setDescriptor 10 before
    match text with
    | .ok cs => return cs
    | .error _ => return []

/-- Turns the running process into a shell with a name and arguments, and runs its
script. -/
def startShell (ev : Evaluator) (name : List Char) (args : List (List Char)) : Action Nat := do
  let env ← environment
  let told (entry : String) : Option (List Char) := env.lookup entry.toList
  let directory := Directory.starting (← tree) ((told "PWD").getD [])
  modifyProcess fun p =>
    { freshProcess p directory env name with undecided := Variables.optionNames.map (·.2) }
  match told "OPTIND" with
  | some value => if (number? value).isNone then illegalNumber value
  | none => pure ⟨⟩
  let o ← openings (args.length + 1) { arguments := args }
  modifyProcess fun p => { p with undecided := [] }
  let run (last inFile : Bool) (text : List Char) : Action Nat := do
    modifyProcess fun p => { p with line := 1 }
    runText ev false last text inFile
  match o.arguments with
  | [] =>
    if o.text then failText "-c requires an argument"
    modifyProcess fun p => { p with flags := 's' :: p.flags.filter (· != 's') }
    match ← readFrom 0 with
    | .ok text => run false true text
    | .error _ => return 0
  | first :: rest =>
    if o.text then
      modifyProcess fun p => { p with name := rest.headD p.name, arguments := rest.drop 1 }
      run (!o.input) false first
    else if o.input then
      modifyProcess fun p => { p with arguments := o.arguments }
      match ← readFrom 0 with
      | .ok text => run false true text
      | .error _ => return 0
    else
      let text ← scriptText first
      modifyProcess fun p => { p with name := first, arguments := rest }
      run false true text

end Shell
end FeatureLadder
