import FeatureLadder.Arguments.Basic

/-!
# Reading the command line

**Input**: the arguments behind the program's name.

**Algorithm**: the arguments are read from left to right.  An option whose value stands
behind an equals sign is *settled* at once, and so is a switch.  An option whose value
is an argument of its own is *pending* until the next known option, the next positional
argument or the end, and is settled then.  To be settled an option must have a value,
must not have been settled before, and must accept the value.  Behind a lone `--` every
argument is positional.  The first problem is the answer.
-/

namespace FeatureLadder
namespace Arguments

/-- The options that take a value. -/
inductive Setting where
  | manifestPath
  | tool
  | order
  | output
  | logFormat
  | logLevel
  deriving DecidableEq

/-- The options without a value. -/
inductive Switch where
  | allowUnlisted
  | capture
  | dryRun
  | list
  deriving DecidableEq

/-- Everything that has a long name. -/
inductive Name where
  | setting (s : Setting)
  | switch (s : Switch)
  | help
  | version
  deriving DecidableEq

/-- Why a command line is not carried out. -/
inductive Rejection where
  /-- two arguments exclude each other, or one is given twice -/
  | conflict
  /-- a value is missing or not accepted -/
  | invalidValue
  | unknownArgument
  /-- a value is given to something that takes none -/
  | tooManyValues
  /-- help is asked for, in the long or the short form -/
  | help (long : Bool)
  | version
  deriving DecidableEq

/-- Whether a rejection is a failure; asking for help or for the version is none. -/
def Rejection.isFailure : Rejection → Bool
  | .help _ | .version => false
  | _ => true

/-- What is said about a command line that is not carried out. -/
def Rejection.message : Rejection → String
  | .conflict => "these arguments cannot be used together"
  | .invalidValue => "an option has no value, or one that it does not accept"
  | .unknownArgument => "an argument is not known"
  | .tooManyValues => "an argument takes no value"
  | .help _ | .version => ""

/-- The long name of a setting. -/
def Setting.name : Setting → String
  | .manifestPath => "manifest-path"
  | .tool => "tool"
  | .order => "order"
  | .output => "output"
  | .logFormat => "log-format"
  | .logLevel => "log-level"

/-- The long name of a switch. -/
def Switch.name : Switch → String
  | .allowUnlisted => "allow-unlisted"
  | .capture => "capture"
  | .dryRun => "dry-run"
  | .list => "list"

def Name.text : Name → String
  | .setting s => s.name
  | .switch s => s.name
  | .help => "help"
  | .version => "version"

/-- Everything that has a long name, in the order of the help text. -/
def Name.all : List Name :=
  [.setting .manifestPath, .setting .tool, .switch .allowUnlisted, .setting .order,
    .switch .capture, .switch .dryRun, .switch .list, .setting .output, .setting .logFormat,
    .setting .logLevel, .help, .version]

/-- What a long name stands for; names are never shortened. -/
def Name.ofText? (s : String) : Option Name :=
  Name.all.find? (·.text == s)

/-- The arguments with a setting made, if it accepts the value. -/
def set (a : Arguments) : Setting → String → Option Arguments
  | .manifestPath, value => if value.isEmpty then none else some { a with manifestPath := value }
  | .tool, value => some { a with tool := value }
  | .order, value => (CatalogOrder.ofName? value).map fun o => { a with order := o }
  | .output, value => (OutputFormat.ofName? value).map fun f => { a with output := f }
  | .logFormat, value => (Log.Format.ofName? value).map fun f => { a with logFormat := some f }
  | .logLevel, value => (Log.Level.ofName? value).map fun l => { a with logLevel := l }

def isOn (a : Arguments) : Switch → Bool
  | .allowUnlisted => a.allowUnlisted
  | .capture => a.capture
  | .dryRun => a.dryRun
  | .list => a.list

/-- The arguments with a switch on. -/
def turnOn (a : Arguments) : Switch → Arguments
  | .allowUnlisted => { a with allowUnlisted := true }
  | .capture => { a with capture := true }
  | .dryRun => { a with dryRun := true }
  | .list => { a with list := true }

/-- An argument by its shape. -/
inductive Token where
  /-- a lone `--` -/
  | escape
  /-- a long name, with the value behind an equals sign if there is one -/
  | long (name : String) (value : Option String)
  /-- a hyphen and a letter; what follows the letter is not looked at -/
  | short (letter : Char)
  | plain
  deriving DecidableEq

/-- The shape of an argument. -/
def Token.ofChars : List Char → Token
  | ['-', '-'] => .escape
  | '-' :: '-' :: rest =>
    let value :=
      match rest.dropWhile (· ≠ '=') with
      | [] => none
      | _ :: value => some (String.ofList value)
    .long (String.ofList (rest.takeWhile (· ≠ '='))) value
  | '-' :: letter :: _ => .short letter
  | _ => .plain

/-- How far the reading has come. -/
structure Progress where
  /-- what has been settled -/
  arguments : Arguments := {}
  settled : List Setting := []
  /-- the option that waits to be settled, and its value if it has one yet -/
  pending : Option (Setting × Option String) := none
  /-- whether every further argument is positional -/
  positionalOnly : Bool := false

namespace Progress

/-- Settles an option, which needs a value. -/
def setting (p : Progress) (s : Setting) (value : Option String) : Except Rejection Progress :=
  match value with
  | none => .error .invalidValue
  | some value =>
    if p.settled.contains s then .error .conflict
    else
      match p.arguments.set s value with
      | none => .error .invalidValue
      | some a => .ok { p with arguments := a, settled := s :: p.settled }

/-- Settles the pending option. -/
def settle (p : Progress) : Except Rejection Progress :=
  match p.pending with
  | none => .ok p
  | some (s, value) => { p with pending := none }.setting s value

def switch (p : Progress) (s : Switch) : Except Rejection Progress :=
  if p.arguments.isOn s then .error .conflict
  else .ok { p with arguments := p.arguments.turnOn s }

/-- Takes the positional argument; there is one at most. -/
def positional (p : Progress) (value : String) : Except Rejection Progress :=
  if p.arguments.target.isSome then .error .unknownArgument
  else do
    let p ← p.settle
    return { p with arguments := { p.arguments with target := some value } }

/-- Takes what a long name stands for. -/
def named (p : Progress) (name : Name) (value : Option String) : Except Rejection Progress :=
  match name with
  | .setting s => do
    let p ← p.settle
    if value.isSome then p.setting s value else return { p with pending := some (s, none) }
  | .switch s =>
    if value.isSome then .error .tooManyValues
    else do
      let p ← p.settle
      p.switch s
  | .help =>
    if value.isSome then .error .tooManyValues
    else do
      let _ ← p.settle
      throw (.help true)
  | .version =>
    if value.isSome then .error .tooManyValues
    else do
      let _ ← p.settle
      throw .version

/-- Takes a hyphen and a letter. -/
def letter (p : Progress) (c : Char) : Except Rejection Progress :=
  if c = 'h' then do
    let _ ← p.settle
    throw (.help false)
  else if c = 'V' then do
    let _ ← p.settle
    throw .version
  else .error .unknownArgument

/-- Takes one argument. -/
def step (p : Progress) (argument : String) : Except Rejection Progress :=
  if p.positionalOnly then p.positional argument
  else
    match Token.ofChars argument.toList with
    | .escape => .ok { p with positionalOnly := true }
    | .long name value =>
      match Name.ofText? name with
      | none => .error .unknownArgument
      | some name => p.named name value
    | .short c => p.letter c
    | .plain =>
      match p.pending with
      | some (s, none) => .ok { p with pending := some (s, some argument) }
      | _ => p.positional argument

def finish (p : Progress) : Except Rejection Arguments := do
  let p ← p.settle
  if p.arguments.contradictory then throw .conflict
  return p.arguments

end Progress

/-- Reads the arguments behind the program's name. -/
def parse (arguments : List String) : Except Rejection Arguments := do
  let p ← arguments.foldlM Progress.step {}
  p.finish

end Arguments
end FeatureLadder
