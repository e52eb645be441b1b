import FeatureLadder.Shell.Calling
import FeatureLadder.Shell.Redirection

/-!
# How utilities are called

**Input**: the arguments of a utility.

**Algorithm**: an argument that starts with a dash is a group of letters or, with two
dashes, a word; some of them take a value, from the same argument or from the next one.
Options may stand behind operands, but not behind two dashes that stand alone.

**Results**: `withOptions` runs a utility with its options and operands.
-/

namespace FeatureLadder
namespace Shell
namespace Utility

/-- The options that a utility knows.  Letters with a colon behind them take a value. -/
structure Options where
  letters : String
  /-- words and the letters that they stand for -/
  words : List (String × Char) := []
  /-- whether options end at the first operand -/
  inOrder : Bool := false

/-- Why the options of a call are refused. -/
inductive Misuse where
  | unknownLetter (c : Char)
  | unknownWord (text : List Char)
  | ambiguousWord (text : List Char)
  | noValue (c : Char)
  | noValueOfWord (word : String)
  | unwantedValue (word : String)

/-- What is said about a call that is refused. -/
def Misuse.message : Misuse → List Char
  | .unknownLetter c => ofText "invalid option -- '" ++ [c, '\x27']
  | .unknownWord text => ofText "unrecognized option '" ++ text ++ ['\x27']
  | .ambiguousWord text => ofText "option '" ++ text ++ ofText "' is ambiguous"
  | .noValue c => ofText "option requires an argument -- '" ++ [c, '\x27']
  | .noValueOfWord word => ofText ("option '--" ++ word ++ "' requires an argument")
  | .unwantedValue word => ofText ("option '--" ++ word ++ "' doesn't allow an argument")

/-- Whether a letter takes a value. -/
def Options.takesValue (o : Options) (c : Char) : Bool :=
  ((o.letters.toList.dropWhile (· ≠ c)).drop 1).head? = some ':'

/-- The option that a word stands for; its start is enough if no other word has it. -/
def Options.word? (o : Options) (name : List Char) : Except Misuse (String × Char) :=
  let full := ofText "--" ++ name
  match o.words.find? fun w => w.1.toList = name with
  | some w => .ok w
  | none =>
    match o.words.filter fun w => name.isPrefixOf w.1.toList with
    | [w] => .ok w
    | [] => .error (.unknownWord full)
    | w :: more => if more.all (·.2 == w.2) then .ok w else .error (.ambiguousWord full)

/-- The options and the operands among some arguments, given a bound on their number. -/
def Options.sort (o : Options) :
    Nat → List (List Char) → Except Misuse (List Choice × List (List Char))
  | 0, args => .ok ([], args)
  | _ + 1, [] => .ok ([], [])
  | n + 1, arg :: rest => do
    let add (c : Choice) (rest : List (List Char)) :
        Except Misuse (List Choice × List (List Char)) := do
      let (choices, operands) ← o.sort n rest
      return (c :: choices, operands)
    match arg with
    | ['-', '-'] => return ([], rest)
    | '-' :: '-' :: text =>
      let name := text.takeWhile (· ≠ '=')
      let value := text.drop (name.length + 1)
      let hasValue := name.length < text.length
      match o.word? name with
      | .error (.unknownWord _) => throw (.unknownWord (if hasValue then arg else ofText "--" ++ name))
      | .error e => throw e
      | .ok (word, c) =>
        if !o.takesValue c then
          if hasValue then throw (.unwantedValue word) else add ⟨c, []⟩ rest
        else if hasValue then add ⟨c, value⟩ rest
        else
          match rest with
          | v :: rest => add ⟨c, v⟩ rest
          | [] => throw (.noValueOfWord word)
    | '-' :: c :: more =>
      if c = ':' || !o.letters.toList.contains c then throw (.unknownLetter c)
      else if o.takesValue c then
        match more, rest with
        | [], v :: rest => add ⟨c, v⟩ rest
        | [], [] => throw (.noValue c)
        | _, _ => add ⟨c, more⟩ rest
      else add ⟨c, []⟩ (if more.isEmpty then rest else ('-' :: more) :: rest)
    | _ =>
      if o.inOrder then return ([], arg :: rest)
      else
        let (choices, operands) ← o.sort n rest
        return (choices, arg :: operands)

/-- Says something about a failure of a utility. -/
def complain (name : String) (text : List Char) : Action PUnit :=
  putError (ofText (name ++ ": ") ++ text ++ ['\n'])

/-- Says where to find help about a utility; some say their names, too. -/
def hint (name : String) : Action PUnit := do
  let text := "Try '" ++ name ++ " --help' for more information."
  if name = "diff" || name = "cmp" then complain name (ofText text)
  else putError (ofText (text ++ "\n"))

def refuse (name : String) (status : Nat) (text : List Char) : Action Nat := do
  complain name text
  hint name
  return status

/-- Runs a utility with its options and operands; a call with other options is refused with
a status. -/
def withOptions (name : String) (o : Options) (args : List (List Char))
    (body : List Choice → List (List Char) → Action Nat) (status : Nat := 1) : Action Nat := do
  match o.sort (args.flatten.length + args.length + 1) args with
  | .ok (choices, operands) => body choices operands
  | .error misuse => refuse name status misuse.message

/-- Whether an option was given. -/
def has (choices : List Choice) (c : Char) : Bool :=
  choices.any (·.letter == c)

/-- The value that an option was given last. -/
def value? (choices : List Choice) (c : Char) : Option (List Char) :=
  (choices.reverse.find? (·.letter == c)).map Choice.value

/-! ## Names in messages -/

/-- Whether a character has to be quoted, at the start of a name or elsewhere. -/
def needsQuote (atStart : Bool) (c : Char) : Bool :=
  " \t\n!\"$&'()*;<=>?[\\^`|".toList.contains c || (atStart && (c == '#' || c == '~')) ||
    c.toNat < 0x20 || 0x7F ≤ c.toNat

/-- The escape of a control character in a quoted name. -/
def controlEscape (c : Char) : List Char :=
  match c with
  | '\n' => ['\\', 'n']
  | '\t' => ['\\', 't']
  | '\r' => ['\\', 'r']
  | '\x07' => ['\\', 'a']
  | '\x08' => ['\\', 'b']
  | '\x0b' => ['\\', 'v']
  | '\x0c' => ['\\', 'f']
  | _ =>
    let digits := Nat.toDigits 8 c.toNat
    '\\' :: List.replicate (3 - digits.length) '0' ++ digits

/-- A name between quotes, control characters apart.  The first argument says whether
control characters are being written. -/
def singleQuoted : Bool → List Char → List Char
  | _, [] => ['\x27']
  | inEscape, c :: cs =>
    let special := c.toNat < 0x20 || 0x7F ≤ c.toNat
    if special then
      (if inEscape then [] else ['\x27', '$', '\x27']) ++ controlEscape c ++ singleQuoted true cs
    else
      let opening := if inEscape then ['\x27', '\x27'] else []
      let text := if c = '\x27' then ['\x27', '\\', '\x27', '\x27'] else [c]
      opening ++ text ++ singleQuoted false cs

def inQuotes (name : List Char) : List Char :=
  let isPlain (c : Char) : Bool := 0x20 ≤ c.toNat && c.toNat < 0x7F
  if name.contains '\x27' && name.all isPlain && !name.any fun c => "\"$`\\!".toList.contains c then
    ['"'] ++ name ++ ['"']
  else '\x27' :: singleQuoted false name

/-- A name, in quotes if it needs them. -/
def shown (name : List Char) : List Char :=
  let needed := name.isEmpty || name = ['\x7b'] || name = ['\x7d'] ||
    needsQuote true (name.headD ' ') || name.any (needsQuote false)
  if needed then inQuotes name else name

/-! ## Input -/

/-- Reads all that is left at an open stream. -/
def readPlace (place : Nat) : Action (Except Trouble (List Char)) := do
  let before := (← process).descriptors.lookup 100
  setDescriptor 100 (some place)
  let text ← readFrom 100
  setDescriptor 100 before
  return text

/-- Reads an operand: a file, or the standard input for a single dash. -/
def readOperand (path : List Char) : Action (Except String (List Char)) := do
  if path = ['-'] then
    match ← readFrom 0 with
    | .ok text => return .ok text
    | .error trouble => return .error trouble.reason
  match ← openInput path with
  | .error e => return .error e.reason
  | .ok place =>
    match ← readPlace place with
    | .ok text => return .ok text
    | .error trouble => return .error trouble.reason

/-- Reads operands one after the other, or the standard input if there are none, and says
whether all could be read. -/
def forOperands (name : String) (operands : List (List Char))
    (act : List Char → List Char → Action PUnit) : Action Bool := do
  let mut fine := true
  for path in if operands.isEmpty then [['-']] else operands do
    match ← readOperand path with
    | .ok text => act path text
    | .error reason =>
      complain name (shown path ++ ofText (": " ++ reason))
      fine := false
  return fine

def allText (name : String) (operands : List (List Char)) : Action (List Char × Bool) := do
  let mut texts := []
  let mut fine := true
  for path in if operands.isEmpty then [['-']] else operands do
    match ← readOperand path with
    | .ok text => texts := text :: texts
    | .error reason =>
      complain name (shown path ++ ofText (": " ++ reason))
      fine := false
  return (texts.reverse.flatten, fine)

/-- The lines of a text without their line feeds. -/
def linesOf (text : List Char) : List (List Char) :=
  let pieces := Text.pieces '\n' text
  if pieces.getLast? = some [] then pieces.dropLast else pieces

/-- Lines with a line feed behind each of them. -/
def unlines (lines : List (List Char)) : List Char :=
  lines.flatMap (· ++ ['\n'])

/-- The status of success or failure. -/
def statusOf (fine : Bool) : Nat :=
  if fine then 0 else 1

/-- A text filled up with blanks in front of it. -/
def padLeft (width : Nat) (text : List Char) : List Char :=
  List.replicate (width - text.length) ' ' ++ text

/-- A text filled up with blanks behind it. -/
def padRight (width : Nat) (text : List Char) : List Char :=
  text ++ List.replicate (width - text.length) ' '

end Utility
end Shell
end FeatureLadder
