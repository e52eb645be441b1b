import FeatureLadder.Shell.Bytes
import FeatureLadder.Shell.Script

/-!
# The text of a script, while it is being read

A `Source` is what is left of a script's text, with the number of the line that has
been reached and what has been announced for later: a here-document stands in the
script where its redirection is, but its text begins on the next line.

The text is read in two rounds.  The first finds the here-documents, and the second
knows them from the start.
-/

namespace FeatureLadder
namespace Shell

/-- What a redirection does. -/
inductive RedirectKind where
  | fromFile
  | toFile (writing : Writing)
  | copy
  /-- a here-document; with `strip` its lines lose the tabs they start with -/
  | here (strip : Bool)

/-- The smallest parts of a script. -/
inductive Token where
  | finish
  | newline
  | operator (s : String)
  | redirection (descriptor : Nat) (kind : RedirectKind)
  | word (w : Word)
  | keyword (s : String)

/-- A here-document whose text has not been read yet. -/
structure Announced where
  /-- its place among all here-documents of the command -/
  place : Nat
  /-- the line that ends it -/
  ending : List Char
  strip : Bool
  /-- whether nothing in it is substituted -/
  literal : Bool

/-- An alias that has been replaced by its text. -/
structure Replaced where
  name : List Char
  /-- how much of the script is left behind the text -/
  behind : Nat
  /-- whether the text ends with a blank -/
  goesOn : Bool

/-- What is left of a script. -/
structure Source where
  rest : List Char
  line : Nat := 1
  /-- whether the text comes from a file, whose lines may have to be shown -/
  inFile : Bool := false
  /-- a token that was read too early -/
  back : Option Token := none
  aliases : List (List Char × List Char) := []
  /-- the aliases that have been replaced, latest first -/
  replaced : List Replaced := []
  pending : List Announced := []
  /-- the number of here-documents so far -/
  announced : Nat := 0
  /-- the here-documents read so far, by their places -/
  bodies : List (Nat × Word) := []
  /-- the here-documents that an earlier round has found -/
  known : List (Nat × Word) := []

/-- The text that a word at the start of a source stands for as an alias.  It does not if it
stands in the text of that alias itself.  With `asked` any alias counts, and otherwise
only one that follows the text of another which ends with a blank. -/
def Source.replacement? (s : Source) (asked : Bool) (name : List Char) : Option (List Char) :=
  match s.aliases with
  | [] => none
  | _ =>
    let start := s.rest.length
    let word := (s.rest.dropWhile fun c => c == ' ' || c == '\t').length
    let goesOn := s.replaced.any fun r => r.goesOn && r.behind < start && word ≤ r.behind
    let isInside := s.replaced.any fun r => r.name == name && r.behind < word
    if (asked || goesOn) && !isInside then s.aliases.lookup name else none

/-- Why a text is not a command. -/
inductive Malformation where
  | unexpected (token : Token) (expecting : Option String)
  | badLoopVariable
  | badFunctionName
  | unterminatedQuote
  | missingBrace
  | missingParentheses
  | unterminatedBackquote
  /-- the bound on the number of steps was reached -/
  | tooLong

/-- A keyword or an operator as it is named in a message. -/
def tokenLabel (s : String) : String :=
  if s = "word" || s = "newline" then s else "\"" ++ s ++ "\""

/-- A token as it is named in a message. -/
def Token.label : Token → String
  | .finish => "end of file"
  | .newline => "newline"
  | .operator s | .keyword s => "\"" ++ s ++ "\""
  | .redirection .. => "redirection"
  | .word _ => "word"

/-- What is said about a text that is not a command. -/
def Malformation.message (m : Malformation) : String :=
  "Syntax error: " ++
    match m with
    | .unexpected token none => token.label ++ " unexpected"
    | .unexpected token (some other) =>
      token.label ++ " unexpected (expecting " ++ tokenLabel other ++ ")"
    | .badLoopVariable => "Bad for loop variable"
    | .badFunctionName => "Bad function name"
    | .unterminatedQuote => "Unterminated quoted string"
    | .missingBrace => "Missing '\x7d'"
    | .missingParentheses => "Missing '))'"
    | .unterminatedBackquote => "EOF in backquote substitution"
    | .tooLong => "too long"

/-- A malformation and its line. -/
structure Fault where
  line : Nat
  malformation : Malformation

/-- Reading from a source. -/
abbrev Reader := StateT Source (Except Fault)

namespace Reader

/-- Fails at the line that has been reached. -/
def refuse {α : Type} (m : Malformation) : Reader α := do
  throw ⟨(← get).line, m⟩

def unexpected {α : Type} (token : Token) (expecting : Option String := none) : Reader α :=
  refuse (.unexpected token expecting)

/-- Sets what is left of the text. -/
def setRest (rest : List Char) : Reader PUnit :=
  modify fun s => { s with rest := rest }

/-- Counts the line feeds of a text that has been read. -/
def countLines (cs : List Char) : Reader PUnit :=
  modify fun s => { s with line := s.line + cs.count '\n' }

def giveBack (token : Token) : Reader PUnit :=
  modify fun s => { s with back := some token }

/-- The next character, behind continued lines. -/
def peek : Reader (Option Char) := do
  let s ← get
  let (rest, lines) := skip s.rest 0
  set { s with rest := rest, line := s.line + lines }
  return rest.head?
where
  /-- The text behind continued lines, and their number. -/
  skip : List Char → Nat → List Char × Nat
    | '\\' :: '\n' :: rest, lines => skip rest (lines + 1)
    | rest, lines => (rest, lines)

def drop : Reader PUnit :=
  modify fun s => { s with rest := s.rest.drop 1 }

/-- Takes the characters at the start of the text that fulfil a condition, across
continued lines. -/
def takeWhile (p : Char → Bool) : Reader (List Char) := do
  let s ← get
  let (taken, rest, lines) := go s.rest [] 0
  set { s with rest := rest, line := s.line + lines }
  return taken
where
  /-- The characters taken, the text behind them and the number of continued lines. -/
  go : List Char → List Char → Nat → List Char × List Char × Nat
    | '\\' :: '\n' :: rest, taken, lines => go rest taken (lines + 1)
    | c :: rest, taken, lines =>
      if p c then go rest (c :: taken) lines else (taken.reverse, c :: rest, lines)
    | [], taken, lines => (taken.reverse, [], lines)

/-- Drops blanks, continued lines and a comment. -/
def skipBlanks : Reader PUnit := do
  let s ← get
  let (rest, lines) := go s.rest 0
  set { s with rest := rest, line := s.line + lines }
where
  /-- The text behind the blanks, and the number of continued lines. -/
  go : List Char → Nat → List Char × Nat
    | ' ' :: rest, lines | '\t' :: rest, lines => go rest lines
    | '\\' :: '\n' :: rest, lines => go rest (lines + 1)
    | '#' :: rest, lines => (rest.dropWhile (· ≠ '\n'), lines)
    | rest, lines => (rest, lines)

end Reader
end Shell
end FeatureLadder
