/-!
# JSON documents

**Input**: a value made of truth values, integers, texts, lists and objects whose
members are in the order in which they are written.

**Algorithm**: a text is written between double quotes.  The quote and the backslash
are escaped, five controls have short names, every other character below U+0020 is
written by number, and all else stands as it is.  `compact` puts no blanks between
the parts; `pretty` puts each item on a line of its own, indented by two blanks per
level, and leaves an empty list or object on one line.
-/

namespace FeatureLadder

/-- A JSON value. -/
inductive Json where
  | bool (b : Bool)
  | number (n : Int)
  | text (s : String)
  | list (items : List Json)
  | object (members : List (String × Json))

namespace Json

/-- The digit for a number below sixteen. -/
def hexDigit (n : Nat) : Char :=
  if n < 10 then Char.ofNat (0x30 + n) else Char.ofNat (0x57 + n)

/-- A character inside a written text. -/
def escapeChar (c : Char) : List Char :=
  if c = '"' then ['\\', '"']
  else if c = '\\' then ['\\', '\\']
  else if c = '\x08' then ['\\', 'b']
  else if c = '\x0c' then ['\\', 'f']
  else if c = '\n' then ['\\', 'n']
  else if c = '\r' then ['\\', 'r']
  else if c = '\t' then ['\\', 't']
  else if c.toNat < 0x20 then
    ['\\', 'u', '0', '0', hexDigit (c.toNat / 16), hexDigit (c.toNat % 16)]
  else [c]

def writeText (s : String) : List Char :=
  '"' :: s.toList.flatMap escapeChar ++ ['"']

def writeNumber : Int → List Char
  | .ofNat n => Nat.toDigits 10 n
  | .negSucc n => '-' :: Nat.toDigits 10 (n + 1)

def writeBool (b : Bool) : List Char :=
  if b then ['t', 'r', 'u', 'e'] else ['f', 'a', 'l', 's', 'e']

mutual

/-- A value written without blanks. -/
def compact : Json → List Char
  | .bool b => writeBool b
  | .number n => writeNumber n
  | .text s => writeText s
  | .list items => '[' :: compactItems items ++ [']']
  | .object members => '\x7b' :: compactMembers members ++ ['\x7d']

/-- The items of a list, with commas between them. -/
def compactItems : List Json → List Char
  | [] => []
  | [item] => compact item
  | item :: more => compact item ++ ',' :: compactItems more

/-- The members of an object, with commas between them. -/
def compactMembers : List (String × Json) → List Char
  | [] => []
  | [(key, value)] => writeText key ++ ':' :: compact value
  | (key, value) :: more => writeText key ++ ':' :: compact value ++ ',' :: compactMembers more

end

/-- A line feed and the blanks that start a line of the given depth. -/
def newline (depth : Nat) : List Char :=
  '\n' :: List.replicate (2 * depth) ' '

mutual

/-- A value written over several lines, the value itself standing at a depth. -/
def prettyAt (depth : Nat) : Json → List Char
  | .bool b => writeBool b
  | .number n => writeNumber n
  | .text s => writeText s
  | .list [] => ['[', ']']
  | .list (item :: more) =>
    '[' :: prettyItems (depth + 1) (item :: more) ++ newline depth ++ [']']
  | .object [] => ['\x7b', '\x7d']
  | .object (member :: more) =>
    '\x7b' :: prettyMembers (depth + 1) (member :: more) ++ newline depth ++ ['\x7d']

/-- The items of a list, each on a line of its own. -/
def prettyItems (depth : Nat) : List Json → List Char
  | [] => []
  | [item] => newline depth ++ prettyAt depth item
  | item :: more => newline depth ++ prettyAt depth item ++ ',' :: prettyItems depth more

/-- The members of an object, each on a line of its own. -/
def prettyMembers (depth : Nat) : List (String × Json) → List Char
  | [] => []
  | [(key, value)] => newline depth ++ writeText key ++ ':' :: ' ' :: prettyAt depth value
  | (key, value) :: more =>
    newline depth ++ writeText key ++ ':' :: ' ' :: prettyAt depth value ++
      ',' :: prettyMembers depth more

end

/-- The document on one line. -/
def toCompact (value : Json) : String :=
  String.ofList value.compact

/-- The document over several lines. -/
def toPretty (value : Json) : String :=
  String.ofList (value.prettyAt 0)

end Json
end FeatureLadder
