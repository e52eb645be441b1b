import FeatureLadder.Shell.Bytes

/-!
# Patterns

**Input**: the characters of a word, each with whether it stands for itself, and a text.

**Algorithm**: the word is cut into pieces.  A star stands for any text, a question mark
for one character and brackets for one character of a set, which an exclamation mark at
its start turns round.  Brackets that are not closed stand for themselves.

**Results**: `Pattern.accepts` says whether the whole text is of the pattern, and
`Pattern.trim` takes a part of that form away.
-/

namespace FeatureLadder
namespace Shell

/-- A character of a word.  What is quoted stands for itself. -/
structure Glyph where
  char : Char
  quoted : Bool
  deriving DecidableEq

namespace Glyph

/-- The characters of a text, all quoted or not. -/
def ofChars (quoted : Bool) (cs : List Char) : List Glyph :=
  cs.map (⟨·, quoted⟩)

def chars (gs : List Glyph) : List Char :=
  gs.map Glyph.char

/-- Whether a glyph is a certain character that does not stand for itself. -/
def isActive (g : Glyph) (c : Char) : Bool :=
  !g.quoted && g.char == c

end Glyph

/-- A named class of characters. -/
def classContains? (name : String) : Option (Char → Bool) :=
  match name with
  | "alpha" => some Char.isAlpha
  | "digit" => some Char.isDigit
  | "alnum" => some Char.isAlphanum
  | "upper" => some Char.isUpper
  | "lower" => some Char.isLower
  | "space" => some fun c => c == ' ' || (0x09 ≤ c.toNat && c.toNat ≤ 0x0D)
  | "blank" => some fun c => c == ' ' || c == '\t'
  | "punct" => some fun c => 0x20 < c.toNat && c.toNat < 0x7F && !c.isAlphanum
  | "print" => some fun c => 0x20 ≤ c.toNat && c.toNat < 0x7F
  | "graph" => some fun c => 0x20 < c.toNat && c.toNat < 0x7F
  | "cntrl" => some fun c => c.toNat < 0x20 || c.toNat == 0x7F
  | "xdigit" => some fun c => c.isDigit || ('a' ≤ c.toLower && c.toLower ≤ 'f')
  | _ => none

namespace Pattern

/-- A member of a set of characters. -/
inductive Member where
  | range (low high : Char)
  | named (name : String)

/-- Whether a member of a set holds a character. -/
def Member.contains (c : Char) : Member → Bool
  | .range low high => low ≤ c && c ≤ high
  | .named name => ((classContains? name).map (· c)).getD false

/-- A piece of a pattern. -/
inductive Piece where
  | char (c : Char)
  | one
  | many
  | set (inverted : Bool) (members : List Member)

/-- The class whose name stands in brackets and colons at the start, behind an opening
bracket, and what follows it. -/
def named? : List Glyph → Option (String × List Glyph)
  | colon :: rest =>
    if !colon.isActive ':' then none
    else
      let name := rest.takeWhile fun g => g.char.isAlpha
      match rest.drop name.length with
      | a :: b :: after =>
        let name := String.ofList (Glyph.chars name)
        if a.isActive ':' && b.isActive ']' && (classContains? name).isSome then some (name, after)
        else none
      | _ => none
  | [] => none

/-- The character at the start, behind a backslash if there is one. -/
def escaped : List Glyph → Option (Char × List Glyph)
  | [] => none
  | g :: rest =>
    if g.isActive '\\' then
      match rest with
      | h :: rest => some (h.char, rest)
      | [] => some ('\\', [])
    else some (g.char, rest)

/-- The members of a set up to the bracket that closes it, and what follows; none if
nothing closes it.  A bracket at the very start is a member. -/
def members? : Nat → Bool → List Glyph → Option (List Member × List Glyph)
  | 0, _, _ => none
  | _ + 1, _, [] => none
  | n + 1, first, g :: rest =>
    if !first && g.isActive ']' then some ([], rest)
    else
      let add (m : Member) (rest : List Glyph) : Option (List Member × List Glyph) :=
        (members? n false rest).map fun (ms, after) => (m :: ms, after)
      match if g.isActive '[' then named? rest else none with
      | some (name, after) => add (.named name) after
      | none =>
        match escaped (g :: rest) with
        | none => none
        | some (low, after) =>
          match after with
          | dash :: bound :: more =>
            if dash.isActive '-' && !bound.isActive ']' then
              match escaped (bound :: more) with
              | some (high, after) => add (.range low high) after
              | none => none
            else add (.range low low) after
          | _ => add (.range low low) after

/-- The pieces of a pattern, given a bound on their number. -/
def piecesOf : Nat → List Glyph → List Piece
  | 0, _ => []
  | _ + 1, [] => []
  | n + 1, g :: rest =>
    if g.isActive '*' then .many :: piecesOf n rest
    else if g.isActive '?' then .one :: piecesOf n rest
    else if g.isActive '[' then
      let (inverted, body) :=
        match rest with
        | h :: more => if h.isActive '!' then (true, more) else (false, rest)
        | [] => (false, rest)
      match members? (body.length + 1) true body with
      | some (ms, after) => .set inverted ms :: piecesOf n after
      | none => .char '[' :: piecesOf n rest
    else
      match escaped (g :: rest) with
      | some (c, after) => .char c :: piecesOf n after
      | none => []

def pieces (gs : List Glyph) : List Piece :=
  piecesOf (gs.length + 1) gs

/-- Whether a condition holds of a text or of what is left when its start is taken
away. -/
def someTail (p : List Char → Bool) : List Char → Bool
  | [] => p []
  | c :: cs => p (c :: cs) || someTail p cs

/-- Whether a text is of the form that some pieces give. -/
def run : List Piece → List Char → Bool
  | [], cs => cs.isEmpty
  | .many :: ps, cs => ps.isEmpty || someTail (run ps) cs
  | .char c :: ps, d :: cs => c == d && run ps cs
  | .one :: ps, _ :: cs => run ps cs
  | .set inverted ms :: ps, c :: cs => (ms.any (·.contains c) != inverted) && run ps cs
  | _, [] => false

/-- Whether a text is of the form of a pattern. -/
def accepts (pattern : List Glyph) (text : List Char) : Bool :=
  run (pieces pattern) text

/-- Whether a word has characters that make it a pattern. -/
def isActive (gs : List Glyph) : Bool :=
  gs.any fun g => g.isActive '*' || g.isActive '?' || g.isActive '['

/-- A text without the shortest or longest part at its start or end that is of the form of
a pattern. -/
def trim (fromEnd longest : Bool) (pattern : List Glyph) (text : List Char) : List Char :=
  let ps := pieces pattern
  let sizes := List.range (text.length + 1)
  let sizes := if longest then sizes.reverse else sizes
  if fromEnd then
    match sizes.find? fun n => run ps (text.drop (text.length - n)) with
    | some n => text.take (text.length - n)
    | none => text
  else
    match sizes.find? fun n => run ps (text.take n) with
    | some n => text.drop n
    | none => text

end Pattern
end Shell
end FeatureLadder
