import FeatureLadder.Shell.Pattern

/-!
# Regular expressions

**Input**: the text of an expression, basic or extended, and a text to search.

**Algorithm**: the expression is read by recursive descent.  To search, all places are
found that it can lead to from a start, part by part; of several ways to the same place
the first one is kept, and repetitions try more rounds first.  The match that starts first
and, among those, is the longest, is taken.

**Results**: `Regex.read` and `Regex.search`.
-/

namespace FeatureLadder
namespace Shell

/-- What stands at an edge of a word. -/
inductive WordEdge where
  | start
  | finish
  | either
  | neither
  /-- nothing of a word stands before -/
  | free
  /-- nothing of a word stands behind -/
  | freeBehind
  deriving DecidableEq

/-- A regular expression. -/
inductive Regex where
  | nothing
  | char (c : Char)
  | any
  | set (inverted : Bool) (members : List Pattern.Member)
  | start
  | finish
  | edge (kind : WordEdge)
  | group (number : Nat) (r : Regex)
  | repeated (least : Nat) (most : Option Nat) (r : Regex)
  | both (first second : Regex)
  | either (first second : Regex)
  /-- what a group has matched -/
  | same (number : Nat)

namespace Regex

/-! ## Searching -/

/-- A place that has been reached, and what groups have matched. -/
structure Place where
  offset : Nat
  groups : List (Nat × Nat × Nat) := []
  deriving DecidableEq

/-- A text that is searched. -/
structure Subject where
  text : Array Char
  /-- whether the case of letters does not matter -/
  anyCase : Bool
  /-- whether the end of the text is meant only where the whole text ends -/
  exact : Bool

namespace Subject

/-- Whether two characters count as the same. -/
def agrees (s : Subject) (a b : Char) : Bool :=
  a == b || (s.anyCase && a.toLower == b.toLower)

/-- Whether a set holds a character. -/
def holds (s : Subject) (ms : List Pattern.Member) (c : Char) : Bool :=
  ms.any (·.contains c) ||
    (s.anyCase && (ms.any (·.contains c.toLower) || ms.any (·.contains c.toUpper)))

/-- Whether the character at an offset belongs to a word. -/
def isWord (s : Subject) (offset : Nat) : Bool :=
  (s.text[offset]?).any fun c => c.isAlphanum || c == '_'

/-- Whether an offset is at an edge of a word. -/
def isEdge (s : Subject) (kind : WordEdge) (offset : Nat) : Bool :=
  let before := offset ≠ 0 && s.isWord (offset - 1)
  let after := s.isWord offset
  match kind with
  | .start => !before && after
  | .finish => before && !after
  | .either => before != after
  | .neither => before == after
  | .free => !before
  | .freeBehind => !after

/-- The places without those that have been reached before. -/
def distinct (s : Subject) (ps : List Place) : List Place :=
  ps.foldl (fun found p => if found.any (same p) then found else p :: found) [] |>.reverse
where
  /-- Whether two ways lead to the same place. -/
  same (p q : Place) : Bool := if s.exact then p = q else p.offset == q.offset

/-- The rounds of a repetition, latest first: the places that each of them leads to for the
first time. -/
def rounds (s : Subject) (f : List Place → List Place) :
    Nat → List Place → List (List Place) → List (List Place)
  | 0, _, found => found
  | n + 1, level, found =>
    let isNew (p : Place) : Bool := !found.any fun l => l.any (distinct.same s p)
    match (s.distinct (f level)).filter isNew with
    | [] => found
    | next => s.rounds f n next (next :: found)

/-- A function applied several times. -/
def times (f : List Place → List Place) : Nat → List Place → List Place
  | 0, ps => ps
  | n + 1, ps => times f n (f ps)

/-- The places behind one character that is accepted. -/
def past (s : Subject) (accepts : Char → Bool) (ps : List Place) : List Place :=
  ps.filterMap fun p =>
    if (s.text[p.offset]?).any accepts then some { p with offset := p.offset + 1 } else none

end Subject

/-- The places that an expression leads to. -/
def step (s : Subject) : Regex → List Place → List Place
  | .nothing, ps => ps
  | .char c, ps => s.past (s.agrees c) ps
  | .any, ps => s.past (fun _ => true) ps
  | .set inverted ms, ps => s.past (fun c => s.holds ms c != inverted) ps
  | .start, ps => ps.filter (·.offset == 0)
  | .finish, ps => ps.filter (·.offset == s.text.size)
  | .edge kind, ps => ps.filter fun p => s.isEdge kind p.offset
  | .group n r, ps =>
    ps.flatMap fun p =>
      (step s r [p]).map fun q => { q with groups := (n, p.offset, q.offset) :: q.groups }
  | .repeated least most r, ps =>
    ps.flatMap fun p =>
      let base := s.distinct (Subject.times (step s r) least [p])
      let bound := (most.map (· - least)).getD (s.text.size + 1)
      (s.rounds (step s r) bound base [base]).flatten
  | .both a b, ps => s.distinct (step s b (s.distinct (step s a ps)))
  | .either a b, ps => s.distinct (step s a ps ++ step s b ps)
  | .same n, ps =>
    ps.filterMap fun p => do
      let (from', to') ← p.groups.lookup n
      let length := to' - from'
      let agrees := (List.range length).all fun i =>
        match s.text[from' + i]?, s.text[p.offset + i]? with
        | some a, some b => s.agrees a b
        | _, _ => false
      if agrees then some { p with offset := p.offset + length } else none

/-- Whether an expression refers to a group. -/
def refers : Regex → Bool
  | .same _ => true
  | .group _ r | .repeated _ _ r => r.refers
  | .both a b | .either a b => a.refers || b.refers
  | _ => false

/-- Where a match starts and ends, and what its groups have matched. -/
structure Match where
  start : Nat
  finish : Nat
  groups : List (Nat × Nat × Nat) := []

/-- The longest match at one of some starts, the first of which that has a match is
taken. -/
def searchFrom (s : Subject) (r : Regex) : List Nat → Option Match
  | [] => none
  | offset :: more =>
    match step s r [{ offset := offset }] with
    | [] => searchFrom s r more
    | p :: ps =>
      let best := ps.foldl (fun best q => if best.offset < q.offset then q else best) p
      some { start := offset, finish := best.offset, groups := best.groups }

/-- The first and longest match in a text from an offset on. -/
def search (r : Regex) (anyCase : Bool) (text : List Char) (from' : Nat := 0) : Option Match :=
  let s : Subject := { text := text.toArray, anyCase := anyCase, exact := r.refers }
  searchFrom s r ((List.range (text.length + 1)).drop from')

def slice (text : List Char) (from' to' : Nat) : List Char :=
  (text.take to').drop from'

/-- What a group of a match has matched; the group zero is the whole match. -/
def Match.text? (m : Match) (text : List Char) (group : Nat) : Option (List Char) :=
  if group = 0 then some (slice text m.start m.finish)
  else (m.groups.lookup group).map fun (a, b) => slice text a b

/-! ## Reading -/

/-- Why a text is not a regular expression. -/
inductive Malformation where
  | unmatchedParenthesis
  | unmatchedClosing
  | unmatchedBracket
  | unmatchedBrace
  | badBrace
  | nothingToRepeat
  | badReference
  | trailingBackslash

/-- What is said about a text that is not a regular expression. -/
def Malformation.message : Malformation → String
  | .unmatchedParenthesis => "Unmatched ( or \\("
  | .unmatchedClosing => "Unmatched ) or \\)"
  | .unmatchedBracket => "Unmatched [, [^, [:, [., or [="
  | .unmatchedBrace => "Unmatched \\\x7b"
  | .badBrace => "Invalid content of \\\x7b\\\x7d"
  | .nothingToRepeat => "Invalid preceding regular expression"
  | .badReference => "Invalid back reference"
  | .trailingBackslash => "Trailing backslash"

/-- What is left of an expression, and the number of its groups so far. -/
structure Source where
  rest : List Char
  groups : Nat := 0

/-- Reading an expression. -/
abbrev Reader := StateT Source (Except Malformation)

def drop (n : Nat) : Reader PUnit :=
  modify fun s => { s with rest := s.rest.drop n }

/-- A mark of the syntax, with or without a backslash in front of it. -/
inductive Mark where
  | opening
  | closing
  | bar
  | brace
  | star
  | plus
  | option
  deriving DecidableEq

/-- The mark at the start of a text, and its length. -/
def mark? (extended : Bool) : List Char → Option (Mark × Nat)
  | '*' :: _ => some (.star, 1)
  | '\\' :: c :: _ => if extended then none else (plain? c).map (·, 2)
  | c :: _ => if extended then (plain? c).map (·, 1) else none
  | [] => none
where
  /-- The mark that a character stands for. -/
  plain? : Char → Option Mark
    | '(' => some .opening
    | ')' => some .closing
    | '|' => some .bar
    | '\x7b' => some .brace
    | '+' => some .plus
    | '?' => some .option
    | _ => none

/-- The members of a set in brackets up to its end, and what follows. -/
def members? : Nat → Bool → List Char → Option (List Pattern.Member × List Char)
  | 0, _, _ => none
  | _ + 1, _, [] => none
  | n + 1, first, c :: rest =>
    let add (m : Pattern.Member) (rest : List Char) : Option (List Pattern.Member × List Char) :=
      (members? n false rest).map fun (ms, after) => (m :: ms, after)
    if c = ']' && !first then some ([], rest)
    else
      let named :=
        match c, rest with
        | '[', ':' :: more =>
          let name := more.takeWhile Char.isAlpha
          match more.drop name.length with
          | ':' :: ']' :: after => some (String.ofList name, after)
          | _ => none
        | _, _ => none
      match named with
      | some (name, after) => add (.named name) after
      | none =>
        let (low, rest) :=
          match c, rest with
          | '[', '.' :: x :: '.' :: ']' :: after => (x, after)
          | '[', '=' :: x :: '=' :: ']' :: after => (x, after)
          | _, _ => (c, rest)
        match rest with
        | '-' :: high :: after =>
          if high = ']' then add (.range low low) rest else add (.range low high) after
        | _ => add (.range low low) rest

/-- The bounds in braces and what follows them; none if they are malformed. -/
def bounds? (extended : Bool) (cs : List Char) : Option ((Nat × Option Nat) × List Char) :=
  let low := cs.takeWhile Char.isDigit
  let after := cs.drop low.length
  let least := (digits? low).getD 0
  let (most, after) : Option Nat × List Char :=
    match after with
    | ',' :: rest =>
      let high := rest.takeWhile Char.isDigit
      (digits? high, rest.drop high.length)
    | _ => (some least, after)
  let fine := !(low.isEmpty && most = some least) && most.all (least ≤ ·)
  match after, extended with
  | '\x7d' :: rest, true => if fine then some ((least, most), rest) else none
  | '\\' :: '\x7d' :: rest, false => if fine then some ((least, most), rest) else none
  | _, _ => none

/-- An expression joined to another one. -/
def followedBy : Regex → Regex → Regex
  | .nothing, r => r
  | r, .nothing => r
  | a, b => .both a b

mutual

def alternatives (extended : Bool) (depth : Nat) : Nat → Reader Regex
  | 0 => throw .unmatchedParenthesis
  | n + 1 => do
    let first ← branch extended depth true .nothing n
    match mark? extended (← get).rest with
    | some (.bar, k) =>
      drop k
      return .either first (← alternatives extended depth n)
    | _ => return first

/-- Expressions that follow each other.  With `atStart` none of them has been read. -/
def branch (extended : Bool) (depth : Nat) (atStart : Bool) (before : Regex) : Nat → Reader Regex
  | 0 => throw .unmatchedParenthesis
  | n + 1 => do
    let rest := (← get).rest
    let go (stillStart : Bool) (r : Regex) : Reader Regex := do
      let (r, repeats) ← repetitions extended r n
      branch extended depth (stillStart && !repeats) (followedBy before r) n
    let literal (c : Char) (k : Nat) : Reader Regex := do
      drop k
      go false (.char c)
    match mark? extended rest with
    | some (.bar, _) => return before
    | some (.closing, k) =>
      if 0 < depth then return before
      else if extended then literal ')' k
      else throw .unmatchedClosing
    | some (.opening, k) =>
      let number := (← get).groups + 1
      modify fun s => { s with groups := number }
      drop k
      let inner ← alternatives extended (depth + 1) n
      match mark? extended (← get).rest with
      | some (.closing, k) =>
        drop k
        go false (.group number inner)
      | _ => throw .unmatchedParenthesis
    | some (.star, k) =>
      if !atStart then throw .nothingToRepeat
      else if extended then
        drop k
        branch extended depth true before n
      else literal '*' k
    | some (.plus, k) =>
      if extended then
        drop k
        branch extended depth true before n
      else literal '+' k
    | some (.option, k) =>
      if extended then
        drop k
        branch extended depth true before n
      else literal '?' k
    | some (.brace, k) => if extended then literal '\x7b' k else throw .nothingToRepeat
    | none =>
      match rest with
      | [] => return before
      | '^' :: _ =>
        if extended || atStart then
          drop 1
          branch extended depth true (followedBy before .start) n
        else literal '^' 1
      | '$' :: after =>
        let ends := after.isEmpty ||
          match mark? extended after with
          | some (.closing, _) | some (.bar, _) => true
          | _ => false
        if extended || ends then
          drop 1
          go false .finish
        else literal '$' 1
      | '.' :: _ =>
        drop 1
        go false .any
      | '[' :: inner =>
        let (inverted, body) :=
          match inner with
          | '^' :: more => (true, more)
          | _ => (false, inner)
        match members? (body.length + 1) true body with
        | none => throw .unmatchedBracket
        | some (ms, after) =>
          modify fun s => { s with rest := after }
          go false (.set inverted ms)
      | ['\\'] => throw .trailingBackslash
      | '\\' :: c :: _ =>
        let word : List Pattern.Member := [.named "alnum", .range '_' '_']
        drop 2
        match c with
        | 'w' => go false (.set false word)
        | 'W' => go false (.set true word)
        | 's' => go false (.set false [.named "space"])
        | 'S' => go false (.set true [.named "space"])
        | 'b' => go false (.edge .either)
        | 'B' => go false (.edge .neither)
        | '<' => go false (.edge .start)
        | '>' => go false (.edge .finish)
        | '\x60' => go false .start
        | '\x27' => go false .finish
        | 'n' => go false (.char '\n')
        | 't' => go false (.char '\t')
        | _ =>
          if c.isDigit && c ≠ '0' then
            let number := c.toNat - 0x30
            if (← get).groups < number then throw .badReference
            go false (.same number)
          else go false (.char c)
      | c :: _ => literal c 1

/-- An expression with the repetitions behind it, and whether there is one. -/
def repetitions (extended : Bool) (r : Regex) : Nat → Reader (Regex × Bool)
  | 0 => return (r, false)
  | n + 1 => do
    let again (k : Nat) (r : Regex) : Reader (Regex × Bool) := do
      drop k
      return ((← repetitions extended r n).1, true)
    let rest := (← get).rest
    match mark? extended rest with
    | some (.star, k) => again k (.repeated 0 none r)
    | some (.plus, k) => again k (.repeated 1 none r)
    | some (.option, k) => again k (.repeated 0 (some 1) r)
    | some (.brace, k) =>
      match bounds? extended (rest.drop k) with
      | some ((least, most), after) =>
        modify fun s => { s with rest := after }
        return ((← repetitions extended (.repeated least most r) n).1, true)
      | none => if extended then return (r, false) else throw .badBrace
    | _ => return (r, false)

end

def read (extended : Bool) (text : List Char) : Except Malformation Regex := do
  let (r, s) ← (alternatives extended 0 (16 * text.length + 16)).run { rest := text }
  if s.rest.isEmpty then return r else throw .unmatchedClosing

end Regex
end Shell
end FeatureLadder
