import FeatureLadder.Shell.Regex
import FeatureLadder.Shell.Utility.Files
import FeatureLadder.Shell.Utility.Lines

/-!
# Searching and comparing

`grep` shows the lines that match an expression; `diff` and `cmp` compare files.
-/

namespace FeatureLadder
namespace Shell
namespace Utility

/-- What `grep` looks for and how it answers. -/
structure Search where
  regex : Regex
  anyCase : Bool := false
  inverted : Bool := false
  count : Bool := false
  quiet : Bool := false
  numbers : Bool := false
  names : Bool := false
  /-- whether only names of files are shown, and of which -/
  listing : Option Bool := none
  onlyMatches : Bool := false
  silent : Bool := false
  most : Option Nat := none
  before : Nat := 0
  after : Nat := 0

/-- An expression from patterns, any of which may match. -/
def patternRegex (extended literal : Bool) (patterns : List (List Char)) :
    Except Regex.Malformation Regex := do
  let one (p : List Char) : Except Regex.Malformation Regex :=
    if literal then .ok (p.foldr (fun c r => Regex.followedBy (.char c) r) .nothing)
    else Regex.read extended p
  match patterns with
  | [] => return .set false []
  | first :: more => more.foldlM (fun r p => return .either r (← one p)) (← one first)

/-- All matches in a line from an offset on, given a bound on their number. -/
def matchesIn (r : Regex) (anyCase : Bool) (line : List Char) : Nat → Nat → List (Nat × Nat)
  | 0, _ => []
  | n + 1, offset =>
    if line.length < offset then []
    else
      match r.search anyCase line offset with
      | none => []
      | some m =>
        if m.start = m.finish then matchesIn r anyCase line n (m.finish + 1)
        else (m.start, m.finish) :: matchesIn r anyCase line n m.finish

/-- A line with its number, counted from zero, and whether it was selected. -/
structure Line where
  index : Nat
  text : List Char
  hit : Bool

/-- The lines of a text, up to the last one that a limit on their number lets be
selected. -/
def Search.lines (s : Search) (text : List Char) : List Line :=
  let all : List Line := (linesOf text).zipIdx.map fun (line, i) =>
    ⟨i, line, (s.regex.search s.anyCase line).isSome != s.inverted⟩
  match s.most with
  | none => all
  | some m =>
    let hits := (all.filter Line.hit).take m
    let bound :=
      if hits.length < m then all.length else (hits.getLast?.map fun l => l.index + 1).getD 0
    (all.take (bound + s.after)).map fun l => { l with hit := l.hit && l.index < bound }

/-- What stands in front of a line. -/
def Search.lead (s : Search) (name : List Char) (mark : Char) (index : Nat) : List Char :=
  (if s.names then name ++ [mark] else []) ++
    (if s.numbers then ofNumber (index + 1) ++ [mark] else [])

/-- The lines around those that were selected; dashes stand where lines are left out. -/
def Search.context (s : Search) (name : List Char) : Option Nat → List Line → List Char
  | _, [] => []
  | last, l :: rest =>
    let gap := if last.any (· + 1 < l.index) then ['-', '-', '\n'] else []
    gap ++ s.lead name (if l.hit then ':' else '-') l.index ++ l.text ++ ['\n'] ++
      s.context name (some l.index) rest

/-- Whether a search shows lines as they are. -/
def Search.showsLines (s : Search) : Bool :=
  !s.quiet && s.listing.isNone && !s.count && !s.onlyMatches

/-- What a search finds in a text: whether a line was selected, and what is shown. -/
def Search.run (s : Search) (name : List Char) (text : List Char) : Bool × List Char :=
  let lines := s.lines text
  let hits := lines.filter Line.hit
  let found := !hits.isEmpty
  let output : List Char :=
    if s.quiet then []
    else if let some wanted := s.listing then (if found = wanted then name ++ ['\n'] else [])
    else if s.count then
      (if s.names then name ++ [':'] else []) ++ ofNumber hits.length ++ ['\n']
    else if found && text.contains (Char.ofNat 0) then
      ofText "grep: " ++ name ++ ofText ": binary file matches\n"
    else if s.onlyMatches then
      if s.inverted then []
      else hits.flatMap fun l =>
        (matchesIn s.regex s.anyCase l.text (l.text.length + 1) 0).flatMap fun (a, b) =>
          s.lead name ':' l.index ++ Regex.slice l.text a b ++ ['\n']
    else if s.before = 0 && s.after = 0 then
      hits.flatMap fun l => s.lead name ':' l.index ++ l.text ++ ['\n']
    else
      let near (i : Nat) : Bool :=
        hits.any fun l => i ≤ l.index + s.after && l.index ≤ i + s.before
      s.context name none (lines.filter fun l => near l.index)
  (found, output)

/-- The paths of all files below a path, in the order of their names, given a bound on the
depth. -/
def filesBelow : Nat → List Char → Node → List (List Char)
  | 0, _, _ => []
  | n + 1, path, .directory entries =>
    let sorted := entries.mergeSort fun a b => a.1 ≤ b.1
    sorted.flatMap fun (name, node) => filesBelow n (below path (ofText name)) node
  | _ + 1, path, .file .. => [path]
  | _ + 1, _, _ => []

def grep (name : String) (args : List (List Char)) : Action Nat := do
  let words := [("extended-regexp", 'E'), ("fixed-strings", 'F'), ("basic-regexp", 'G'),
    ("regexp", 'e'), ("file", 'f'), ("ignore-case", 'i'), ("invert-match", 'v'), ("word-regexp", 'w'),
    ("line-regexp", 'x'), ("count", 'c'), ("files-with-matches", 'l'), ("files-without-match", 'L'),
    ("quiet", 'q'), ("silent", 'q'), ("no-messages", 's'), ("only-matching", 'o'),
    ("line-number", 'n'), ("no-filename", 'h'), ("with-filename", 'H'), ("max-count", 'm'),
    ("after-context", 'A'), ("before-context", 'B'), ("context", 'C'), ("recursive", 'r'),
    ("text", 'a')]
  let o : Options := { letters := "EFGPe:f:ivwxclLqsonhHm:A:B:C:rRay", words := words }
  let usage : Action Nat := do
    putError (ofText
      "Usage: grep [OPTION]... PATTERNS [FILE]...\nTry 'grep --help' for more information.\n")
    return 2
  match o.sort (args.flatten.length + args.length + 1) args with
  | .error misuse =>
    complain "grep" misuse.message
    usage
  | .ok (choices, operands) =>
    let mut patterns := (choices.filter (·.letter == 'e')).map Choice.value
    for c in choices.filter (·.letter == 'f') do
      match ← readOperand c.value with
      | .ok text => patterns := patterns ++ linesOf text
      | .error reason =>
        complain "grep" (c.value ++ ofText (": " ++ reason))
        return 2
    let given := has choices 'e' || has choices 'f'
    if !given && operands.isEmpty then return ← usage
    let all := if given then patterns else [operands.headD []]
    let paths := if given then operands else operands.drop 1
    let split := all.flatMap (Text.pieces '\n')
    let kinds := (choices.filter fun c => "EFGP".toList.contains c.letter).map Choice.letter
    let kind := kinds.head?
    if kinds.any fun c => kind ≠ some c then
      complain "grep" (ofText "conflicting matchers specified")
      return 2
    let extended := (kind.getD (if name = "egrep" then 'E' else 'G')) ≠ 'G'
    let literal := (kind.getD (if name = "fgrep" then 'F' else 'G')) = 'F'
    match patternRegex extended literal split with
    | .error m =>
      complain "grep" (ofText m.message)
      return 2
    | .ok r =>
      let r := if has choices 'x' then .both .start (.both r .finish)
        else if has choices 'w' then .both (.edge .free) (.both r (.edge .freeBehind))
        else r
      let recursive := has choices 'r' || has choices 'R'
      let starts := if paths.isEmpty then (if recursive then [['.']] else [['-']]) else paths
      let number (c : Char) : Nat := ((value? choices c).bind digits?).getD 0
      let context := number 'C'
      let mut files : List (List Char) := []
      for path in starts do
        match recursive, ← nodeAt? path with
        | true, .ok (.directory entries) =>
          let found := filesBelow 100 path (.directory entries)
          files := files ++ if paths.isEmpty then found.map (List.drop 2) else found
        | _, _ => files := files ++ [path]
      let s : Search :=
        { regex := r, anyCase := has choices 'i' || has choices 'y', inverted := has choices 'v'
          count := has choices 'c', quiet := has choices 'q', numbers := has choices 'n'
          names := !has choices 'h' && (has choices 'H' || recursive || 1 < starts.length)
          listing := if has choices 'l' then some true
            else if has choices 'L' then some false else none
          onlyMatches := has choices 'o', silent := has choices 's'
          most := (value? choices 'm').bind digits?
          before := max (number 'B') context, after := max (number 'A') context }
      let inContext := s.showsLines && (0 < s.before || 0 < s.after)
      let mut found := false
      let mut failed := false
      for path in files do
        match ← readOperand path with
        | .ok text =>
          let label := if path = ['-'] then ofText "(standard input)" else path
          let (hit, out) := s.run label text
          if inContext && found && hit then emit ['-', '-', '\n']
          emit out
          if hit then found := true
          if hit && s.quiet then return 0
        | .error reason =>
          if !s.silent then complain "grep" (path ++ ofText (": " ++ reason))
          failed := true
      return if failed then 2 else if found then 0 else 1

/-! ## Comparing -/

/-- Whether a line is kept, removed or added. -/
inductive Edit where
  | keep (line : List Char)
  | remove (line : List Char)
  | add (line : List Char)

/-- The lengths of the longest common parts of the rest of two lists, for one start in the
first list and all in the second. -/
def commonRow (x : List Char) : List (List Char) → List Nat → List Nat
  | [], _ => [0]
  | y :: ys, before =>
    let rest := commonRow x ys (before.drop 1)
    let diagonal := (before.drop 1).headD 0
    (if x = y then diagonal + 1 else max (rest.headD 0) (before.headD 0)) :: rest

/-- The rows for all starts in the first list. -/
def commonTable (ys : List (List Char)) : List (List Char) → List (List Nat)
  | [] => [List.replicate (ys.length + 1) 0]
  | x :: xs =>
    let rows := commonTable ys xs
    commonRow x ys (rows.headD []) :: rows

/-- The edits that turn one list into another. -/
def edits : Nat → List (List Char) → List (List Char) → List (List Nat) → List Edit
  | 0, _, _, _ => []
  | _ + 1, [], ys, _ => ys.map .add
  | _ + 1, xs, [], _ => xs.map .remove
  | n + 1, x :: xs, y :: ys, table =>
    let here := table.headD []
    let next := table.drop 1
    if x = y then .keep x :: edits n xs ys (next.map (List.drop 1))
    else if (here.drop 1).headD 0 ≤ (next.headD []).headD 0 then
      .remove x :: edits n xs (y :: ys) next
    else .add y :: edits n (x :: xs) ys (table.map (List.drop 1))

/-- A run of edits between lines that are kept. -/
structure Hunk where
  /-- the number of lines before it in either file -/
  left : Nat
  right : Nat
  removed : List (List Char)
  added : List (List Char)

def hunks : List Edit → Nat → Nat → Option Hunk → List Hunk
  | [], _, _, current => current.toList
  | .keep _ :: rest, l, r, current => current.toList ++ hunks rest (l + 1) (r + 1) none
  | .remove x :: rest, l, r, current =>
    let h := current.getD ⟨l, r, [], []⟩
    hunks rest (l + 1) r (some { h with removed := h.removed ++ [x] })
  | .add y :: rest, l, r, current =>
    let h := current.getD ⟨l, r, [], []⟩
    hunks rest l (r + 1) (some { h with added := h.added ++ [y] })

/-- A line of a comparison, with a note if no line feed ends it. -/
def diffLine (mark : List Char) (line : List Char) : List Char :=
  mark ++ (if line.getLast? = some '\n' then line
    else line ++ ofText "\n\\ No newline at end of file\n")

/-- A run of edits in the usual form. -/
def Hunk.text (h : Hunk) : List Char :=
  let range (before count : Nat) : List Char :=
    if count ≤ 1 then ofNumber (if count = 0 then before else before + 1)
    else ofNumber (before + 1) ++ [','] ++ ofNumber (before + count)
  let letter := if h.removed.isEmpty then 'a' else if h.added.isEmpty then 'd' else 'c'
  range h.left h.removed.length ++ [letter] ++ range h.right h.added.length ++ ['\n'] ++
    h.removed.flatMap (diffLine ['<', ' ']) ++
    (if letter = 'c' then ofText "---\n" else []) ++ h.added.flatMap (diffLine ['>', ' '])

/-- Whether an edit changes something. -/
def Edit.changes : Edit → Bool
  | .keep _ => false
  | _ => true

/-- Whether an edit is about a line of the first file. -/
def Edit.isLeft : Edit → Bool
  | .add _ => false
  | _ => true

/-- Whether an edit is about a line of the second file. -/
def Edit.isRight : Edit → Bool
  | .remove _ => false
  | _ => true

/-- The line of an edit behind its mark. -/
def Edit.line : Edit → List Char
  | .keep x => diffLine [' '] x
  | .remove x => diffLine ['-'] x
  | .add x => diffLine ['+'] x

/-- Edits that are shown together, behind some lines of either file. -/
structure EditGroup where
  left : Nat
  right : Nat
  edits : List Edit

/-- A group of edits with the lines that it covers. -/
def EditGroup.text (g : EditGroup) : List Char :=
  let range (before count : Nat) : List Char :=
    let start := if count = 0 then before else before + 1
    ofNumber start ++ if count = 1 then [] else ',' :: ofNumber count
  ofText "@@ -" ++ range g.left (g.edits.filter Edit.isLeft).length ++ ofText " +" ++
    range g.right (g.edits.filter Edit.isRight).length ++ ofText " @@\n" ++ g.edits.flatMap Edit.line

/-- The groups of edits that are near a change. -/
def editGroups : List (Edit × Bool) → Nat → Nat → Option EditGroup → List EditGroup
  | [], _, _, current => current.toList
  | (e, near) :: rest, l, r, current =>
    let l' := if e.isLeft then l + 1 else l
    let r' := if e.isRight then r + 1 else r
    if near then
      let g := current.getD ⟨l, r, []⟩
      editGroups rest l' r' (some { g with edits := g.edits ++ [e] })
    else current.toList ++ editGroups rest l' r' none

/-- Edits with three lines around them. -/
def unified (es : List Edit) : List Char :=
  let changed (i : Nat) : Bool := (es[i]?).any Edit.changes
  let near (i : Nat) : Bool := (List.range 7).any fun d => 3 ≤ i + d && changed (i + d - 3)
  let marked := es.zipIdx.map fun (e, i) => (e, near i)
  (editGroups marked 0 0 none).flatMap EditGroup.text

def diff (args : List (List Char)) : Action Nat :=
  let words := [("unified", 'u'), ("brief", 'q'), ("report-identical-files", 's')]
  withOptions "diff" { letters := "uqsrNabwiB", words := words } args
    (fun choices operands => do
      match operands with
      | [a, b] =>
        match ← readOperand a, ← readOperand b with
        | .ok s, .ok t =>
          if s = t then
            if has choices 's' then
              emit (ofText "Files " ++ a ++ ofText " and " ++ b ++ ofText " are identical\n")
            return 0
          if has choices 'q' then
            emit (ofText "Files " ++ a ++ ofText " and " ++ b ++ ofText " differ\n")
            return 1
          let xs := wholeLines s
          let ys := wholeLines t
          let es := edits (xs.length + ys.length + 1) xs ys (commonTable ys xs)
          if has choices 'u' then
            emit (ofText "--- " ++ a ++ ['\n'] ++ ofText "+++ " ++ b ++ ['\n'] ++ unified es)
          else emit ((hunks es 0 0 none).flatMap Hunk.text)
          return 1
        | x, y =>
          if let .error reason := x then complain "diff" (a ++ ofText (": " ++ reason))
          if let .error reason := y then complain "diff" (b ++ ofText (": " ++ reason))
          return 2
      | [] => refuse "diff" 2 (ofText "missing operand after 'diff'")
      | [a] => refuse "diff" 2 (ofText "missing operand after " ++ inQuotes a)
      | _ :: _ :: c :: _ => refuse "diff" 2 (ofText "extra operand " ++ inQuotes c))
    2

/-- The first difference of two texts: the byte and the line, or none if one is the start of
the other. -/
def firstDifference : Nat → Nat → List Char → List Char → Option (Nat × Nat)
  | byte, line, a :: as, b :: bs =>
    if a = b then firstDifference (byte + 1) (if a = '\n' then line + 1 else line) as bs
    else some (byte, line)
  | _, _, _, _ => none

def cmp (args : List (List Char)) : Action Nat :=
  let words := [("silent", 's'), ("quiet", 's')]
  withOptions "cmp" { letters := "sl", words := words } args
    (fun choices operands => do
      match operands with
      | a :: others =>
        let b := others.headD ['-']
        match ← readOperand a, ← readOperand b with
        | .ok s, .ok t =>
          if s = t then return 0
          if !has choices 's' then
            match firstDifference 1 1 s t with
            | some (byte, line) =>
              emit (a ++ [' '] ++ b ++ ofText " differ: char " ++ ofNumber byte ++
                ofText ", line " ++ ofNumber line ++ ['\n'])
            | none =>
              let shorter := if s.length < t.length then s else t
              let name := if s.length < t.length then a else b
              let feeds := shorter.count '\n'
              let where' := if shorter.isEmpty then ofText " which is empty"
                else ofText " after byte " ++ ofNumber shorter.length ++
                  (if shorter.getLast? = some '\n' then ofText ", line " ++ ofNumber feeds
                    else ofText ", in line " ++ ofNumber (feeds + 1))
              complain "cmp" (ofText "EOF on " ++ name ++ where')
          return 1
        | x, y =>
          if let .error reason := x then complain "cmp" (a ++ ofText (": " ++ reason))
          else if let .error reason := y then complain "cmp" (b ++ ofText (": " ++ reason))
          return 2
      | [] => refuse "cmp" 2 (ofText "missing operand after 'cmp'"))
    2

end Utility
end Shell
end FeatureLadder
