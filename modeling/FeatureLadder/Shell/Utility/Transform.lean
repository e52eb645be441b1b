import FeatureLadder.Shell.Binary64
import FeatureLadder.Shell.Builtin.Printing
import FeatureLadder.Shell.Utility.Lines

/-!
# Utilities that change texts or make them

Replacing characters, cutting and joining lines, numbering, folding, and writing numbers
or bytes.
-/

namespace FeatureLadder
namespace Shell
namespace Utility

/-! ## Characters -/

/-- A part of a set of characters. -/
inductive Selection where
  | chars (cs : List Char)
  /-- a character as often as it is needed, or a number of times -/
  | repeated (c : Char) (count : Option Nat)
  | upper
  | lower

/-- The characters of a text with its escapes, each with whether it was escaped. -/
def unescapeSet : Nat → List Char → List Glyph
  | 0, _ => []
  | _ + 1, [] => []
  | n + 1, '\\' :: c :: rest =>
    match Printing.control? c with
    | some d => ⟨d, true⟩ :: unescapeSet n rest
    | none =>
      if Printing.isOctal c then
        let digits := Printing.octalDigits (c :: rest)
        ⟨Printing.octal digits, true⟩ :: unescapeSet n ((c :: rest).drop digits.length)
      else ⟨c, true⟩ :: unescapeSet n rest
  | n + 1, c :: rest => ⟨c, false⟩ :: unescapeSet n rest

/-- The parts of a set, or what is wrong with it. -/
def selections : Nat → List Glyph → Except (List Char) (List Selection)
  | 0, _ => .ok []
  | _ + 1, [] => .ok []
  | n + 1, g :: rest => do
    let named :=
      if g.isActive '[' then
        match rest with
        | ⟨':', false⟩ :: more =>
          let name := more.takeWhile fun h => h.char.isAlpha
          match more.drop name.length with
          | ⟨':', _⟩ :: ⟨']', _⟩ :: after => some (String.ofList (Glyph.chars name), after)
          | _ => none
        | _ => none
      else none
    match named with
    | some (name, after) =>
      let part : Selection ←
        match name, classContains? name with
        | "upper", _ => pure .upper
        | "lower", _ => pure .lower
        | _, some isIn => pure (.chars (((List.range 256).map Char.ofNat).filter isIn))
        | _, none => throw (ofText "invalid character class " ++ inQuotes name.toList)
      return part :: (← selections n after)
    | none =>
      match if g.isActive '[' then rest else [] with
      | c :: ⟨'*', false⟩ :: more =>
        let digits := more.takeWhile fun h => h.char.isDigit
        match more.drop digits.length with
        | ⟨']', false⟩ :: after =>
          let count := (digits? (Glyph.chars digits)).filter (· ≠ 0)
          return .repeated c.char count :: (← selections n after)
        | _ => return .chars [g.char] :: (← selections n rest)
      | ⟨'=', false⟩ :: c :: ⟨'=', false⟩ :: ⟨']', false⟩ :: after =>
        return .chars [c.char] :: (← selections n after)
      | _ =>
        match rest with
        | ⟨'-', false⟩ :: high :: after =>
          if high.char < g.char then
            throw (ofText "range-endpoints of " ++ inQuotes [g.char, '-', high.char] ++
              ofText " are in reverse collating sequence order")
          else
            let size := high.char.toNat - g.char.toNat + 1
            let range := (List.range size).map fun i => Char.ofNat (g.char.toNat + i)
            return .chars range :: (← selections n after)
        | _ => return .chars [g.char] :: (← selections n rest)

/-- The characters of the letters of one case. -/
def letterRange (start : Char) : List Char :=
  (List.range 26).map fun i => Char.ofNat (start.toNat + i)

/-- The characters of the parts of a set; a part that repeats fills it up to a length. -/
def expandSelections (length : Nat) (parts : List Selection) : List Char :=
  let fixed := parts.flatMap fun
    | .chars cs => cs
    | .repeated c (some n) => List.replicate n c
    | .repeated _ none => []
    | .upper => letterRange 'A'
    | .lower => letterRange 'a'
  parts.flatMap fun
    | .chars cs => cs
    | .repeated c (some n) => List.replicate n c
    | .repeated c none => List.replicate (length - fixed.length) c
    | .upper => letterRange 'A'
    | .lower => letterRange 'a'

/-- A text in which characters of a set follow each other at most once. -/
def squeeze (isIn : Char → Bool) : List Char → List Char
  | a :: b :: rest =>
    if a = b && isIn a then squeeze isIn (b :: rest) else a :: squeeze isIn (b :: rest)
  | rest => rest

def tr (args : List (List Char)) : Action Nat :=
  let words := [("complement", 'c'), ("delete", 'd'), ("squeeze-repeats", 's'),
    ("truncate-set1", 't')]
  withOptions "tr" { letters := "cCdst", words := words, inOrder := true } args
    fun choices operands => do
      let delete := has choices 'd'
      let squeezes := has choices 's'
      let complement := has choices 'c' || has choices 'C'
      let needed := if delete == squeezes then 2 else 1
      let most := if delete && !squeezes then 1 else 2
      match operands with
      | [] => refuse "tr" 1 (ofText "missing operand")
      | first :: others =>
        if operands.length < needed then
          complain "tr" (ofText "missing operand after " ++ inQuotes first)
          let reason :=
            if delete then "Two strings must be given when both deleting and squeezing repeats."
            else "Two strings must be given when translating."
          putError (ofText (reason ++ "\n"))
          hint "tr"
          return 1
        if most < operands.length then
          complain "tr" (ofText "extra operand " ++ inQuotes (operands.getD most []))
          if most = 1 then
            putError (ofText
              "Only one string may be given when deleting without squeezing repeats.\n")
          hint "tr"
          return 1
        let parse (text : List Char) : Except (List Char) (List Selection) :=
          selections (text.length + 1) (unescapeSet (text.length + 1) text)
        match parse first, parse (others.headD []) with
        | .error text, _ | _, .error text =>
          complain "tr" text
          return 1
        | .ok parts, .ok others' =>
          let base := expandSelections 0 parts
          let set1 :=
            if complement then ((List.range 256).map Char.ofNat).filter (!base.contains ·) else base
          let set2 := expandSelections set1.length others'
          match ← readFrom 0 with
          | .error trouble =>
            complain "tr" (ofText ("read error: " ++ trouble.reason))
            return 1
          | .ok text =>
            let result :=
              if delete then
                let kept := text.filter (!set1.contains ·)
                if squeezes then squeeze set2.contains kept else kept
              else if others.isEmpty then squeeze set1.contains text
              else
                let pairs := set1.zipIdx.reverse
                let translate (c : Char) : Char :=
                  match pairs.find? (·.1 == c) with
                  | none => c
                  | some (_, i) =>
                    if has choices 't' then set2.getD i c else set2.getD i (set2.getLastD c)
                let changed := text.map translate
                if squeezes then squeeze set2.contains changed else changed
            emit result
            return 0

/-- The ranges of a list such as `1,3-5,7-`; none if it is malformed. -/
def rangesOf? (text : List Char) : Option (List (Nat × Option Nat)) :=
  (Text.pieces ',' text).mapM fun piece =>
    match Text.pieces '-' piece with
    | [single] => (digits? single).bind fun n => if n = 0 then none else some (n, some n)
    | [low, high] =>
      match low, high with
      | [], [] => none
      | _, _ =>
        let low' := if low.isEmpty then some 1 else digits? low
        let high' := if high.isEmpty then some none else (digits? high).map some
        match low', high' with
        | some a, some b => if a = 0 || b.any (· < a) then none else some (a, b)
        | _, _ => none
    | _ => none

def cut (args : List (List Char)) : Action Nat :=
  let words := [("bytes", 'b'), ("characters", 'c'), ("fields", 'f'), ("delimiter", 'd'),
    ("only-delimited", 's'), ("complement", 'C'), ("output-delimiter", 'O')]
  withOptions "cut" { letters := "b:c:f:d:sO:C", words := words } args fun choices operands => do
    let lists := choices.filter fun c => "bcf".toList.contains c.letter
    match lists with
    | [] => refuse "cut" 1 (ofText "you must specify a list of bytes, characters, or fields")
    | _ :: _ :: _ => refuse "cut" 1 (ofText "only one list may be specified")
    | [list] =>
      let byFields := list.letter = 'f'
      let delimiter := (value? choices 'd').getD ['\t']
      if has choices 'd' && !byFields then
        return ← refuse "cut" 1
          (ofText "an input delimiter may be specified only when operating on fields")
      if 1 < delimiter.length then
        return ← refuse "cut" 1 (ofText "the delimiter must be a single character")
      match rangesOf? list.value with
      | none =>
        let value := list.value
        let zero := (Text.pieces ',' value).any fun p => (Text.pieces '-' p).any fun q =>
          digits? q = some 0
        let what := if byFields then "fields" else "byte or character positions"
        if zero then
          refuse "cut" 1 (ofText (what ++ " are numbered from 1"))
        else if (Text.pieces ',' value).any (· = ['-']) then
          refuse "cut" 1 (ofText "invalid range with no endpoint: -")
        else if value.all fun c => c.isDigit || c == '-' || c == ',' then
          refuse "cut" 1 (ofText "invalid decreasing range")
        else
          refuse "cut" 1 (ofText (if byFields then "invalid field value "
            else "invalid byte/character position ") ++ inQuotes value)
      | some ranges =>
        let wanted (i : Nat) : Bool :=
          (ranges.any fun (a, b) => a ≤ i && b.all (i ≤ ·)) != has choices 'C'
        let pick {α : Type} (xs : List α) : List α :=
          (xs.zipIdx.filter fun (_, i) => wanted (i + 1)).map Prod.fst
        let d := delimiter.headD (Char.ofNat 0)
        let outer := (value? choices 'O').getD [d]
        let line (l : List Char) : List (List Char) :=
          if byFields then
            if l.contains d then [outer.intercalate (pick (Text.pieces d l))]
            else if has choices 's' then [] else [l]
          else [pick l]
        return statusOf (← forOperands "cut" operands fun _ text =>
          emit (unlines ((linesOf text).flatMap line)))

/-! ## Lines -/

/-- Joins the lines of files side by side, given a bound on their number. -/
def sideBySide (delimiters : List Char) : Nat → List (List (List Char)) → List (List Char)
  | 0, _ => []
  | n + 1, columns =>
    if columns.all List.isEmpty then []
    else
      let row := columns.zipIdx.flatMap fun (column, i) =>
        let mark := if i = 0 || delimiters.isEmpty then []
          else [delimiters.getD ((i - 1) % delimiters.length) '\t']
        mark ++ column.headD []
      row :: sideBySide delimiters n (columns.map (List.drop 1))

/-- Joins lines side by side, or one after the other. -/
def paste (args : List (List Char)) : Action Nat :=
  let words := [("delimiters", 'd'), ("serial", 's')]
  withOptions "paste" { letters := "d:s", words := words } args fun choices operands => do
    let delimiters := Glyph.chars (unescapeSet 1000 ((value? choices 'd').getD ['\t']))
    let mut columns : List (List (List Char)) := []
    let mut fine := true
    for path in if operands.isEmpty then [['-']] else operands do
      match ← readOperand path with
      | .ok text => columns := columns ++ [linesOf text]
      | .error reason =>
        complain "paste" (shown path ++ ofText (": " ++ reason))
        fine := false
    let shares := operands.filter (· = ['-'])
    if has choices 's' then
      for column in columns do
        let joined := column.zipIdx.flatMap fun (line, i) =>
          (if i = 0 || delimiters.isEmpty then []
            else [delimiters.getD ((i - 1) % delimiters.length) '\t']) ++ line
        emit (joined ++ ['\n'])
    else if fine then
      let all :=
        if shares.length ≤ 1 then columns
        else
          let lines := (columns.zip operands).find? (·.2 = ['-']) |>.map Prod.fst |>.getD []
          let n := shares.length
          (List.range n).map fun k =>
            (lines.zipIdx.filter fun (_, i) => i % n = k).map Prod.fst
      let size := all.foldl (fun n c => max n c.length) 0
      emit (unlines (sideBySide delimiters size all))
    return statusOf fine

def rev (args : List (List Char)) : Action Nat :=
  withOptions "rev" { letters := "" } args fun _ operands => do
    let mut fine := true
    for path in if operands.isEmpty then [['-']] else operands do
      match ← readOperand path with
      | .ok text =>
        emit ((wholeLines text).flatMap fun l =>
          if l.getLast? = some '\n' then l.dropLast.reverse ++ ['\n'] else l.reverse)
      | .error reason =>
        complain "rev" (ofText "cannot open " ++ path ++ ofText (": " ++ reason))
        fine := false
    return statusOf fine

/-- Shows lines in the opposite order. -/
def tac (args : List (List Char)) : Action Nat :=
  withOptions "tac" { letters := "" } args fun _ operands => do
    let mut fine := true
    for path in if operands.isEmpty then [['-']] else operands do
      match ← readOperand path with
      | .ok text => emit (wholeLines text).reverse.flatten
      | .error reason =>
        complain "tac" (ofText "failed to open " ++ inQuotes path ++ ofText (" for reading: " ++ reason))
        fine := false
    return statusOf fine

def nl (args : List (List Char)) : Action Nat :=
  let words := [("body-numbering", 'b'), ("number-width", 'w'), ("number-separator", 's'),
    ("starting-line-number", 'v'), ("line-increment", 'i'), ("number-format", 'n')]
  withOptions "nl" { letters := "b:w:s:v:i:n:", words := words } args fun choices operands => do
    let (text, fine) ← allText "nl" operands
    let width := ((value? choices 'w').bind digits?).getD 6
    let separator := (value? choices 's').getD ['\t']
    let mut number := ((value? choices 'v').bind digits?).getD 1
    let increment := ((value? choices 'i').bind digits?).getD 1
    let all := value? choices 'b' = some ['a']
    let noNumbers := value? choices 'b' = some ['n']
    let format := value? choices 'n'
    for line in linesOf text do
      if !noNumbers && (all || !line.isEmpty) then
        let digits := ofNumber number
        let shownNumber :=
          if format = some ['l', 'n'] then padRight width digits
          else if format = some ['r', 'z'] then
            List.replicate (width - digits.length) '0' ++ digits
          else padLeft width digits
        emit (shownNumber ++ separator ++ line ++ ['\n'])
        number := number + increment
      else emit (List.replicate (width + separator.length) ' ' ++ line ++ ['\n'])
    return statusOf fine

/-- The pieces of a line of a greatest width; with `spaces` they end at blanks. -/
def foldLine (width : Nat) (spaces : Bool) : Nat → List Char → List (List Char)
  | 0, cs => [cs]
  | n + 1, cs =>
    if cs.length ≤ width then [cs]
    else
      let piece := cs.take width
      let piece :=
        if spaces then
          match piece.reverse.dropWhile (fun c => c ≠ ' ' && c ≠ '\t') with
          | [] => piece
          | kept => kept.reverse
        else piece
      piece :: foldLine width spaces n (cs.drop piece.length)

def fold (args : List (List Char)) : Action Nat :=
  let words := [("width", 'w'), ("spaces", 's'), ("bytes", 'b')]
  withOptions "fold" { letters := "w:sb", words := words } args fun choices operands => do
    let width := max 1 (((value? choices 'w').bind digits?).getD 80)
    return statusOf (← forOperands "fold" operands fun _ text =>
      emit ((wholeLines text).flatMap fun l =>
        let complete := l.getLast? = some '\n'
        let body := if complete then l.dropLast else l
        let pieces := foldLine width (has choices 's') (body.length + 1) body
        ['\n'].intercalate pieces ++ if complete then ['\n'] else []))

/-- Copies its input to files and to its output. -/
def tee (args : List (List Char)) : Action Nat :=
  withOptions "tee" { letters := "ai", words := [("append", 'a')] } args fun choices operands => do
    let text ← match ← readFrom 0 with
      | .ok text => pure text
      | .error _ => pure []
    let mut fine := true
    for path in operands do
      match ← openOutput (if has choices 'a' then .append else .overwrite) path with
      | .ok place =>
        let before := (← process).descriptors.lookup 100
        setDescriptor 100 (some place)
        let _ ← write 100 text
        setDescriptor 100 before
      | .error e =>
        complain "tee" (shown path ++ ofText (": " ++ e.reason))
        fine := false
    emit text
    return statusOf fine

/-- Two sorted files while they are compared. -/
structure Merging where
  first : List (List Char)
  second : List (List Char)
  /-- the lines before those, if any -/
  before : Option (List Char) × Option (List Char) := (none, none)
  /-- whether a line was found in one of them only -/
  unpaired : Bool := false
  /-- which of the files is known not to be sorted -/
  unsorted : Bool × Bool := (false, false)

/-- Says that a file is not sorted, if its next line or its last one shows it. -/
def checkSorted (name : String) (unpaired known : Bool) (older before : Option (List Char))
    (next : Option (List Char)) : Action Bool := do
  let inverted : Option (List Char) → Option (List Char) → Bool
    | some a, some b => compare a b == .gt
    | _, _ => false
  let bad := if next.isSome then inverted before next else inverted older before
  if unpaired && !known && bad then
    complain "comm" (ofText ("file " ++ name ++ " is not in sorted order"))
  return known || (unpaired && bad)

/-- Shows the lines of two files in columns: those of the first, those of the second and
those of both; the bound is on the number of lines. -/
def compareSorted (hidden : Char → Bool) : Nat → Merging → Action (Bool × Bool)
  | 0, c => return c.unsorted
  | n + 1, c => do
    let tab (column : Char) : List Char := if hidden column then [] else ['\t']
    let order? :=
      match c.first, c.second with
      | [], [] => none
      | _ :: _, [] => some Ordering.lt
      | [], _ :: _ => some .gt
      | x :: _, y :: _ => some (compare x y)
    match order? with
    | none => return c.unsorted
    | some order =>
      let x := c.first.head?
      let y := c.second.head?
      match order with
      | .lt => if !hidden '1' then emit (x.getD [] ++ ['\n'])
      | .gt => if !hidden '2' then emit (tab '1' ++ y.getD [] ++ ['\n'])
      | .eq => if !hidden '3' then emit (tab '1' ++ tab '2' ++ x.getD [] ++ ['\n'])
      let unpaired := c.unpaired || order != .eq
      let mut next := { c with unpaired := unpaired }
      if order != .gt then
        let rest := c.first.drop 1
        let bad ← checkSorted "1" unpaired c.unsorted.1 c.before.1 x rest.head?
        next := { next with
          first := rest, before := (x, next.before.2), unsorted := (bad, next.unsorted.2) }
      if order != .lt then
        let rest := c.second.drop 1
        let bad ← checkSorted "2" unpaired c.unsorted.2 c.before.2 y rest.head?
        next := { next with
          second := rest, before := (next.before.1, y), unsorted := (next.unsorted.1, bad) }
      compareSorted hidden n next

def comm (args : List (List Char)) : Action Nat :=
  withOptions "comm" { letters := "123" } args fun choices operands => do
    match operands with
    | [a, b] =>
      match ← readOperand a, ← readOperand b with
      | .ok s, .ok t =>
        let xs := linesOf s
        let ys := linesOf t
        let unsorted ← compareSorted (has choices) (xs.length + ys.length + 1)
          { first := xs, second := ys }
        if unsorted.1 || unsorted.2 then
          complain "comm" (ofText "input is not in sorted order")
          return 1
        return 0
      | .error reason, _ =>
        complain "comm" (shown a ++ ofText (": " ++ reason))
        return 1
      | _, .error reason =>
        complain "comm" (shown b ++ ofText (": " ++ reason))
        return 1
    | [] => refuse "comm" 1 (ofText "missing operand")
    | [a] => refuse "comm" 1 (ofText "missing operand after " ++ inQuotes a)
    | _ :: _ :: c :: _ => refuse "comm" 1 (ofText "extra operand " ++ inQuotes c)

/-! ## Numbers and bytes -/

/-- A decimal number as an integer and its number of places. -/
def decimal? (text : List Char) : Option (Int × Nat) :=
  let (negative, body) :=
    match text with
    | '-' :: rest => (true, rest)
    | '+' :: rest => (false, rest)
    | _ => (false, text)
  let whole := body.takeWhile Char.isDigit
  let (fraction, rest) :=
    match body.drop whole.length with
    | '.' :: rest => (rest.takeWhile Char.isDigit, rest.dropWhile Char.isDigit)
    | rest => ([], rest)
  if (whole.isEmpty && fraction.isEmpty) || !rest.isEmpty then none
  else
    let n := Int.ofNat (Arithmetic.ofDigits 10 (whole ++ fraction))
    some (if negative then -n else n, fraction.length)

/-- A decimal number with a number of places. -/
def decimalText (places : Nat) (n : Int) : List Char :=
  (if n < 0 then ['-'] else []) ++ Binary64.pointed false places n.natAbs

/-- The most numbers that are written at a time. -/
def seqChunk : Nat := 500

/-- Writes numbers in steps, given a bound on how many. -/
def writeNumbers (text : Int → List Char) (separator : List Char) (step last : Int) :
    Nat → Int → List (List Char) → Action PUnit
  | 0, _, _ => return
  | n + 1, current, pending => do
    let passed := if 0 < step then last < current else current < last
    if passed then emit (pending.reverse.flatten ++ if pending.isEmpty then [] else ['\n'])
    else
      let next := current + step
      let ends := if 0 < step then last < next else next < last
      let item := text current ++ if ends then [] else separator
      if pending.length < seqChunk || ends then
        writeNumbers text separator step last n next (item :: pending)
      else
        emit (item :: pending).reverse.flatten
        writeNumbers text separator step last n next []

/-- Writes numbers from a first to a last one. -/
def seq (args : List (List Char)) : Action Nat := do
  let words := [("separator", 's'), ("equal-width", 'w'), ("format", 'f')]
  let isNumber (a : List Char) : Bool := (decimal? a).isSome
  let split := args.takeWhile (!isNumber ·)
  let (options, numbers) :=
    match args.findIdx? isNumber with
    | some i =>
      let before := args.take i
      let takes := before.getLast?.any fun a => a = ['-', 's'] || a = ['-', 'f']
      if takes then (args.take (i + 1), args.drop (i + 1)) else (before, args.drop i)
    | none => (split, [])
  withOptions "seq" { letters := "s:wf:", words := words, inOrder := true } options
    fun choices rest => do
      let operands := rest ++ numbers
      match operands.mapM fun a => (decimal? a).map (a, ·) with
      | none =>
        let bad := (operands.find? (!isNumber ·)).getD []
        refuse "seq" 1 (ofText "invalid floating point argument: " ++ inQuotes bad)
      | some values =>
        let run (first step last : Int × Nat) : Action Nat := do
          let places := max first.2 step.2
          let common := max places last.2
          let scaled (x : Int × Nat) : Int := x.1 * Int.ofNat (Nat.pow 10 (common - x.2))
          if step.1 = 0 then
            return ← refuse "seq" 1 (ofText "invalid Zero increment value: " ++
              inQuotes ((operands.getD 1 [])))
          let textOf (n : Int) : List Char :=
            decimalText places (n.tdiv (Int.ofNat (Nat.pow 10 (common - places))))
          let width := max (textOf (scaled first)).length (decimalText places
            ((scaled last).tdiv (Int.ofNat (Nat.pow 10 (common - places))))).length
          let text (n : Int) : List Char :=
            let plain := textOf n
            match value? choices 'f' with
            | some format =>
              let start := format.takeWhile (· ≠ '%')
              let body := (format.drop start.length).drop 1
              let (l, rest) := Printing.flags {} body
              let digits := rest.takeWhile Char.isDigit
              let rest := rest.drop digits.length
              let (precision, rest) : Option Nat × List Char :=
                match rest with
                | '.' :: more =>
                  let p := more.takeWhile Char.isDigit
                  (some ((digits? p).getD 0), more.drop p.length)
                | _ => (none, rest)
              let l := { l with width := (digits? digits).getD 0, precision := precision }
              match rest, Binary64.read plain with
              | c :: after, some (x, _, _) => start ++ Printing.fractionText l c x ++ after
              | _, _ => start
            | none =>
              if has choices 'w' then
                match plain with
                | '-' :: digits => '-' :: List.replicate (width - plain.length) '0' ++ digits
                | _ => List.replicate (width - plain.length) '0' ++ plain
              else plain
          let separator := (value? choices 's').getD ['\n']
          writeNumbers text separator (scaled step) (scaled last) 10000000 (scaled first) []
          return 0
        match values.map Prod.snd with
        | [last] => run (1, 0) (1, 0) last
        | [first, last] => run first (1, 0) last
        | [first, step, last] => run first step last
        | [] => refuse "seq" 1 (ofText "missing operand")
        | _ => refuse "seq" 1 (ofText "extra operand " ++ inQuotes (operands.getD 3 []))

/-- Writes a line again and again, given a bound on how often. -/
def writeForever (text : List Char) : Nat → Action PUnit
  | 0 => return
  | n + 1 => do
    emit text
    writeForever text n

/-- Writes a line again and again. -/
def yes (args : List (List Char)) : Action Nat := do
  let line := (if args.isEmpty then ['y'] else [' '].intercalate args) ++ ['\n']
  writeForever (List.replicate 500 line).flatten 100000
  return 0

/-! ### Dumps -/

/-- How the bytes of a dump are shown: as characters, or some at a time as a number. -/
structure Form where
  letter : Char
  size : Nat

namespace Form

/-- The base of the numbers. -/
def base (f : Form) : Nat :=
  match f.letter with
  | 'x' => 16
  | 'o' => 8
  | _ => 10

/-- The number of characters that a value takes, with a blank in front. -/
def width (f : Form) : Nat :=
  match f.letter, f.size with
  | 'x', n => 2 * n + 1
  | 'o', 1 => 4
  | 'o', 2 => 7
  | 'o', 4 => 12
  | 'o', _ => 23
  | 'u', 1 => 4
  | 'u', 2 => 6
  | 'u', 4 => 11
  | 'u', _ => 21
  | 'd', 1 => 5
  | 'd', 2 => 7
  | 'd', 4 => 12
  | 'd', _ => 21
  | _, _ => 4

/-- A character as it is named in a dump. -/
def characterName (c : Char) : List Char :=
  match c with
  | '\n' => ['\\', 'n']
  | '\t' => ['\\', 't']
  | '\r' => ['\\', 'r']
  | '\x07' => ['\\', 'a']
  | '\x08' => ['\\', 'b']
  | '\x0b' => ['\\', 'v']
  | '\x0c' => ['\\', 'f']
  | _ =>
    if c.toNat = 0 then ['\\', '0']
    else if 0x20 ≤ c.toNat && c.toNat < 0x7F then [c]
    else
      let digits := Nat.toDigits 8 c.toNat
      List.replicate (3 - digits.length) '0' ++ digits

/-- The names of the control characters and of the blank. -/
def controlNames : List String :=
  ["nul", "soh", "stx", "etx", "eot", "enq", "ack", "bel", "bs", "ht", "nl", "vt", "ff", "cr",
    "so", "si", "dle", "dc1", "dc2", "dc3", "dc4", "nak", "syn", "etb", "can", "em", "sub", "esc",
    "fs", "gs", "rs", "us", "sp"]

/-- Some bytes in a form; of a number the first byte counts least. -/
def text (f : Form) (bytes : List Char) : List Char :=
  let value := bytes.foldr (fun c n => c.toNat + 256 * n) 0
  let filled : List Char :=
    let digits := Nat.toDigits f.base value
    List.replicate (f.width - 1 - digits.length) '0' ++ digits
  match f.letter with
  | 'x' | 'o' => filled
  | 'u' => ofNumber value
  | 'd' => ofNumber (Int.bmod value (Nat.pow 256 f.size))
  | 'a' =>
    let code := value % 128
    if code = 127 then ofText "del"
    else (controlNames[code]?).elim [Char.ofNat code] ofText
  | _ => characterName (bytes.headD ' ')

/-- The forms that a description stands for. -/
def read (description : List Char) : List Form :=
  match description with
  | [] => []
  | c :: rest =>
    let size :=
      match rest.head? with
      | some '2' => 2
      | some '4' => 4
      | some '8' => 8
      | some '1' => 1
      | _ => if c = 'c' || c = 'a' then 1 else 4
    ⟨c, size⟩ :: read rest

/-- The forms among those read that are known. -/
def ofDescription? (description : List Char) : Except Char (List Form) :=
  match description.find? fun c => !("acdoux1248".toList.contains c) with
  | some c => .error c
  | none => .ok ((read description).filter fun f => !f.letter.isDigit)

end Form

/-- The rows of a dump, given a bound on their number.  A row like the one before it is shown
as a star, and any more of them not at all. -/
def dumpRows (forms : List Form) (address : Nat → List Char) (size : Nat) (all : Bool) :
    Nat → Nat → Option (List Char × Bool) → List Char → List Char
  | 0, _, _, _ => []
  | _ + 1, offset, _, [] => if (address offset).isEmpty then [] else address offset ++ ['\n']
  | n + 1, offset, before, cs =>
    let row := cs.take size
    let rest := cs.drop size
    let isRepeated := !all && row.length = size && before.any (·.1 == row) && !rest.isEmpty
    if isRepeated then
      let star := if before.any (·.2) then [] else ['*', '\n']
      star ++ dumpRows forms address size all n (offset + row.length) (some (row, true)) rest
    else
      let blank := List.replicate (address offset).length ' '
      let width (f : Form) : Nat :=
        forms.foldl (fun w g => max w ((g.width * f.size + g.size - 1) / g.size)) f.width
      let values (f : Form) : List Char :=
        (chunksOf f.size (row.length + 1) row).flatMap fun bytes => padLeft (width f) (f.text bytes)
      let lines := forms.zipIdx.flatMap fun (f, i) =>
        (if i = 0 then address offset else blank) ++ values f ++ ['\n']
      lines ++ dumpRows forms address size all n (offset + row.length) (some (row, false)) rest
where
  /-- Groups of bytes, given a bound on their number. -/
  chunksOf (size : Nat) : Nat → List Char → List (List Char)
    | 0, _ => []
    | _ + 1, [] => []
    | n + 1, cs => cs.take size :: chunksOf size n (cs.drop size)

def od (args : List (List Char)) : Action Nat :=
  let words := [("address-radix", 'A'), ("format", 't'), ("output-duplicates", 'v'),
    ("skip-bytes", 'j'), ("read-bytes", 'N'), ("width", 'w')]
  let letters := "A:t:abcdfilosvxj:N:w:"
  withOptions "od" { letters := letters, words := words } args fun choices operands => do
    let described : List (Except Char (List Form)) := choices.map fun c =>
      match c.letter with
      | 'a' => .ok [⟨'a', 1⟩]
      | 'b' => .ok [⟨'o', 1⟩]
      | 'c' => .ok [⟨'c', 1⟩]
      | 'd' => .ok [⟨'u', 2⟩]
      | 'i' => .ok [⟨'d', 4⟩]
      | 'l' => .ok [⟨'d', 8⟩]
      | 'o' => .ok [⟨'o', 2⟩]
      | 's' => .ok [⟨'d', 2⟩]
      | 'x' => .ok [⟨'x', 2⟩]
      | 't' => Form.ofDescription? c.value
      | _ => .ok []
    match described.mapM id with
    | .error c =>
      let value := (value? choices 't').getD []
      complain "od" (ofText "invalid character '" ++ [c] ++ ofText "' in type string '" ++ value ++
        ['\x27'])
      return 1
    | .ok forms =>
      let forms := if forms.flatten.isEmpty then [⟨'o', 2⟩] else forms.flatten
      let radix := ((value? choices 'A').bind List.head?).getD 'o'
      let address (n : Nat) : List Char :=
        let digits (base width : Nat) : List Char :=
          let ds := Nat.toDigits base n
          List.replicate (width - ds.length) '0' ++ ds
        match radix with
        | 'n' => []
        | 'd' => digits 10 7
        | 'x' => digits 16 6
        | _ => digits 8 7
      let number (c : Char) : Option Nat := (value? choices c).bind digits?
      let (text, fine) ← allText "od" operands
      if !fine && text.isEmpty then return 1
      let skipped := (number 'j').getD 0
      let text := text.drop skipped
      let text := (number 'N').elim text text.take
      emit (dumpRows forms address (max 1 ((number 'w').getD 16)) (has choices 'v')
        (text.length + 2) skipped none text)
      return statusOf fine

end Utility
end Shell
end FeatureLadder
