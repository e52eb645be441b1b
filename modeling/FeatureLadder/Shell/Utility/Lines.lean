import FeatureLadder.Shell.Utility.Basic

/-!
# Utilities on lines and bytes

What shows, counts, picks, sorts or changes the lines of files or of the standard input.
-/

namespace FeatureLadder
namespace Shell
namespace Utility

/-! ## Showing -/

/-- A character as it is shown when control characters are made visible. -/
def visible (c : Char) : List Char :=
  let low (n : Nat) : List Char :=
    if n < 0x20 then ['^', Char.ofNat (n + 0x40)]
    else if n = 0x7F then ['^', '?']
    else [Char.ofNat n]
  if c = '\n' || c = '\t' then [c]
  else if c.toNat < 0x80 then low c.toNat
  else ['M', '-'] ++ low (c.toNat - 0x80)

/-- Whether an operand is the file that the standard output goes to, and holds something. -/
def isOutput (path : List Char) : Action Bool := do
  let t ← tree
  let input :=
    if path = ['-'] then none else (t.locate (toText path)).toOption
  match ← stream? 1 with
  | some (_, .file location ..) =>
    match t.root.get? location with
    | some (.file (_ :: _) _) => return input = some location
    | _ => return false
  | _ => return false

/-- Shows files as they are, and says whether all could be shown. -/
def catPlain (operands : List (List Char)) : Action Bool := do
  let mut fine := true
  for path in if operands.isEmpty then [['-']] else operands do
    if ← isOutput path then
      complain "cat" (shown path ++ ofText ": input file is output file")
      fine := false
    else fine := (← forOperands "cat" [path] fun _ text => emit text) && fine
  return fine

def cat (args : List (List Char)) : Action Nat :=
  let words := [("number", 'n'), ("number-nonblank", 'b'), ("squeeze-blank", 's'), ("show-ends", 'E'),
    ("show-tabs", 'T'), ("show-all", 'A'), ("show-nonprinting", 'v')]
  withOptions "cat" { letters := "nbsETAvetu", words := words } args fun choices operands => do
    let ends := has choices 'E' || has choices 'A' || has choices 'e'
    let tabs := has choices 'T' || has choices 'A' || has choices 't'
    let control := has choices 'v' || has choices 'A' || has choices 'e' || has choices 't'
    let nonblank := has choices 'b'
    let numbered := has choices 'n' || nonblank
    let squeeze := has choices 's'
    if (← stream? 1).isNone then
      complain "cat" (ofText ("standard output: " ++ Trouble.closed.reason))
      return 1
    let readsInput := operands.isEmpty || operands.contains ['-']
    if readsInput && (← stream? 0).isNone then
      let _ ← catPlain operands
      complain "cat" (ofText ("closing standard input: " ++ Trouble.closed.reason))
      return 1
    if !(ends || tabs || control || numbered || squeeze) then
      return statusOf (← catPlain operands)
    let (text, fine) ← allText "cat" operands
    let mut count := 0
    let mut blanks := 0
    let complete := text.getLast? = some '\n'
    let lines := linesOf text
    for (line, i) in lines.zipIdx do
      blanks := if line.isEmpty then blanks + 1 else 0
      if squeeze && 1 < blanks then continue
      let counts := numbered && !(nonblank && line.isEmpty)
      if counts then count := count + 1
      let number := if counts then padLeft 6 (ofNumber count) ++ ['\t'] else []
      let body := line.flatMap fun c =>
        if tabs && c = '\t' then ['^', 'I'] else if control then visible c else [c]
      let isLast := i + 1 = lines.length && !complete
      emit (number ++ body ++ if isLast then [] else if ends then ['$', '\n'] else ['\n'])
    return statusOf fine

/-- A number with a suffix for thousands or the like. -/
def quantity? (text : List Char) : Option Nat :=
  let digits := text.takeWhile Char.isDigit
  (digits? digits).bind fun n =>
    match String.ofList (text.drop digits.length) with
    | "" => some n
    | "b" => some (512 * n)
    | "k" | "K" => some (1024 * n)
    | "m" | "M" => some (1048576 * n)
    | "kB" => some (1000 * n)
    | _ => none

def wholeLines (text : List Char) : List (List Char) :=
  let complete := text.getLast? = some '\n'
  let lines := linesOf text
  let all := lines.map (· ++ ['\n'])
  if complete || lines.isEmpty then all
  else all.dropLast ++ [lines.getLastD []]

/-- What of a text is asked for: a number of lines or bytes, and the sign in front of it. -/
structure Extent where
  bytes : Bool
  sign : Option Char
  count : Nat

/-- An extent from an option's value. -/
def Extent.of? (bytes : Bool) (text : List Char) : Option Extent :=
  match text with
  | '-' :: rest => (quantity? rest).map (⟨bytes, some '-', ·⟩)
  | '+' :: rest => (quantity? rest).map (⟨bytes, some '+', ·⟩)
  | _ => (quantity? text).map (⟨bytes, none, ·⟩)

/-- The start of a text. -/
def Extent.first (e : Extent) (text : List Char) : List Char :=
  let pick {α : Type} (xs : List α) : List α :=
    if e.sign = some '-' then xs.take (xs.length - e.count) else xs.take e.count
  if e.bytes then pick text else (pick (wholeLines text)).flatten

/-- The end of a text. -/
def Extent.last (e : Extent) (text : List Char) : List Char :=
  let pick {α : Type} (xs : List α) : List α :=
    if e.sign = some '+' then xs.drop (e.count - 1) else xs.drop (xs.length - e.count)
  if e.bytes then pick text else (pick (wholeLines text)).flatten

/-- Arguments with a leading `-N` spelled out. -/
def spellCount (args : List (List Char)) : List (List Char) :=
  match args with
  | ('-' :: d :: more) :: rest =>
    if d.isDigit && more.all Char.isDigit then ['-', 'n'] :: (d :: more) :: rest else args
  | _ => args

/-- Shows a part of each file, with its name above it if there are several. -/
def showParts (name : String) (part : Extent → List Char → List Char) (args : List (List Char)) :
    Action Nat :=
  let words := [("lines", 'n'), ("bytes", 'c'), ("quiet", 'q'), ("silent", 'q'), ("verbose", 'v')]
  withOptions name { letters := "n:c:qvf", words := words } (spellCount args)
    fun choices operands => do
      let mut extent : Extent := ⟨false, none, 10⟩
      for c in choices do
        if c.letter = 'n' || c.letter = 'c' then
          match Extent.of? (c.letter == 'c') c.value with
          | some e => extent := e
          | none =>
            let what := if c.letter = 'c' then "bytes" else "lines"
            complain name (ofText ("invalid number of " ++ what ++ ": ") ++ inQuotes c.value)
            return 1
      let headed := has choices 'v' || (1 < operands.length && !has choices 'q')
      let mut fine := true
      let mut first := true
      for path in if operands.isEmpty then [['-']] else operands do
        let opened ← if path = ['-'] then pure none else do
          match ← openInput path with
          | .ok place => pure (some (Except.ok place))
          | .error e => pure (some (Except.error e))
        match opened with
        | some (.error e) =>
          complain name
            (ofText "cannot open " ++ inQuotes path ++ ofText (" for reading: " ++ e.reason))
          fine := false
        | _ =>
          if headed then
            let title := if path = ['-'] then ofText "standard input" else path
            emit ((if first then [] else ['\n']) ++ ofText "==> " ++ title ++ ofText " <==\n")
          first := false
          let text ← match opened with
            | some (.ok place) => readPlace place
            | _ => readFrom 0
          match text with
          | .error trouble =>
            complain name (ofText "error reading " ++
              inQuotes (if path = ['-'] then ofText "standard input" else path) ++
              ofText (": " ++ trouble.reason))
            fine := false
          | .ok text =>
            let shownPart := part extent text
            if path = ['-'] && name = "head" then unread 0 (text.length - shownPart.length)
            emit shownPart
      return statusOf fine

def head : List (List Char) → Action Nat :=
  showParts "head" Extent.first

def tail (args : List (List Char)) : Action Nat :=
  let args :=
    match args with
    | ('+' :: d :: more) :: rest =>
      if (d :: more).all Char.isDigit then ['-', 'n'] :: ('+' :: d :: more) :: rest else args
    | _ => args
  showParts "tail" Extent.last args

/-! ## Counting -/

/-- The number of words of a text. -/
def wordCount (text : List Char) : Nat :=
  let isBlank (c : Char) : Bool := c == ' ' || (0x09 ≤ c.toNat && c.toNat ≤ 0x0D)
  (text.foldl (fun (n, inside) c =>
    if isBlank c then (n, false) else (if inside then n else n + 1, true)) (0, false)).1

def wc (args : List (List Char)) : Action Nat :=
  let words := [("lines", 'l'), ("words", 'w'), ("bytes", 'c'), ("chars", 'm'),
    ("max-line-length", 'L')]
  withOptions "wc" { letters := "lwcmL", words := words } args fun choices operands => do
    let picked := "lwmcL".toList.filter (has choices)
    let picked := if picked.isEmpty then ['l', 'w', 'c'] else picked
    let measure (text : List Char) (c : Char) : Nat :=
      match c with
      | 'l' => text.count '\n'
      | 'w' => wordCount text
      | 'L' => (linesOf text).foldl (fun n l => max n l.length) 0
      | _ => text.length
    let paths := if operands.isEmpty then [['-']] else operands
    let mut rows : List (List Nat × List Char) := []
    let mut fine := true
    let mut texts : List (Except (List Char) (List Nat × List Char)) := []
    let mut size := 0
    let mut regular := true
    for path in paths do
      match ← readOperand path with
      | .ok text =>
        let isFile := match ← (do
            if path = ['-'] then return (← stream? 0).map Prod.snd
            else return none) with
          | some (.file ..) => true
          | some _ => false
          | none => path ≠ ['-']
        regular := regular && isFile
        size := size + text.length
        let row := picked.map (measure text)
        rows := rows ++ [(row, if operands.isEmpty then [] else path)]
        texts := texts ++ [.ok (row, if operands.isEmpty then [] else path)]
      | .error reason =>
        fine := false
        if reason = "Is a directory" then
          regular := false
          texts := texts ++ [.error (shown path ++ ofText (": " ++ reason))]
          texts := texts ++ [.ok (picked.map fun _ => 0, path)]
          rows := rows ++ [(picked.map fun _ => 0, path)]
        else texts := texts ++ [.error (shown path ++ ofText (": " ++ reason))]
    let several := 1 < paths.length
    let isMax := picked.map (· == 'L')
    let totals := (List.range picked.length).map fun i =>
      rows.foldl (fun n r =>
        let v := (r.1[i]?).getD 0
        if (isMax[i]?).getD false then max n v else n + v) 0
    let width :=
      if picked.length = 1 && !several then 1
      else if !regular then 7
      else (Nat.toDigits 10 size).length
    let row (r : List Nat × List Char) : List Char :=
      [' '].intercalate (r.1.map fun n => padLeft width (ofNumber (Int.ofNat n))) ++
        (if r.2.isEmpty then [] else ' ' :: r.2) ++ ['\n']
    for item in texts do
      match item with
      | .ok r => emit (row r)
      | .error message => complain "wc" message
    if several then emit (row (totals, ofText "total"))
    return statusOf fine

/-! ## Sorting -/

/-- The number at the start of a text as a sign, a whole part and a fraction. -/
def numericKey (text : List Char) : Int × List Char :=
  let body := text.dropWhile fun c => c == ' ' || c == '\t'
  let (negative, body) :=
    match body with
    | '-' :: rest => (true, rest)
    | _ => (false, body)
  let whole := body.takeWhile Char.isDigit
  let fraction :=
    match body.drop whole.length with
    | '.' :: rest => rest.takeWhile Char.isDigit
    | _ => []
  let places := fraction.take 18
  let n := Int.ofNat (((whole ++ places ++ List.replicate (18 - places.length) '0').foldl
    (fun n c => 10 * n + (c.toNat - 0x30)) 0))
  (if negative then -n else n, fraction.drop 18)

/-- How keys are compared. -/
structure Comparison where
  numeric : Bool := false
  reverse : Bool := false
  anyCase : Bool := false
  blanks : Bool := false
  dictionary : Bool := false

/-- A key of lines: where it starts and ends, and how it is compared. -/
structure Key where
  startField : Nat := 1
  startChar : Nat := 1
  endField : Option Nat := none
  endChar : Nat := 0
  order : Comparison := {}
  /-- whether the key has an order of its own -/
  own : Bool := false

/-- An order with the letters of some options. -/
def Comparison.letters (o : Comparison) (cs : List Char) : Comparison :=
  cs.foldl (fun o c =>
    match c with
    | 'n' | 'g' | 'h' => { o with numeric := true }
    | 'r' => { o with reverse := true }
    | 'f' => { o with anyCase := true }
    | 'b' => { o with blanks := true }
    | 'd' => { o with dictionary := true }
    | _ => o) o

/-- The key that an option's value describes. -/
def Key.of? (text : List Char) : Option Key :=
  let spot (cs : List Char) : Option (Nat × Option Nat × List Char) :=
    let field := cs.takeWhile Char.isDigit
    let after := cs.drop field.length
    match digits? field with
    | none => none
    | some f =>
      match after with
      | '.' :: rest =>
        let place := rest.takeWhile Char.isDigit
        (digits? place).map fun p => (f, some p, rest.drop place.length)
      | _ => some (f, none, after)
  match spot text with
  | none => none
  | some (f, place, rest) =>
    let flags := rest.takeWhile Char.isAlpha
    let base : Key :=
      { startField := f, startChar := place.getD 1, own := !flags.isEmpty,
        order := Comparison.letters {} flags }
    match rest.drop flags.length with
    | [] => some base
    | ',' :: more =>
      (spot more).bind fun (f, place, rest) =>
        if rest.all Char.isAlpha then
          some { base with
            endField := some f, endChar := place.getD 0, own := base.own || !rest.isEmpty
            order := base.order.letters rest }
        else none
    | _ => none

/-- The fields of a line with the blanks in front of them, or between separators. -/
def sortFields (separator : Option Char) (line : List Char) : List (List Char) :=
  match separator with
  | some c => Text.pieces c line
  | none => go (line.length + 1) line
where
  /-- The fields with the blanks in front of them, given a bound on their number. -/
  go : Nat → List Char → List (List Char)
    | 0, _ => []
    | _ + 1, [] => []
    | n + 1, cs =>
      let isBlank (c : Char) : Bool := c == ' ' || c == '\t'
      let blanks := cs.takeWhile isBlank
      let word := (cs.drop blanks.length).takeWhile (!isBlank ·)
      (blanks ++ word) :: go n (cs.drop (blanks.length + word.length))

/-- The text of a key in a line. -/
def Key.text (k : Key) (separator : Option Char) (line : List Char) : List Char :=
  let fields := sortFields separator line
  let between : List Char := separator.toList
  let skip (cs : List Char) : List Char :=
    if k.order.blanks then cs.dropWhile fun c => c == ' ' || c == '\t' else cs
  match k.endField with
  | none =>
    let rest := fields.drop (k.startField - 1)
    let head := (skip (rest.headD [])).drop (k.startChar - 1)
    between.intercalate (head :: rest.drop 1)
  | some e =>
    let part := (fields.take e).drop (k.startField - 1)
    let part :=
      if k.endChar = 0 then part
      else part.dropLast ++ [(skip (part.getLastD [])).take k.endChar]
    let head := (skip (part.headD [])).drop (k.startChar - 1)
    if part.isEmpty then [] else between.intercalate (head :: part.drop 1)

def Comparison.compare (o : Comparison) (a b : List Char) : Ordering :=
  let fold (cs : List Char) : List Char :=
    let cs := if o.blanks then cs.dropWhile fun c => c == ' ' || c == '\t' else cs
    let cs := if o.dictionary then cs.filter fun c => c.isAlphanum || c == ' ' || c == '\t' else cs
    if o.anyCase then cs.map Char.toUpper else cs
  let result :=
    if o.numeric then
      let (m, ma) := numericKey a
      let (n, nb) := numericKey b
      (Ord.compare m n).then (Ord.compare ma nb)
    else Ord.compare (fold a) (fold b)
  if o.reverse then result.swap else result

/-- Groups of lines that follow each other and count as the same. -/
def groups (same : List Char → List Char → Bool) : List (List Char) → List (List (List Char))
  | [] => []
  | a :: rest =>
    match groups same rest with
    | (b :: more) :: others => if same a b then (a :: b :: more) :: others else [a] :: (b :: more) :: others
    | others => [a] :: others

/-- The first line that should not stand behind the one before it, and its number. -/
def disorder (bad : List Char → List Char → Bool) :
    Nat → List (List Char) → Option (Nat × List Char)
  | n, a :: b :: rest => if bad a b then some (n + 1, b) else disorder bad (n + 1) (b :: rest)
  | _, _ => none

def sort (args : List (List Char)) : Action Nat :=
  let words := [("numeric-sort", 'n'), ("reverse", 'r'), ("unique", 'u'), ("key", 'k'),
    ("field-separator", 't'), ("ignore-case", 'f'), ("ignore-leading-blanks", 'b'), ("output", 'o'),
    ("check", 'c'), ("stable", 's'), ("dictionary-order", 'd'), ("general-numeric-sort", 'g'),
    ("human-numeric-sort", 'h'), ("zero-terminated", 'z'), ("merge", 'm'), ("version-sort", 'V')]
  withOptions "sort" { letters := "nruk:t:fbo:csdghzmV", words := words } args
    (fun choices operands => do
      let global := Comparison.letters {} (choices.map Choice.letter)
      let separator := (value? choices 't').bind List.head?
      let mut keys : List Key := []
      for c in choices do
        if c.letter = 'k' then
          match Key.of? c.value with
          | some k => keys := keys ++ [if k.own then k else { k with order := global }]
          | none =>
            complain "sort" (ofText "invalid number at field start: invalid count at start of " ++
              inQuotes c.value)
            return 2
      let compareKeys (a b : List Char) : Ordering :=
        if keys.isEmpty then global.compare a b
        else keys.foldl (fun o k =>
          o.then (k.order.compare (k.text separator a) (k.text separator b))) .eq
      let stable := has choices 's' || has choices 'u'
      let compareLines (a b : List Char) : Ordering :=
        (compareKeys a b).then
          (if stable then .eq
            else if global.reverse then (Ord.compare a b).swap else Ord.compare a b)
      let mut lines : List (List Char) := []
      for path in if operands.isEmpty then [['-']] else operands do
        match ← readOperand path with
        | .ok text => lines := lines ++ linesOf text
        | .error reason =>
          let what := if reason = "Is a directory" then "read failed: " else "cannot read: "
          complain "sort" (ofText what ++ shown path ++ ofText (": " ++ reason))
          return 2
      if has choices 'c' then
        let bad (a b : List Char) : Bool :=
          if has choices 'u' then compareKeys a b != .lt else compareLines a b == .gt
        match disorder bad 1 lines with
        | some (n, line) =>
          let path := operands.headD ['-']
          complain "sort" (path ++ [':'] ++ ofNumber n ++ ofText ": disorder: " ++ line)
          return 1
        | none => return 0
      let sorted := lines.mergeSort fun a b => (compareLines a b).isLE
      let result :=
        if has choices 'u' then
          (groups (fun a b => compareKeys a b == .eq) sorted).map (·.headD [])
        else sorted
      match value? choices 'o' with
      | none => emit (unlines result)
      | some path =>
        match ← openOutput .overwrite path with
        | .ok place =>
          let before := (← process).descriptors.lookup 1
          setDescriptor 1 (some place)
          emit (unlines result)
          setDescriptor 1 before
        | .error e =>
          complain "sort" (ofText "open failed: " ++ shown path ++ ofText (": " ++ e.reason))
          return 2
      return 0)
    2

def uniq (args : List (List Char)) : Action Nat :=
  let words := [("count", 'c'), ("repeated", 'd'), ("unique", 'u'), ("ignore-case", 'i'),
    ("skip-fields", 'f'), ("skip-chars", 's'), ("check-chars", 'w')]
  withOptions "uniq" { letters := "cduif:s:w:D", words := words } args fun choices operands => do
    let skipFields := ((value? choices 'f').bind digits?).getD 0
    let skipChars := ((value? choices 's').bind digits?).getD 0
    let width := (value? choices 'w').bind digits?
    let key (line : List Char) : List Char :=
      let line := ((sortFields none line).drop skipFields).flatten
      let line := line.drop skipChars
      let line := width.elim line line.take
      if has choices 'i' then line.map Char.toLower else line
    match ← readOperand (operands.headD ['-']) with
    | .error reason =>
      complain "uniq" (shown (operands.headD ['-']) ++ ofText (": " ++ reason))
      return 1
    | .ok text =>
      let found := groups (fun a b => key a == key b) (linesOf text)
      let repeated := has choices 'd' || has choices 'D'
      let wanted := found.filter fun g =>
        (!repeated || 1 < g.length) && (!has choices 'u' || g.length == 1)
      let wanted := if has choices 'D' then wanted.flatMap fun g => g.map ([·]) else wanted
      let line (g : List (List Char)) : List Char :=
        (if has choices 'c' then padLeft 7 (ofNumber g.length) ++ [' '] else []) ++ g.headD [] ++ ['\n']
      let result := wanted.flatMap line
      match operands[1]? with
      | none => emit result
      | some path =>
        match ← openOutput .overwrite path with
        | .ok place =>
          let before := (← process).descriptors.lookup 1
          setDescriptor 1 (some place)
          emit result
          setDescriptor 1 before
        | .error e => complain "uniq" (shown path ++ ofText (": " ++ e.reason))
      return 0

end Utility
end Shell
end FeatureLadder
