import FeatureLadder.Shell.Regex
import FeatureLadder.Shell.Utility.Lines

/-!
# Editing lines by a script

**Input**: a script of commands, each with addresses in front of it, and lines.

**Algorithm**: the script is read into a list of steps, in which the end of a block and
the labels are steps too.  Every line is put into the pattern space, the steps are worked
off, and in the end the pattern space is shown.

**Results**: `sed`.
-/

namespace FeatureLadder
namespace Shell
namespace Utility
namespace Editor

/-- Which lines are meant. -/
inductive Address where
  | line (n : Nat)
  | last
  | regex (r : Option Regex) (anyCase : Bool)
  /-- every so many lines from a first one on -/
  | every (first step : Nat)
  /-- a number of lines behind the first address -/
  | plus (n : Nat)

/-- A part of a replacement. -/
inductive Piece where
  | text (cs : List Char)
  | group (n : Nat)
  /-- how the case of what follows is changed: `U`, `L`, `u`, `l` or `E` -/
  | case (c : Char)

/-- What is asked for behind a substitution. -/
structure Flags where
  all : Bool := false
  /-- the first match that is replaced -/
  which : Nat := 1
  print : Bool := false
  anyCase : Bool := false
  /-- the file that the result is written to -/
  file : Option (List Char) := none

/-- What a step does. -/
inductive Deed where
  | substitute (r : Option Regex) (anyCase : Bool) (by' : List Piece) (flags : Flags)
  | translate (pairs : List (Char × Char))
  | opening
  | closing
  | label (name : List Char)
  | branch (name : List Char)
  | branchIf (changed : Bool) (name : List Char)
  | append (text : List Char)
  | insert (text : List Char)
  | change (text : List Char)
  | readFile (path : List Char)
  | writeFile (path : List Char)
  | quit (silent : Bool) (status : Nat)
  /-- a command that is a letter alone -/
  | letter (c : Char)

/-- A step of a script. -/
structure Step where
  first : Option Address := none
  second : Option Address := none
  negated : Bool := false
  deed : Deed

/-! ## Reading scripts -/

/-- What is wrong with a script, and the number of characters that were left. -/
abbrev Reader := StateT (List Char) (Except (String × Nat))

/-- Fails at the place that has been reached. -/
def fail {α : Type} (text : String) : Reader α := do
  throw (text, (← get).length)

/-- Drops characters that fulfil a condition and gives them. -/
def takeWhile (p : Char → Bool) : Reader (List Char) := do
  let cs ← get
  let taken := cs.takeWhile p
  set (cs.drop taken.length)
  return taken

/-- A text up to a delimiter, given a bound on its length; with `regex` a backslash and `n`
stand for a line feed. -/
def delimited (slash : Char) (regex : Bool) : Nat → List Char → Option (List Char × List Char)
  | 0, _ => none
  | _ + 1, [] => none
  | n + 1, '\\' :: c :: rest =>
    let text :=
      if c = 'n' && regex then ['\n']
      else if c = slash && (regex || c ≠ '&') then [c]
      else if c = '\n' then (if regex then ['\n'] else ['\\', '\n'])
      else ['\\', c]
    (delimited slash regex n rest).map fun (inner, after) => (text ++ inner, after)
  | n + 1, c :: rest =>
    if c = slash then some ([], rest)
    else if c = '\n' && regex then none
    else (delimited slash regex n rest).map fun (inner, after) => (c :: inner, after)

/-- The parts of a replacement, given a bound on their number. -/
def pieces : Nat → List Char → List Piece
  | 0, _ => []
  | _ + 1, [] => []
  | n + 1, '&' :: rest => .group 0 :: pieces n rest
  | n + 1, '\\' :: c :: rest =>
    if c.isDigit then .group (c.toNat - 0x30) :: pieces n rest
    else if c = 'n' then .text ['\n'] :: pieces n rest
    else if c = 't' then .text ['\t'] :: pieces n rest
    else if "ULulE".toList.contains c then .case c :: pieces n rest
    else .text [c] :: pieces n rest
  | n + 1, c :: rest => .text [c] :: pieces n rest

/-- An expression; an empty one stands for the one that was used last. -/
def regexOf (extended : Bool) (text : List Char) : Reader (Option Regex) := do
  if text.isEmpty then return none
  match Regex.read extended text with
  | .ok r => return some r
  | .error m => fail m.message

/-- An address, if there is one. -/
def address? (extended : Bool) : Reader (Option Address) := do
  let cs ← get
  match cs with
  | '$' :: rest =>
    set rest
    return some .last
  | '/' :: rest =>
    match delimited '/' true (rest.length + 1) rest with
    | none => fail "unterminated address regex"
    | some (text, after) =>
      set after
      finish text
  | '\\' :: slash :: rest =>
    match delimited slash true (rest.length + 1) rest with
    | none => fail "unterminated address regex"
    | some (text, after) =>
      set after
      finish text
  | '+' :: c :: _ =>
    if c.isDigit then
      set (cs.drop 1)
      let digits ← takeWhile Char.isDigit
      return some (.plus ((digits? digits).getD 0))
    else return none
  | c :: _ =>
    if c.isDigit then
      let digits ← takeWhile Char.isDigit
      let n := (digits? digits).getD 0
      match ← get with
      | '~' :: rest =>
        set rest
        let step ← takeWhile Char.isDigit
        return some (.every n ((digits? step).getD 0))
      | _ => return some (.line n)
    else return none
  | [] => return none
where
  /-- An address that is an expression, with the letters behind it. -/
  finish (text : List Char) : Reader (Option Address) := do
    let letters ← takeWhile fun c => c == 'I' || c == 'M'
    return some (.regex (← regexOf extended text) (letters.contains 'I'))

/-- The text of a command that adds lines. -/
def textArgument : Reader (List Char) := do
  let _ ← takeWhile fun c => c == ' ' || c == '\t'
  let cs ← get
  let cs :=
    match cs with
    | '\\' :: '\n' :: rest => rest
    | '\\' :: rest =>
      match rest.dropWhile fun c => c == ' ' || c == '\t' with
      | '\n' :: more => more
      | _ => rest
    | _ => cs
  if cs.isEmpty then fail "expected \\ after `a', `c' or `i'"
  let (text, rest) := go (cs.length + 1) cs
  set rest
  return text ++ ['\n']
where
  /-- The text up to the end of a line that no backslash continues. -/
  go : Nat → List Char → List Char × List Char
    | 0, cs => ([], cs)
    | _ + 1, [] => ([], [])
    | n + 1, '\\' :: c :: rest =>
      let (text, after) := go n rest
      (c :: text, after)
    | _ + 1, '\n' :: rest => ([], rest)
    | n + 1, c :: rest =>
      let (text, after) := go n rest
      (c :: text, after)

/-- What follows a command up to the next one. -/
def endOfCommand : Reader PUnit := do
  let _ ← takeWhile fun c => c == ' ' || c == '\t'
  match ← get with
  | [] | '\x7d' :: _ => return
  | '#' :: _ => return
  | c :: rest => if c = ';' || c = '\n' then set rest else fail "extra characters after command"

/-- The path that a command is given. -/
def pathArgument : Reader (List Char) := do
  let _ ← takeWhile fun c => c == ' '
  let path ← takeWhile (· ≠ '\n')
  if path.isEmpty then fail "missing filename in r/R/w/W commands"
  return path

/-- The letters and the number behind a substitution. -/
def substituteFlags : Nat → Flags → Reader Flags
  | 0, flags => return flags
  | n + 1, flags => do
    let cs ← get
    let go (flags : Flags) : Reader Flags := do
      set (cs.drop 1)
      substituteFlags n flags
    match cs with
    | 'g' :: _ => go { flags with all := true }
    | 'p' :: _ => go { flags with print := true }
    | 'i' :: _ | 'I' :: _ => go { flags with anyCase := true }
    | 'm' :: _ | 'M' :: _ | 'e' :: _ => go flags
    | 'w' :: rest =>
      set rest
      return { flags with file := some (← pathArgument) }
    | c :: rest =>
      if c.isDigit then
        let digits ← takeWhile Char.isDigit
        let k := (digits? digits).getD 0
        if k = 0 then fail "number option to `s' command may not be zero"
        substituteFlags n { flags with which := k }
      else if " \t;\n\x7d#".toList.contains c then return flags
      else
        set rest
        fail "unknown option to `s'"
    | [] => return flags

/-- The number of groups in an expression. -/
def groupCount (extended : Bool) : List Char → Nat
  | '\\' :: c :: rest => (if c = '(' && !extended then 1 else 0) + groupCount extended rest
  | '(' :: rest => (if extended then 1 else 0) + groupCount extended rest
  | _ :: rest => groupCount extended rest
  | [] => 0

/-- The greatest group that a replacement refers to. -/
def greatestGroup (by' : List Piece) : Nat :=
  by'.foldl (fun n p =>
    match p with
    | .group k => max n k
    | _ => n) 0

/-- What the command behind the addresses does. -/
def deed (extended : Bool) : Reader Deed := do
  match ← get with
  | [] => fail "missing command"
  | c :: rest =>
    set rest
    let simple (d : Deed) : Reader Deed := do
      endOfCommand
      return d
    match c with
    | '\x7b' => return .opening
    | '\x7d' => simple .closing
    | ':' =>
      let _ ← takeWhile fun c => c == ' '
      let name ← takeWhile fun c => c ≠ '\n' && c ≠ ';'
      endOfCommand
      return .label ((name.reverse.dropWhile (· == ' ')).reverse)
    | 'b' | 't' | 'T' =>
      let _ ← takeWhile fun c => c == ' '
      let name ← takeWhile fun c => !" \t\n;\x7d".toList.contains c
      endOfCommand
      return if c = 'b' then .branch name else .branchIf (c == 't') name
    | 'a' => return .append (← textArgument)
    | 'i' => return .insert (← textArgument)
    | 'c' => return .change (← textArgument)
    | 'r' => return .readFile (← pathArgument)
    | 'w' => return .writeFile (← pathArgument)
    | 'q' | 'Q' =>
      let _ ← takeWhile fun c => c == ' '
      let digits ← takeWhile Char.isDigit
      simple (.quit (c == 'Q') ((digits? digits).getD 0))
    | 's' =>
      match rest with
      | [] => fail "unterminated `s' command"
      | slash :: rest =>
        match delimited slash true (rest.length + 1) rest with
        | none =>
          set ([] : List Char)
          fail "unterminated `s' command"
        | some (pattern, after) =>
          match delimited slash false (after.length + 1) after with
          | none =>
            set ([] : List Char)
            fail "unterminated `s' command"
          | some (by', after) =>
            set after
            let flags ← substituteFlags (after.length + 1) {}
            endOfCommand
            let r ← regexOf extended pattern
            let new := pieces (by'.length + 1) by'
            let wanted := greatestGroup new
            if groupCount extended pattern < wanted && !pattern.isEmpty then
              fail ("invalid reference \\" ++ toString wanted ++ " on `s' command's RHS")
            return .substitute r flags.anyCase new flags
    | 'y' =>
      match rest with
      | [] => fail "unterminated `y' command"
      | slash :: rest =>
        match delimited slash true (rest.length + 1) rest with
        | none => fail "unterminated `y' command"
        | some (a, after) =>
          match delimited slash true (after.length + 1) after with
          | none => fail "unterminated `y' command"
          | some (b, after) =>
            set after
            if a.length ≠ b.length then fail "strings for `y' command are different lengths"
            endOfCommand
            return .translate (a.zip b)
    | _ =>
      if "dDpPnNhHgGxl=zF".toList.contains c then simple (.letter c)
      else fail ("unknown command: `" ++ String.singleton c ++ "'")

/-- The steps of a script, given a bound on their number, in a number of blocks. -/
def steps (extended : Bool) : Nat → Nat → Reader (List Step)
  | 0, _ => return []
  | n + 1, depth => do
    let _ ← takeWhile fun c => " \t\n;".toList.contains c
    match ← get with
    | [] => return []
    | '#' :: _ =>
      let _ ← takeWhile (· ≠ '\n')
      steps extended n depth
    | _ =>
      let first ← address? extended
      let _ ← takeWhile fun c => c == ' '
      let second ←
        match first, ← get with
        | some _, ',' :: rest =>
          set rest
          let _ ← takeWhile fun c => c == ' '
          match ← address? extended with
          | some a => pure (some a)
          | none => fail "unexpected `,'"
        | _, _ => pure none
      let marks ← takeWhile fun c => c == ' ' || c == '!'
      if depth = 0 && (← get).head? = some '\x7d' then
        modify (·.drop 1)
        fail "unexpected `\x7d'"
      let d ← deed extended
      let depth :=
        match d with
        | .opening => depth + 1
        | .closing => depth - 1
        | _ => depth
      let step : Step :=
        { first := first, second := second, negated := marks.contains '!', deed := d }
      return step :: (← steps extended n depth)

/-- The steps of a script, or what is wrong with it. -/
def read (extended : Bool) (script : List Char) : Except String (Array Step) :=
  match (steps extended (script.length + 1) 0).run script with
  | .error (text, left) =>
    .error ("-e expression #1, char " ++ toString (script.length - left) ++ ": " ++ text)
  | .ok (found, _) =>
    let depth := found.foldl (fun n s =>
      match s.deed with
      | .opening => n + 1
      | .closing => n - 1
      | _ => n) 0
    if depth ≠ 0 then .error "-e expression #1, char 0: unmatched `\x7b'" else .ok found.toArray

/-! ## Running scripts -/

/-- The state of an editor. -/
structure State where
  rest : List (List Char)
  /-- whether a line feed ends the last line -/
  complete : Bool
  number : Nat := 0
  pattern : List Char := []
  hold : List Char := []
  /-- what was written, latest first -/
  output : List (List Char) := []
  /-- whether a line feed is still missing -/
  owed : Bool := false
  /-- what is written at the end of the cycle -/
  queue : List (List Char) := []
  changed : Bool := false
  /-- the steps whose ranges have begun, and the lines at which they end, if known -/
  ranges : List (Nat × Option Nat) := []
  lastRegex : Option Regex := none
  /-- the texts of files that the script may read -/
  files : List (List Char × List Char) := []
  /-- what was written to files, latest first -/
  written : List (List Char × List Char) := []
  silent : Bool
  /-- whether the script has ended before the lines did -/
  stopped : Bool := false

/-- Writes a text with the line feed that is still missing in front of it. -/
def State.write (s : State) (text : List Char) : State :=
  { s with output := text :: (if s.owed then [['\n']] else []) ++ s.output, owed := false }

def State.writeLine (s : State) (line : List Char) : State :=
  let complete := s.complete || !s.rest.isEmpty
  let s := s.write (if complete then line ++ ['\n'] else line)
  { s with owed := !complete }

/-- Writes the pattern space to a file. -/
def State.writeTo (s : State) (path : List Char) : State :=
  if path = "/dev/stdout".toList then s.writeLine s.pattern
  else { s with written := (path, s.pattern ++ ['\n']) :: s.written }

/-- Writes what was put off to the end of the cycle. -/
def State.flush (s : State) : State :=
  { s.queue.reverse.foldl State.write s with queue := [] }

/-- Whether an expression matches the pattern space; it becomes the one that was used
last. -/
def State.accepts (s : State) (r : Option Regex) (anyCase : Bool) : Bool × State :=
  let regex := r <|> s.lastRegex
  match regex with
  | none => (false, s)
  | some x => ((x.search anyCase s.pattern).isSome, { s with lastRegex := some x })

/-- Whether an address means the current line. -/
def State.meets (s : State) : Address → Bool × State
  | .line n => (s.number == n, s)
  | .last => (s.rest.isEmpty, s)
  | .regex r anyCase => s.accepts r anyCase
  | .every first step =>
    (if step = 0 then s.number == first else first ≤ s.number && (s.number - first) % step == 0, s)
  | .plus _ => (false, s)

/-- Whether a step is for the current line. -/
def State.selects (s : State) (index : Nat) (step : Step) : Bool × State :=
  let (chosen, s) :=
    match step.first, step.second with
    | none, _ => (true, s)
    | some a, none => s.meets a
    | some a, some b =>
      match s.ranges.lookup index with
      | some limit =>
        let (ends, s) :=
          match limit with
          | some n => (decide (n ≤ s.number), s)
          | none => s.meets b
        (true, if ends then { s with ranges := s.ranges.filter (·.1 != index) } else s)
      | none =>
        let (starts, s) := s.meets a
        if !starts then (false, s)
        else
          let limit :=
            match b with
            | .line n => some n
            | .plus n => some (s.number + n)
            | _ => none
          let isOver := limit.any (· ≤ s.number)
          (true, if isOver then s else { s with ranges := (index, limit) :: s.ranges })
  (chosen != step.negated, s)

/-- A replacement with what was matched. -/
def replacement (m : Regex.Match) (text : List Char) : List Piece → Option Char → Option Char →
    List Char
  | [], _, _ => []
  | .case c :: rest, mode, once =>
    if c = 'u' || c = 'l' then replacement m text rest mode (some c)
    else replacement m text rest (if c = 'E' then none else some c) once
  | p :: rest, mode, once =>
    let plain :=
      match p with
      | .text cs => cs
      | .group n => (m.text? text n).getD []
      | .case _ => []
    let cased :=
      match mode with
      | some 'U' => plain.map Char.toUpper
      | some 'L' => plain.map Char.toLower
      | _ => plain
    let cased :=
      match once, cased with
      | some 'u', c :: cs => c.toUpper :: cs
      | some 'l', c :: cs => c.toLower :: cs
      | _, _ => cased
    cased ++ replacement m text rest mode (if plain.isEmpty then once else none)

/-- A text in which matches are replaced from an offset on, and whether any was. -/
def replaceFrom (r : Regex) (anyCase : Bool) (by' : List Piece) (all : Bool) (text : List Char) :
    Nat → Nat → Nat → Option Nat → List Char × Bool
  | 0, _, offset, _ => (text.drop offset, false)
  | n + 1, which, offset, lastEnd =>
    if text.length < offset then ([], false)
    else
      match r.search anyCase text offset with
      | none => (text.drop offset, false)
      | some m =>
        let before := Regex.slice text offset m.start
        let isEmpty := m.start = m.finish
        let repeated := isEmpty && lastEnd = some m.start
        let step := if isEmpty then text.drop m.finish |>.take 1 else []
        let next := if isEmpty then m.finish + 1 else m.finish
        if repeated then
          let (more, done) := replaceFrom r anyCase by' all text n which next none
          (before ++ step ++ more, done)
        else if 1 < which then
          let kept := Regex.slice text m.start m.finish
          let (more, done) := replaceFrom r anyCase by' all text n (which - 1) next (some m.finish)
          (before ++ kept ++ step ++ more, done)
        else
          let new := replacement m text by' none none
          if all then
            let (more, _) := replaceFrom r anyCase by' all text n 1 next (some m.finish)
            (before ++ new ++ step ++ more, true)
          else (before ++ new ++ text.drop m.finish, true)

/-- How the steps of a cycle end. -/
inductive Ended where
  /-- the pattern space is shown, unless it is not to be, and the next cycle starts -/
  | shown
  | dropped
  /-- the next cycle starts without another line -/
  | again
  | quit (show' : Bool) (status : Nat)

/-- The place behind the block that is opened at an index. -/
def blockEnd (script : Array Step) : Nat → Nat → Nat → Nat
  | 0, i, _ => i
  | n + 1, i, depth =>
    match (script[i]?).map Step.deed with
    | none => i
    | some .opening => blockEnd script n (i + 1) (depth + 1)
    | some .closing => if depth ≤ 1 then i + 1 else blockEnd script n (i + 1) (depth - 1)
    | some _ => blockEnd script n (i + 1) depth

/-- The place of a label; the end of the script for an empty one. -/
def labelPlace (script : Array Step) (name : List Char) : Nat :=
  if name.isEmpty then script.size
  else
    (script.findIdx? fun s =>
      match s.deed with
      | .label other => other == name
      | _ => false).getD script.size

/-- Puts the next line into the pattern space. -/
def State.next (s : State) : Option State :=
  match s.rest with
  | [] => none
  | line :: rest => some { s with pattern := line, rest := rest, number := s.number + 1 }

/-- A line as it is shown unambiguously. -/
def unambiguous (text : List Char) : List Char :=
  text.flatMap fun c =>
    match c with
    | '\\' => ['\\', '\\']
    | '\n' => ['\\', 'n']
    | '\t' => ['\\', 't']
    | _ =>
      if 0x20 ≤ c.toNat && c.toNat < 0x7F then [c]
      else
        let digits := Nat.toDigits 8 c.toNat
        '\\' :: List.replicate (3 - digits.length) '0' ++ digits

/-- Works off the steps from an index on, given a bound on their number. -/
def cycle (script : Array Step) : Nat → Nat → State → Ended × State
  | 0, _, s => (.quit false 1, s)
  | n + 1, i, s =>
    match script[i]? with
    | none => (.shown, s)
    | some step =>
      let (chosen, s) := s.selects i step
      if !chosen then
        match step.deed with
        | .opening => cycle script n (blockEnd script (script.size + 1) i 0) s
        | _ => cycle script n (i + 1) s
      else
        let go (s : State) : Ended × State := cycle script n (i + 1) s
        match step.deed with
        | .opening | .closing | .label _ => go s
        | .branch name => cycle script n (labelPlace script name) s
        | .branchIf wanted name =>
          if s.changed = wanted then
            cycle script n (labelPlace script name) { s with changed := false }
          else go { s with changed := false }
        | .append text => go { s with queue := text :: s.queue }
        | .readFile path => go { s with queue := ((s.files.lookup path).getD []) :: s.queue }
        | .writeFile path => go (s.writeTo path)
        | .insert text => go (s.write text)
        | .change text =>
          let inRange := step.second.isSome && !step.negated && (s.ranges.lookup i).isSome
          (.dropped, if inRange then s else s.write text)
        | .quit silent status => (.quit (!silent) status, s)
        | .translate pairs =>
          go { s with pattern := s.pattern.map fun c => (pairs.lookup c).getD c }
        | .substitute r anyCase by' flags =>
          match r <|> s.lastRegex with
          | none => go s
          | some x =>
            let (text, done) :=
              replaceFrom x anyCase by' flags.all s.pattern (s.pattern.length + 2) flags.which 0 none
            let s := { s with lastRegex := some x }
            if !done then go s
            else
              let s := { s with pattern := text, changed := true }
              let s := if flags.print then s.writeLine text else s
              go (flags.file.elim s s.writeTo)
        | .letter c =>
          match c with
          | 'd' => (.dropped, s)
          | 'D' =>
            if s.pattern.contains '\n' then
              (.again, { s with pattern := (s.pattern.dropWhile (· ≠ '\n')).drop 1 })
            else (.dropped, s)
          | 'p' => go (s.writeLine s.pattern)
          | 'P' => go (s.write (s.pattern.takeWhile (· ≠ '\n') ++ ['\n']))
          | 'n' =>
            let s := if s.silent then s else if s.rest.isEmpty then s else s.writeLine s.pattern
            match s.flush.next with
            | some s => go s
            | none => (.quit true 0, s)
          | 'N' =>
            match s.flush.next with
            | some t => go { t with pattern := s.pattern ++ ['\n'] ++ t.pattern }
            | none => (.quit true 0, s)
          | 'h' => go { s with hold := s.pattern }
          | 'H' => go { s with hold := s.hold ++ ['\n'] ++ s.pattern }
          | 'g' => go { s with pattern := s.hold }
          | 'G' => go { s with pattern := s.pattern ++ ['\n'] ++ s.hold }
          | 'x' => go { s with pattern := s.hold, hold := s.pattern }
          | '=' => go (s.write (ofNumber s.number ++ ['\n']))
          | 'l' => go (s.write (unambiguous s.pattern ++ ['$', '\n']))
          | 'z' => go { s with pattern := [] }
          | _ => go s

/-- The most steps of a cycle. -/
def stepLimit : Nat := 100000

/-- Works off all lines, given a bound on the number of cycles, and gives the status. -/
def cycles (script : Array Step) : Nat → Bool → State → Nat × State
  | 0, _, s => (1, s)
  | n + 1, needsLine, s =>
    match if needsLine then s.next else some s with
    | none => (0, s)
    | some s =>
      let (ended, s) := cycle script stepLimit 0 { s with changed := false }
      let shownPattern (s : State) : State := if s.silent then s else s.writeLine s.pattern
      match ended with
      | .shown => cycles script n true (shownPattern s).flush
      | .dropped => cycles script n true s.flush
      | .again => cycles script n false s.flush
      | .quit show' status =>
        (status, { (if show' then shownPattern s else s).flush with stopped := true })

/-- The file that a step writes to. -/
def writtenPath? (s : Step) : Option (List Char) :=
  let path? :=
    match s.deed with
    | .writeFile path => some path
    | .substitute _ _ _ flags => flags.file
    | _ => none
  path?.filter (· ≠ "/dev/stdout".toList)

end Editor

open Editor in
def sed (args : List (List Char)) : Action Nat :=
  let words := [("quiet", 'n'), ("silent", 'n'), ("expression", 'e'), ("file", 'f'),
    ("regexp-extended", 'E'), ("in-place", 'i'), ("separate", 's')]
  let args := args.map fun a => if a.take 2 = ['-', 'i'] && a.length ≠ 2 then ['-', 'i'] else a
  withOptions "sed" { letters := "ne:f:Eriszu", words := words } args fun choices operands => do
    let mut scripts : List (List Char) := []
    for c in choices do
      if c.letter = 'e' then scripts := scripts ++ [c.value]
      if c.letter = 'f' then
        match ← readOperand c.value with
        | .ok text => scripts := scripts ++ [if text.getLast? = some '\n' then text.dropLast else text]
        | .error reason =>
          complain "sed" (ofText "couldn't open file " ++ c.value ++ ofText (": " ++ reason))
          return 1
    let given := has choices 'e' || has choices 'f'
    if !given && operands.isEmpty then
      putError (ofText "Usage: sed [OPTION]... \x7bscript-only-if-no-other-script\x7d [input-file]...\n")
      return 1
    let script := if given then ['\n'].intercalate scripts else operands.headD []
    let paths := if given then operands else operands.drop 1
    let extended := has choices 'E' || has choices 'r'
    match read extended script with
    | .error text =>
      complain "sed" (ofText text)
      return 1
    | .ok found =>
      let mut files : List (List Char × List Char) := []
      for step in found do
        if let .readFile path := step.deed then
          if let .ok text := ← readOperand path then files := (path, text) :: files
      let start (text : List Char) : State :=
        { rest := linesOf text, complete := text.getLast? = some '\n', silent := has choices 'n'
          files := files }
      let mut status := 0
      if has choices 'i' then
        for path in paths do
          match ← nodeKind path with
          | .error reason =>
            complain "sed" (reason)
            status := 4
          | .ok text =>
            let (n, s) := cycles found (text.length + 2) true (start text)
            let t ← tree
            let executable := match t.find (toText path) with
              | .ok (.file _ e) => e
              | _ => false
            if let .ok location := t.locateNew (toText path) then
              setTree (t.putAt location (.file (toBytes s.output.reverse.flatten) executable))
            if n ≠ 0 then status := n
        return status
      let mut s := start []
      let mut texts : List (List Char) := []
      let mut messages : List (Nat × List Char) := []
      let mut hasDirectory := false
      for path in if paths.isEmpty then [['-']] else paths do
        if hasDirectory then continue
        match ← readOperand path with
        | .ok text => texts := texts ++ [text]
        | .error reason =>
          hasDirectory := reason = "Is a directory"
          let what := if hasDirectory then "read error on " else "can't read "
          let before := (texts.flatMap linesOf).length
          messages := messages ++ [(before, ofText what ++ path ++ ofText (": " ++ reason))]
      let complete (t : List Char) : List Char :=
        if t.isEmpty || t.getLast? = some '\n' then t else t ++ ['\n']
      let inputs := if has choices 's' then texts
        else [(texts.dropLast.map complete).flatten ++ texts.getLastD []]
      for text in inputs do
        if !s.stopped then
          let (n, t) := cycles found (text.length + 2) true
            { start text with hold := s.hold, written := s.written, output := s.output, owed := s.owed }
          s := t
          if n ≠ 0 then status := n
      emit s.output.reverse.flatten
      for (before, text) in messages do
        if !s.stopped || before < s.number then
          complain "sed" text
          if status = 0 then status := if hasDirectory then 4 else 2
      for path in (found.toList.filterMap writtenPath?).eraseDups do
        let lines := (s.written.filter (·.1 == path)).reverse.flatMap (·.2)
        let t ← tree
        if let .ok location := t.locateNew (toText path) then
          setTree (t.putAt location (.file (toBytes lines) false))
      return status
where
  /-- The text of a file that is edited in its place, or why it cannot be. -/
  nodeKind (path : List Char) : Action (Except (List Char) (List Char)) := do
    match (← tree).find (toText path) with
    | .ok (.file bytes _) => return .ok (ofBytes bytes)
    | .ok _ => return .error (ofText "couldn't edit " ++ path ++ ofText ": not a regular file")
    | .error e => return .error (ofText "can't read " ++ path ++ ofText (": " ++ e.reason))

end Utility
end Shell
end FeatureLadder
