import FeatureLadder.Log.Entry
import FeatureLadder.Text.Alphanumeric
import FeatureLadder.Text.Blank
import FeatureLadder.Text.Pieces
import FeatureLadder.Text.Utf8

/-!
# Which entries are shown

**Input**: a filter text, made of directives with commas between them.  A directive is
a level, or the start of a source with or without a level.  A level is a name in either
case or a number.

**Algorithm**: the sign between source and level is looked for in a directive without the
blanks around it, and its place is counted from there, but the parts are cut out of the
directive with its blanks.  So a directive with blanks around it names a source that does
not exist, or no level.  For each source the directive with the longest matching start
decides, and of two that are equally long the later one.  A directive without level lets
everything pass, and a filter without directives lets only errors pass.

**Results**: `Filter.show?` drops the entries that do not pass and, from those that do,
the spans that do not.
-/

namespace FeatureLadder
namespace Log

/-- The part of a filter that concerns some sources. -/
structure Directive where
  /-- the start of the sources that are meant; every source if there is none -/
  start : Option String
  /-- the rank of the least important level that passes; zero lets nothing pass -/
  limit : Nat
  deriving DecidableEq

/-- A filter, directive by directive. -/
abbrev Filter := List Directive

/-- The number that decimal digits write, perhaps behind a plus sign. -/
def number? (s : List Char) : Option Nat :=
  let digits := match s with
    | '+' :: rest => rest
    | _ => s
  if digits.isEmpty || !digits.all Char.isDigit then none
  else some (digits.foldl (fun n c => 10 * n + (c.toNat - 0x30)) 0)

/-- The limit that a level's name or number stands for. -/
def limit? (s : List Char) : Option Nat :=
  let names := "off" :: Level.all.map Level.name
  match number? s with
  | some n => if n < names.length then some n else none
  | none => names.findIdx? (· == (String.ofList s).toLower)

/-- Whether a directive may start with a character. -/
def isDirectiveStart (c : Char) : Bool :=
  Text.isAlphanumeric c || c == '_' || c == ':' || c == '-'

/-- A text cut behind some number of bytes; a character that lies across stays in front. -/
def cutAtByte : Nat → List Char → List Char × List Char
  | _, [] => ([], [])
  | n, c :: cs =>
    if n = 0 then ([], c :: cs)
    else
      let (front, back) := cutAtByte (n - c.utf8Size) cs
      (c :: front, back)

def Directive.ofChars? (s : List Char) : Option Directive :=
  let seen := Text.trim s
  let before := seen.takeWhile (· ≠ '=')
  if !seen.head?.any isDirectiveStart || before.contains '[' then none
  else if before.length = seen.length then
    match limit? s with
    | some limit => some { start := none, limit := limit }
    | none => some { start := some (String.ofList s), limit := Level.trace.rank }
  else
    let (start, rest) := cutAtByte (Utf8.encode before).length s
    let directive (limit : Nat) : Directive :=
      { start := some (String.ofList start), limit := limit }
    match (cutAtByte 1 rest).2 with
    | [] => some (directive Level.trace.rank)
    | level => (limit? level).map directive

/-- Whether a directive concerns a source. -/
def Directive.concerns (d : Directive) (source : String) : Bool :=
  match d.start with
  | none => true
  | some start => start.toList.isPrefixOf source.toList

/-- How much of a source a directive fixes. -/
def Directive.weight (d : Directive) : Nat :=
  match d.start with
  | none => 0
  | some start => start.length

namespace Filter

def ofString? (s : String) : Option Filter :=
  match ((Text.pieces ',' s.toList).filter (!·.isEmpty)).mapM Directive.ofChars? with
  | none => none
  | some [] => some [{ start := none, limit := Level.error.rank }]
  | some directives => some directives

/-- The filter that shows the program's own entries down to a level. -/
def standard (level : Level) : Filter :=
  [{ start := some "vtest", limit := level.rank },
    { start := some "vtest_core", limit := level.rank }]

/-- The text of the standard filter. -/
def standardText (level : Level) : String :=
  "vtest=" ++ level.name ++ ",vtest_core=" ++ level.name

/-- The directive that decides about a source. -/
def deciding (f : Filter) (source : String) : Option Directive :=
  (f.filter (·.concerns source)).foldl pick none
where
  /-- The heavier of two directives, the second if they are equally heavy. -/
  pick (best : Option Directive) (d : Directive) : Option Directive :=
    match best with
    | none => some d
    | some b => if b.weight ≤ d.weight then some d else some b

/-- Whether something of a source and a level is shown. -/
def passes (f : Filter) (source : String) (level : Level) : Bool :=
  match f.deciding source with
  | none => false
  | some d => level.rank ≤ d.limit

/-- The entry as the filter shows it, if it does. -/
def show? (f : Filter) (e : Entry) : Option Entry :=
  if f.passes e.source e.level then
    some { e with spans := e.spans.filter fun s => f.passes s.source .info }
  else none

end Filter
end Log
end FeatureLadder
