import FeatureLadder.Shell.Pattern

/-!
# Fields

**Input**: what the parts of a word have become, and the characters that separate
fields.

**Algorithm**: text that was written or quoted stays whole.  In what a substitution gave,
a blank separator ends a field together with the blanks around it, and any other
separator ends a field on its own.  The arguments of the script stay apart even when
they are quoted.  Between two of them stands the null character, which no argument can
hold.  The number of fields can be limited; the last one then takes what is left, without
the separators at its end.

**Results**: `Fields.split` gives the fields of a word, and `Fields.share` those of a line
for a number of variables.
-/

namespace FeatureLadder
namespace Shell

/-- What becomes of the text of a chunk when a word is split into fields. -/
inductive Splitting where
  /-- it stays whole -/
  | whole
  | separators
  /-- only null characters separate fields -/
  | nulls
  deriving DecidableEq

/-- What a part of a word has become. -/
inductive Chunk where
  /-- a quote, which keeps a field that is otherwise empty -/
  | mark
  | text (splitting : Splitting) (glyphs : List Glyph)

namespace Chunk

def glyphs : Chunk → List Glyph
  | .mark => []
  | .text _ gs => gs

end Chunk

/-- The glyphs of a word that is not split. -/
def joinChunks (chunks : List Chunk) : List Glyph :=
  chunks.flatMap Chunk.glyphs

namespace Fields

/-- The separators that are used unless others are chosen. -/
def usual : List Char := [' ', '\t', '\n']

/-- The character between two arguments. -/
def null : Char := Char.ofNat 0

/-- How far a word has been split. -/
structure Progress where
  /-- the fields that are complete, latest first -/
  fields : List (List Glyph) := []
  /-- the field that is being read, latest glyph first -/
  current : List Glyph := []
  /-- whether the field that is being read has anything, if only a quote -/
  begun : Bool := false
  /-- whether a blank has just ended a field -/
  afterBlank : Bool := false
  /-- how the latest chunk that could be split was split -/
  latest : Splitting := .separators
  /-- how many fields may still be completed, if there is a limit -/
  room : Option Nat := none
  /-- where the separators at the end of the last field start -/
  tail : Option Nat := none

namespace Progress

/-- Ends the field that is being read. -/
def complete (p : Progress) : Progress :=
  { p with fields := p.current.reverse :: p.fields, current := [], begun := false }

/-- Adds a glyph to the field that is being read. -/
def add (p : Progress) (g : Glyph) : Progress :=
  { p with current := g :: p.current, begun := true }

/-- Reads a glyph of the last field that there is room for. -/
def stepLast (found blank : Bool) (p : Progress) (g : Glyph) : Progress :=
  let place := p.current.length
  if blank then { p.add g with tail := some (p.tail.getD place) }
  else { p.add g with tail := if found && p.afterBlank then p.tail else none, afterBlank := false }

/-- Reads a separator at the end of a field. -/
def separator (blank : Bool) (p : Progress) (g : Glyph) : Progress :=
  if blank && !p.begun then p
  else
    match p.room with
    | some 1 =>
      { p.add g with room := some 0, tail := some p.current.length, afterBlank := blank }
    | room => { p.complete with room := room.map (· - 1), afterBlank := blank }

/-- Reads a glyph where separators count.  With `blanks` the blank ones count together. -/
def step (separators : List Char) (blanks : Bool) (p : Progress) (g : Glyph) : Progress :=
  let found := g.char == null || separators.contains g.char
  let blank := found && (g.char == null || usual.contains g.char)
  if p.room = some 0 then p.stepLast found blank g
  else if p.afterBlank then
    if blank then p
    else if found then { p with afterBlank := false }
    else { p.add g with afterBlank := false }
  else if found then p.separator (blanks && blank) g
  else p.add g

def chunk (separators : List Char) (p : Progress) : Chunk → Progress
  | .mark => { p with begun := true }
  | .text .whole gs => gs.foldl Progress.add p
  | .text .separators gs =>
    let blanks := p.latest != .nulls
    gs.foldl (step separators blanks) { p with afterBlank := false, latest := .separators }
  | .text .nulls gs =>
    gs.foldl (step [] false) { p with afterBlank := false, latest := .nulls }

/-- The fields, when all has been read. -/
def result (p : Progress) : List (List Glyph) :=
  let p :=
    match p.tail with
    | some n => { p with current := p.current.drop (p.current.length - n), begun := n != 0 }
    | none => p
  (if p.begun || p.latest == .nulls then p.complete else p).fields.reverse

end Progress

/-- The fields of a word. -/
def split (separators : List Char) (chunks : List Chunk) : List (List Glyph) :=
  (chunks.foldl (Progress.chunk separators) {}).result

/-- The fields of a line for a number of variables. -/
def share (separators : List Char) (count : Nat) (chunks : List Chunk) : List (List Glyph) :=
  (chunks.foldl (Progress.chunk separators) { room := some count }).result

end Fields
end Shell
end FeatureLadder
