import FeatureLadder.Text.Pieces

/-!
# Paths

**Input**: a path whose pieces are separated by slashes.

**Algorithm**: a path starts with its root if it is absolute, or with the current
directory if its first piece is a single dot.  Of the pieces behind that start, empty
ones and single dots mean nothing.  The parent of a path is what stands before its
last meaningful piece, without separators and dots at its end.

**Results**: `Path.text_cut` says that cutting a path loses nothing.
-/

namespace FeatureLadder
namespace Path

/-- A path cut into its start and the pieces behind it. -/
structure Cut where
  /-- a slash, a dot, or nothing -/
  start : List Char
  pieces : List (List Char)

def cut : List Char → Cut
  | '/' :: body => ⟨['/'], Text.pieces '/' body⟩
  | ['.'] => ⟨['.'], [[]]⟩
  | '.' :: '/' :: body => ⟨['.'], [] :: Text.pieces '/' body⟩
  | body => ⟨[], Text.pieces '/' body⟩

/-- The path that was cut. -/
def Cut.text (c : Cut) : List Char :=
  c.start ++ Text.join ['/'] c.pieces

/-- Whether a piece means nothing behind the start of a path. -/
def isIdle (piece : List Char) : Bool :=
  piece == [] || piece == ['.']

/-- What a path names, one component after the other. -/
inductive Component where
  | root
  | here
  /-- a name, or two dots for the directory above -/
  | name (piece : List Char)
  deriving DecidableEq

/-- The components of a path: its root if it starts with a slash, the current directory if
its first piece is a single dot, and then every piece that means something. -/
def components (path : List Char) : List Component :=
  let pieces := Text.pieces '/' path
  let first :=
    if path.head? = some '/' then [.root]
    else if pieces.head? = some ['.'] then [.here]
    else []
  first ++ (pieces.filter (!isIdle ·)).map .name

/-- What stands before the last meaningful piece of a path, if there is one and
anything stands before it. -/
def parentChars? (path : List Char) : Option (List Char) :=
  let c := cut path
  match c.pieces.reverse.dropWhile isIdle with
  | [] => none
  | _ :: before =>
    let parent := { c with pieces := (before.dropWhile isIdle).reverse }.text
    if parent.isEmpty then none else some parent

/-- The directory part of a path. -/
def parent? (path : String) : Option String :=
  (parentChars? path.toList).map String.ofList

/-- Cutting a path loses nothing. -/
theorem text_cut (path : List Char) : (cut path).text = path := by
  unfold cut
  split
  · simp [Cut.text, Text.join_pieces]
  · rfl
  · next body =>
    simp [Cut.text, Text.join_cons _ _ (Text.pieces_ne_nil _ _), Text.join_pieces]
  · simp [Cut.text, Text.join_pieces]

end Path
end FeatureLadder
