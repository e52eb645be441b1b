import FeatureLadder.FileTree
import FeatureLadder.Shell.Pattern

/-!
# File names that match a pattern

**Input**: a file tree, and the glyphs of a word.

**Algorithm**: the word is cut at its slashes.  A piece with characters that make it a
pattern is replaced by each entry of the directory reached so far that it accepts; any
other piece stands for itself.  An entry whose name starts with a dot is met only by a
piece that starts with a dot.

**Results**: `FileTree.glob` gives the paths that exist, in the order of their bytes.
-/

namespace FeatureLadder
namespace Shell

/-- The pieces of a word between slashes. -/
def slashPieces : List Glyph → List (List Glyph)
  | [] => [[]]
  | g :: gs =>
    match slashPieces gs with
    | piece :: more => if g.char = '/' then [] :: piece :: more else (g :: piece) :: more
    | [] => [[g]]

/-- The text of a piece without the backslashes that quote. -/
def unescaped : List Glyph → List Char
  | [] => []
  | g :: h :: gs => if g.isActive '\\' then h.char :: unescaped gs else g.char :: unescaped (h :: gs)
  | [g] => [g.char]

/-- The names of a directory, and of itself and the one above. -/
def directoryNames (t : FileTree) (path : List Char) : List (List Char) :=
  match t.find (if path.isEmpty then "." else toText path) with
  | .ok (.directory entries) => ['.'] :: ['.', '.'] :: entries.map fun e => ofText e.1
  | _ => []

/-- Whether a piece accepts the name of an entry. -/
def acceptsName (piece : List Glyph) (name : List Char) : Bool :=
  let dotted := (unescaped piece).head? = some '.'
  (dotted || name.head? ≠ some '.') && Pattern.accepts piece name

/-- The paths that the pieces of a word lead to, each behind what stands before it. -/
def globFrom (t : FileTree) : List Char → List (List Glyph) → List (List Char)
  | path, [] => [path]
  | path, [piece] =>
    if Pattern.isActive piece then
      ((directoryNames t path).filter (acceptsName piece)).map (path ++ ·)
    else
      let whole := path ++ unescaped piece
      match t.find (toText whole) false with
      | .ok _ => [whole]
      | .error _ => []
  | path, piece :: more =>
    if Pattern.isActive piece then
      ((directoryNames t path).filter (acceptsName piece)).flatMap fun name =>
        globFrom t (path ++ name ++ ['/']) more
    else globFrom t (path ++ unescaped piece ++ ['/']) more

/-- The paths that a word stands for; none if it is no pattern or matches nothing. -/
def glob (t : FileTree) (gs : List Glyph) : List (List Char) :=
  if Pattern.isActive gs then (globFrom t [] (slashPieces gs)).mergeSort bytesLe else []

end Shell
end FeatureLadder
