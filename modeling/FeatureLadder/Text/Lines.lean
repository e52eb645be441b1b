/-!
# Lines of a text

**Input**: a text as a list of characters.  A line ends at a line feed, and one
carriage return right before that line feed belongs to the line ending.  What
follows the last line feed is a line of its own unless it is empty, and it keeps
every carriage return it has.
-/

namespace FeatureLadder
namespace Text

/-- The lines of a text, without their endings. -/
def lines : List Char → List (List Char)
  | [] => []
  | '\n' :: rest => [] :: lines rest
  | '\r' :: '\n' :: rest => [] :: lines rest
  | c :: rest =>
    match lines rest with
    | [] => [[c]]
    | line :: more => (c :: line) :: more

@[simp] theorem lines_nil : lines [] = [] := rfl

@[simp] theorem lines_lf (rest : List Char) :
    lines ('\n' :: rest) = [] :: lines rest := by
  rw [lines]

@[simp] theorem lines_crlf (rest : List Char) :
    lines ('\r' :: '\n' :: rest) = [] :: lines rest := by
  rw [lines]

/-- A character that starts no line ending joins the first line of what follows. -/
theorem lines_cons
    {c : Char} {rest : List Char}
    (hlf : c ≠ '\n') (hcr : c = '\r' → rest.head? ≠ some '\n') :
    lines (c :: rest) =
      match lines rest with
      | [] => [[c]]
      | line :: more => (c :: line) :: more := by
  rw [lines.eq_def]
  split
  · contradiction
  · simp_all
  · simp_all
  · simp_all

end Text
end FeatureLadder
