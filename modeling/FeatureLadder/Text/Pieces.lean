/-!
# Pieces of a text

Cutting a text at a separator, putting the pieces together again, and looking for
one text inside another.

**Results**: `join_pieces` says that cutting loses nothing, and
`pieces_ne_nil` that there is always at least one piece.
-/

namespace FeatureLadder
namespace Text

/-- The pieces of a text between the occurrences of a separator; the empty text has
one empty piece. -/
def pieces (sep : Char) : List Char → List (List Char)
  | [] => [[]]
  | c :: rest =>
    if c = sep then [] :: pieces sep rest
    else
      match pieces sep rest with
      | [] => [[c]]
      | piece :: more => (c :: piece) :: more

/-- Texts put together with a separator between neighbours. -/
def join (sep : List Char) : List (List Char) → List Char
  | [] => []
  | [piece] => piece
  | piece :: more => piece ++ sep ++ join sep more

theorem pieces_ne_nil (sep : Char) : ∀ s : List Char, pieces sep s ≠ []
  | [] => by simp [pieces]
  | c :: rest => by
      rw [pieces]
      split
      · simp
      · split <;> simp

theorem join_cons
    (sep piece : List Char) {more : List (List Char)} (h : more ≠ []) :
    join sep (piece :: more) = piece ++ sep ++ join sep more := by
  cases more with
  | nil => contradiction
  | cons q qs => rfl

/-- Cutting at a separator loses nothing. -/
theorem join_pieces (sep : Char) : ∀ s : List Char, join [sep] (pieces sep s) = s
  | [] => rfl
  | c :: rest => by
      have ih := join_pieces sep rest
      rw [pieces]
      split
      · next h =>
        subst h
        rw [join_cons _ _ (pieces_ne_nil _ _), ih]
        simp
      · split
        · next h => exact absurd h (pieces_ne_nil sep rest)
        · next piece more h =>
          rw [h] at ih
          cases more with
          | nil => simpa [join] using ih
          | cons q qs => simpa [join] using ih

/-- Whether `needle` occurs somewhere in a text. -/
def hasInfix (needle : List Char) : List Char → Bool
  | [] => needle.isEmpty
  | c :: rest => needle.isPrefixOf (c :: rest) || hasInfix needle rest

end Text
end FeatureLadder
