import FeatureLadder.Text.Pieces

/-!
# Cutting what was put together

A text can be put together from pieces in two ways: with a separator between neighbours,
as the features of a command are, or with a separator behind each piece, as the lines of
a listing are.  Cutting at the separator undoes either, as long as no piece holds the
separator; put between neighbours, it also takes at least one piece, because the text of
no pieces and the text of one empty piece are the same.

**Results.**
* `pieces_intercalate_iff`: when pieces with separators between them are found again.
* `pieces_terminated_append`, `dropLast_pieces_terminated`: pieces that each end with the
  separator are found again.
* `pieces_append_of_not_mem`: what is written behind a text joins its last piece.
-/

namespace FeatureLadder
namespace Text

/-- No piece holds the separator. -/
theorem sep_not_mem_of_mem_pieces
    (sep : Char) :
    ∀ s : List Char, ∀ piece ∈ pieces sep s, sep ∉ piece
  | [], piece, hpiece => by
      simp [pieces] at hpiece
      simp [hpiece]
  | c :: rest, piece, hpiece => by
      have ih := sep_not_mem_of_mem_pieces sep rest
      unfold pieces at hpiece
      split at hpiece
      · rcases List.mem_cons.mp hpiece with rfl | hpiece
        · simp
        · exact ih piece hpiece
      · next hc =>
        split at hpiece
        · next hnil => exact absurd hnil (pieces_ne_nil sep rest)
        · next first more hpieces =>
          rw [hpieces] at ih
          rcases List.mem_cons.mp hpiece with rfl | hpiece
          · have hfirst := ih first (by simp)
            simpa [hfirst] using fun h : sep = c => hc h.symm
          · exact ih piece (List.mem_cons_of_mem _ hpiece)

/-- Cutting is the library's splitting of lists. -/
theorem pieces_eq_splitOn
    (sep : Char) :
    ∀ s : List Char, pieces sep s = s.splitOn sep
  | [] => by simp [pieces]
  | c :: rest => by
      rw [pieces, List.splitOn_cons_eq_if_modifyHead, ← pieces_eq_splitOn sep rest]
      by_cases hc : c = sep
      · simp [hc]
      · cases hpieces : pieces sep rest with
        | nil => exact absurd hpieces (pieces_ne_nil sep rest)
        | cons piece more => simp [hc]

/-- A text can be cut on both sides of a separator apart. -/
theorem pieces_append_cons
    (sep : Char)
    (s t : List Char) :
    pieces sep (s ++ sep :: t) = pieces sep s ++ pieces sep t := by
  rw [pieces_eq_splitOn, pieces_eq_splitOn, pieces_eq_splitOn]
  exact List.splitOn_append_cons_self s t

/-- **Pieces with separators between them are found again** exactly if there are any and
none of them holds the separator. -/
theorem pieces_intercalate_iff
    (sep : Char)
    (ps : List (List Char)) :
    pieces sep ([sep].intercalate ps) = ps ↔
      ps ≠ [] ∧ ∀ p ∈ ps, sep ∉ p := by
  constructor
  · intro h
    rw [← h]
    exact ⟨pieces_ne_nil sep _, sep_not_mem_of_mem_pieces sep _⟩
  · rintro ⟨hne, hsep⟩
    rw [pieces_eq_splitOn]
    exact List.splitOn_intercalate sep hsep hne

/-- A text without separator is one piece. -/
theorem pieces_of_not_mem
    {sep : Char}
    {piece : List Char}
    (h : sep ∉ piece) :
    pieces sep piece = [piece] := by
  have hpieces := (pieces_intercalate_iff sep [piece]).mpr ⟨by simp, by simpa using h⟩
  rwa [List.intercalate_singleton] at hpieces

/-- The first separator ends the first piece. -/
theorem pieces_append_sep
    {sep : Char}
    {piece : List Char}
    (h : sep ∉ piece)
    (rest : List Char) :
    pieces sep (piece ++ sep :: rest) = piece :: pieces sep rest := by
  rw [pieces_append_cons, pieces_of_not_mem h, List.singleton_append]

/-- Pieces that each end with the separator are found again in front of any text. -/
theorem pieces_terminated_append
    (sep : Char)
    (rest : List Char) :
    ∀ {ps : List (List Char)}, (∀ p ∈ ps, sep ∉ p) →
      pieces sep (ps.flatMap (· ++ [sep]) ++ rest) = ps ++ pieces sep rest
  | [], _ => rfl
  | p :: more, h => by
      have ih := pieces_terminated_append sep rest (fun q hq => h q (List.mem_cons_of_mem _ hq))
      rw [List.flatMap_cons, List.append_assoc, List.append_assoc, List.singleton_append,
        pieces_append_sep (h p (by simp)), ih, List.cons_append]

/-- In front of nothing, one empty piece is left behind the last. -/
theorem dropLast_pieces_terminated
    (sep : Char)
    {ps : List (List Char)}
    (h : ∀ p ∈ ps, sep ∉ p) :
    (pieces sep (ps.flatMap (· ++ [sep]))).dropLast = ps := by
  have hpieces := pieces_terminated_append sep [] h
  rw [List.append_nil] at hpieces
  rw [hpieces]
  exact List.dropLast_concat

section LastPiece

/-- What stands behind the last separator of a text. -/
def lastPiece (sep : Char) (s : List Char) : List Char :=
  (pieces sep s).getLast (pieces_ne_nil sep s)

/-- Pieces with separators between them: all but the last are terminated. -/
theorem join_eq_terminated_append
    (sep : Char) :
    ∀ {ps : List (List Char)} (hne : ps ≠ []),
      join [sep] ps = ps.dropLast.flatMap (· ++ [sep]) ++ ps.getLast hne
  | [], hne => absurd rfl hne
  | [p], _ => rfl
  | p :: q :: qs, _ => by
      have ih := join_eq_terminated_append sep (List.cons_ne_nil q qs)
      rw [join_cons _ _ (List.cons_ne_nil q qs), ih, List.dropLast_cons_cons, List.flatMap_cons,
        List.getLast_cons (List.cons_ne_nil q qs)]
      simp only [List.append_assoc]

/-- A text is its terminated pieces and its last one. -/
theorem terminated_append_lastPiece
    (sep : Char)
    (s : List Char) :
    (pieces sep s).dropLast.flatMap (· ++ [sep]) ++ lastPiece sep s = s := by
  have h := join_eq_terminated_append sep (pieces_ne_nil sep s)
  rw [join_pieces] at h
  exact h.symm

/-- What is written behind a text joins its last piece. -/
theorem pieces_append_of_not_mem
    {sep : Char}
    (s : List Char)
    {t : List Char}
    (ht : sep ∉ t) :
    pieces sep (s ++ t) = (pieces sep s).dropLast ++ [lastPiece sep s ++ t] := by
  have hsep := sep_not_mem_of_mem_pieces sep s
  have hlast : sep ∉ lastPiece sep s ++ t := by
    have hopen : sep ∉ lastPiece sep s := hsep _ (List.getLast_mem _)
    simp [hopen, ht]
  have hfront : ∀ p ∈ (pieces sep s).dropLast, sep ∉ p :=
    fun p hp => hsep p (List.dropLast_subset _ hp)
  have hs :
      s ++ t = (pieces sep s).dropLast.flatMap (· ++ [sep]) ++ (lastPiece sep s ++ t) := by
    rw [← List.append_assoc, terminated_append_lastPiece]
  rw [hs, pieces_terminated_append sep _ hfront, pieces_of_not_mem hlast]

/-- The last piece is empty exactly if the text is empty or ends with the separator. -/
theorem lastPiece_eq_nil_iff
    (sep : Char)
    (s : List Char) :
    lastPiece sep s = [] ↔ s = [] ∨ ∃ front, s = front ++ [sep] := by
  constructor
  · intro hnil
    have hs := terminated_append_lastPiece sep s
    rw [hnil, List.append_nil] at hs
    rcases List.eq_nil_or_concat (pieces sep s).dropLast with hfront | ⟨front, p, hfront⟩
    · left
      rw [← hs, hfront, List.flatMap_nil]
    · right
      refine ⟨front.flatMap (· ++ [sep]) ++ p, ?_⟩
      rw [← hs, hfront]
      simp
  · rintro (rfl | ⟨front, rfl⟩)
    · rfl
    · have hpieces : pieces sep (front ++ [sep]) = pieces sep front ++ [[]] :=
        pieces_append_cons sep front []
      unfold lastPiece
      simp [hpieces]

end LastPiece

/-- The characters of texts that are written line by line. -/
theorem toList_join_lines
    (texts : List String) :
    (String.join (texts.map (· ++ "\n"))).toList =
      (texts.map String.toList).flatMap (· ++ ['\n']) := by
  rw [String.toList_join, List.flatMap_map, List.flatMap_map]
  simp

end Text
end FeatureLadder
