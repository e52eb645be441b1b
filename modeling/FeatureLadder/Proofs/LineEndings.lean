import FeatureLadder.Proofs.Writing

/-!
# Line endings make no difference to a scan

**Input**: any text, whatever mixture of line feeds and carriage returns it holds.

A carriage return in front of every line feed is not simply dropped again: a line that ended
in carriage returns before keeps one more of them, and the line behind the last line feed gets
none.  The lines that are scanned do differ.  What carries the proof is that the pieces of a
text between its line feeds may be changed in two ways without any change to the scan:

* by blanks at the end of a piece, and a carriage return is one;
* by an empty piece behind the last.

**Results.**
* `map_trimEnd_pieces_withReturns`: carriage returns in front of line feeds are blanks at the
  ends of pieces.
* `scan_congr`: pieces that agree but for blanks at their ends are scanned alike.
* `scan_ignores_line_endings`: one catalog for a text, for the text with carriage returns and
  for the text with one more line feed.
-/

namespace FeatureLadder

namespace Text

/-- A text with a carriage return in front of every line feed. -/
def withReturns (text : List Char) : List Char :=
  text.flatMap fun c => if c = '\n' then ['\r', '\n'] else [c]

theorem withReturns_of_not_mem :
    ∀ {line : List Char}, '\n' ∉ line → withReturns line = line
  | [], _ => rfl
  | c :: line, hline => by
      have hc : c ≠ '\n' := Ne.symm (List.ne_of_not_mem_cons hline)
      have ih := withReturns_of_not_mem (List.not_mem_of_not_mem_cons hline)
      unfold withReturns at ih ⊢
      rw [List.flatMap_cons, if_neg hc, ih, List.singleton_append]

/-- The first line feed gets its carriage return. -/
theorem withReturns_append_lf
    {line : List Char}
    (hline : '\n' ∉ line)
    (rest : List Char) :
    withReturns (line ++ '\n' :: rest) = line ++ '\r' :: '\n' :: withReturns rest := by
  have hkept := withReturns_of_not_mem hline
  unfold withReturns at hkept ⊢
  rw [List.flatMap_append, List.flatMap_cons, hkept]
  rfl

/-- Carriage returns in front of line feeds stand at the ends of all lines but the last. -/
theorem map_trimEnd_pieces_withReturns_join :
    ∀ {ps : List (List Char)}, ps ≠ [] → (∀ p ∈ ps, '\n' ∉ p) →
      (pieces '\n' (withReturns (join ['\n'] ps))).map trimEnd = ps.map trimEnd
  | [], hne, _ => absurd rfl hne
  | [p], _, hlf => by
      have hp : '\n' ∉ p := hlf p (by simp)
      rw [join, withReturns_of_not_mem hp, pieces_of_not_mem hp]
  | p :: q :: qs, _, hlf => by
      have hp : '\n' ∉ p := hlf p (by simp)
      have hreturn : '\n' ∉ p ++ ['\r'] := by
        simpa using hp
      have ih :=
        map_trimEnd_pieces_withReturns_join (List.cons_ne_nil q qs)
          (fun r hr => hlf r (List.mem_cons_of_mem _ hr))
      rw [join_cons _ _ (List.cons_ne_nil q qs), List.append_assoc, List.singleton_append,
        withReturns_append_lf hp, List.append_cons, pieces_append_sep hreturn, List.map_cons, ih,
        trimEnd_append_blank p (by decide)]
      rfl

/-- **Carriage returns in front of line feeds are blanks at the ends of pieces.** -/
theorem map_trimEnd_pieces_withReturns
    (text : List Char) :
    (pieces '\n' (withReturns text)).map trimEnd = (pieces '\n' text).map trimEnd := by
  have h :=
    map_trimEnd_pieces_withReturns_join (pieces_ne_nil '\n' text)
      (sep_not_mem_of_mem_pieces '\n' text)
  rwa [join_pieces] at h

end Text

namespace Manifest

/-- Texts whose pieces declare the same names are scanned alike. -/
theorem scan_eq_scan_of_namesIn
    {text other : List Char}
    (h : namesIn (Text.pieces '\n' other) = namesIn (Text.pieces '\n' text)) :
    scan other = scan text := by
  obtain ⟨c, hscan, hnames⟩ := scan_names text
  rw [hscan]
  exact scan_eq_of_namesIn (h.trans hnames.symm)

/-- **Pieces that agree but for blanks at their ends are scanned alike.** -/
theorem scan_congr
    {text other : List Char}
    (h : (Text.pieces '\n' other).map Text.trimEnd = (Text.pieces '\n' text).map Text.trimEnd) :
    scan other = scan text := by
  apply scan_eq_scan_of_namesIn
  rw [← namesIn_map_trimEnd, h, namesIn_map_trimEnd]

/-- A line feed at the end of a text adds an empty piece, which declares nothing. -/
theorem scan_append_lf
    (text : List Char) :
    scan (text ++ ['\n']) = scan text := by
  apply scan_eq_scan_of_namesIn
  have hpieces : Text.pieces '\n' (text ++ ['\n']) = Text.pieces '\n' text ++ [[]] :=
    Text.pieces_append_cons '\n' text []
  rw [hpieces, namesIn_append_empty]

/-- **Scanning does not depend on line endings.**  One and the same catalog is scanned from a
text, from the text with every line feed replaced by a carriage return and a line feed, and
from the text with one more line feed at its end. -/
theorem scan_ignores_line_endings
    (text : List Char) :
    ∃ c : Catalog,
      scan text = .ok c ∧
      scan (Text.withReturns text) = .ok c ∧
      scan (text ++ ['\n']) = .ok c := by
  obtain ⟨c, hscan, -⟩ := scan_names text
  refine ⟨c, hscan, ?_, ?_⟩
  · rw [scan_congr (Text.map_trimEnd_pieces_withReturns text), hscan]
  · rw [scan_append_lf, hscan]

/-- The lines themselves are not the same: a second carriage return stays. -/
example :
    Text.lines (Text.withReturns ['a', '\r', '\n']) = [['a', '\r']] ∧
      Text.lines ['a', '\r', '\n'] = [['a']] := by
  decide

end Manifest
end FeatureLadder
