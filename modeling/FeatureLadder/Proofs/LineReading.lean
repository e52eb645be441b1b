import FeatureLadder.Proofs.Pieces
import FeatureLadder.Proofs.Scanning
import Mathlib.Data.List.TakeWhile

/-!
# Scanning by line feeds alone

A manifest is scanned line by line, and where a line ends is a matter of some care: one
carriage return in front of a line feed belongs to the ending, one at the very end of the
text does not, and an empty rest behind the last line feed is no line.  None of this makes a
difference to what is scanned:

* blanks at the end of a line, carriage returns among them, change neither whether it opens
  the section, nor whether it is a version name, nor the name that it declares;
* an empty line at the end opens nothing and declares nothing.

So scanning may be discussed on the pieces of a text between its line feeds.

**Results.**
* `map_trimEnd_lines`: lines and pieces differ by blanks at their ends and by an empty last
  piece.
* `namesIn_lines`: lines and pieces declare the same names.
* `scan_names`: scanning yields the names that the pieces of the text declare.
-/

namespace FeatureLadder

namespace Text

/-- Blanks at the end are dropped. -/
theorem trimEnd_append_blanks
    (s : List Char)
    {blanks : List Char}
    (h : ∀ c ∈ blanks, isBlank c = true) :
    trimEnd (s ++ blanks) = trimEnd s := by
  unfold trimEnd
  rw [List.reverse_append, List.dropWhile_append_of_pos]
  intro c hc
  exact h c (List.mem_reverse.mp hc)

/-- What is dropped at the end is blank. -/
theorem exists_eq_trimEnd_append
    (s : List Char) :
    ∃ blanks, s = trimEnd s ++ blanks ∧ ∀ c ∈ blanks, isBlank c = true := by
  refine ⟨(s.reverse.takeWhile isBlank).reverse, ?_, ?_⟩
  · unfold trimEnd
    rw [← List.reverse_append, List.takeWhile_append_dropWhile, List.reverse_reverse]
  · intro c hc
    exact List.mem_takeWhile_imp (List.mem_reverse.mp hc)

/-- A text that ends in no blank is left as it is. -/
theorem trimEnd_eq_self
    {s : List Char}
    (h : ∀ c ∈ s.getLast?, isBlank c = false) :
    trimEnd s = s := by
  rcases List.eq_nil_or_concat' s with rfl | ⟨front, c, rfl⟩
  · rfl
  · apply trimEnd_append_singleton
    exact h c (by simp)

/-- What is left of a text ends in no blank. -/
theorem isBlank_getLast?_trimEnd
    (s : List Char) :
    ∀ c ∈ (trimEnd s).getLast?, isBlank c = false := by
  intro c hc
  unfold trimEnd at hc
  rw [List.getLast?_reverse] at hc
  have h := List.head?_dropWhile_not isBlank s.reverse
  rw [Option.mem_def.mp hc] at h
  simpa using h

theorem trim_append_blanks
    (s : List Char)
    {blanks : List Char}
    (h : ∀ c ∈ blanks, isBlank c = true) :
    trim (s ++ blanks) = trim s := by
  unfold trim trimStart
  rw [List.dropWhile_append]
  split
  · next hempty =>
    have hs : s.dropWhile isBlank = [] := by simpa using hempty
    have hblanks : blanks.dropWhile isBlank = [] := List.dropWhile_eq_nil_iff.mpr h
    rw [hs, hblanks]
  · exact trimEnd_append_blanks _ h

/-- A longer text is taken at least as far, and what is taken in addition comes from its
end. -/
theorem exists_takeWhile_append
    {α : Type}
    (p : α → Bool)
    (s t : List α) :
    ∃ more, (s ++ t).takeWhile p = s.takeWhile p ++ more ∧ more <+: t := by
  rw [List.takeWhile_append]
  split
  · next hlen =>
    have hall : s.takeWhile p = s := (List.takeWhile_prefix p).eq_of_length hlen
    exact ⟨t.takeWhile p, by rw [hall], List.takeWhile_prefix p⟩
  · exact ⟨[], by simp, List.nil_prefix⟩

/-- A text occurs in another one if it is a part of it. -/
theorem hasInfix_iff
    (needle : List Char) :
    ∀ s : List Char, hasInfix needle s = true ↔ needle <:+: s
  | [] => by
      rw [hasInfix, List.isEmpty_iff, List.infix_nil]
  | c :: s => by
      rw [hasInfix, Bool.or_eq_true, List.isPrefixOf_iff_prefix, hasInfix_iff needle s,
        List.infix_cons_iff]

section Lines

/-- A line feed ends a line, which loses at most one carriage return. -/
theorem exists_lines_append_lf
    (rest : List Char) :
    ∀ {line : List Char}, '\n' ∉ line →
      ∃ kept,
        lines (line ++ '\n' :: rest) = kept :: lines rest ∧
        (line = kept ∨ line = kept ++ ['\r'])
  | [], _ => ⟨[], lines_lf rest, Or.inl rfl⟩
  | c :: line, hline => by
      have hc := List.ne_of_not_mem_cons hline
      have htail := List.not_mem_of_not_mem_cons hline
      by_cases hcr : c = '\r' ∧ line = []
      · obtain ⟨rfl, rfl⟩ := hcr
        exact ⟨[], lines_crlf rest, Or.inr rfl⟩
      · obtain ⟨kept, hlines, hkept⟩ := exists_lines_append_lf rest htail
        have hopen : c = '\r' → (line ++ '\n' :: rest).head? ≠ some '\n' := by
          rintro rfl
          cases line with
          | nil => exact absurd ⟨rfl, rfl⟩ hcr
          | cons d line =>
              intro hd
              have hd : d = '\n' := by simpa using hd
              exact htail (by simp [hd])
        refine ⟨c :: kept, ?_, ?_⟩
        · rw [List.cons_append, lines_cons (Ne.symm hc) hopen, hlines]
        · rcases hkept with rfl | rfl
          · exact Or.inl rfl
          · exact Or.inr rfl

/-- A last line is kept as it is. -/
theorem lines_of_not_mem :
    ∀ {line : List Char}, '\n' ∉ line → line ≠ [] → lines line = [line]
  | [], _, hne => absurd rfl hne
  | c :: line, hline, _ => by
      have hc := List.ne_of_not_mem_cons hline
      have htail := List.not_mem_of_not_mem_cons hline
      have hopen : c = '\r' → line.head? ≠ some '\n' := by
        intro _ hhead
        exact htail (List.mem_of_mem_head? hhead)
      rw [lines_cons (Ne.symm hc) hopen]
      by_cases hnil : line = []
      · rw [hnil, lines_nil]
      · rw [lines_of_not_mem htail hnil]

theorem map_trimEnd_lines_join :
    ∀ {ps : List (List Char)}, ps ≠ [] → (∀ p ∈ ps, '\n' ∉ p) →
      ∃ last, (last = [] ∨ last = [[]]) ∧
        (lines (join ['\n'] ps)).map trimEnd ++ last = ps.map trimEnd
  | [], hne, _ => absurd rfl hne
  | [p], _, hlf => by
      by_cases hp : p = []
      · subst hp
        exact ⟨[[]], Or.inr rfl, rfl⟩
      · refine ⟨[], Or.inl rfl, ?_⟩
        rw [join, lines_of_not_mem (hlf p (by simp)) hp, List.append_nil]
  | p :: q :: qs, _, hlf => by
      obtain ⟨last, hlast, hrest⟩ :=
        map_trimEnd_lines_join (List.cons_ne_nil q qs)
          (fun r hr => hlf r (List.mem_cons_of_mem _ hr))
      obtain ⟨kept, hlines, hkept⟩ :=
        exists_lines_append_lf (join ['\n'] (q :: qs)) (hlf p (by simp))
      have htrim : trimEnd kept = trimEnd p := by
        rcases hkept with rfl | rfl
        · rfl
        · exact (trimEnd_append_blank kept (by decide)).symm
      refine ⟨last, hlast, ?_⟩
      rw [join_cons _ _ (List.cons_ne_nil q qs), List.append_assoc, List.singleton_append,
        hlines, List.map_cons, htrim, List.cons_append, hrest]
      rfl

/-- **Lines and pieces differ by blanks at their ends and by an empty last piece.** -/
theorem map_trimEnd_lines
    (text : List Char) :
    ∃ last, (last = [] ∨ last = [[]]) ∧
      (lines text).map trimEnd ++ last = (pieces '\n' text).map trimEnd := by
  have h :=
    map_trimEnd_lines_join (pieces_ne_nil '\n' text) (sep_not_mem_of_mem_pieces '\n' text)
  rwa [join_pieces] at h

end Lines

end Text

namespace Version

/-- The version whose name goes on with more text. -/
def extended (v : Version) (more : List Char) (h : NoLeadingDigit more) : Version :=
  { v with
    suffix := v.suffix ++ more
    suffix_start := by
      intro c hc
      cases hs : v.suffix with
      | nil =>
          rw [hs] at hc
          exact h c hc
      | cons d s =>
          rw [hs] at hc
          exact v.suffix_start c (by rw [hs]; exact hc) }

/-- A version name that goes on is a version name. -/
theorem isName_append
    {s more : List Char}
    (hs : isName s = true)
    (hmore : NoLeadingDigit more) :
    isName (s ++ more) = true := by
  obtain ⟨v, hv⟩ := Option.isSome_iff_exists.mp hs
  have hchars : s ++ more = (v.extended more hmore).chars := by
    rw [← chars_of_ofChars? hv]
    simp [chars, extended]
  rw [isName, hchars, ofChars?_chars]
  rfl

/-- Blanks at the end of a line do not make or break a version name. -/
theorem isName_trimEnd
    (s : List Char) :
    isName (Text.trimEnd s) = isName s := by
  rw [Bool.eq_iff_iff]
  constructor
  · intro h
    obtain ⟨blanks, hs, hblank⟩ := Text.exists_eq_trimEnd_append s
    rw [hs]
    apply isName_append h
    intro c hc
    by_contra hdigit
    have hc := hblank c (List.mem_of_mem_head? hc)
    rw [Text.isBlank_of_isDigit (by simpa using hdigit)] at hc
    cases hc
  · intro h
    obtain ⟨v, hv⟩ := Option.isSome_iff_exists.mp h
    obtain ⟨front, d, hstem, hd⟩ := v.exists_stem_eq_append
    let w : Version :=
      { v with
        suffix := Text.trimEnd v.suffix
        suffix_start := noLeadingDigit_of_prefix (Text.trimEnd_isPrefix _) v.suffix_start }
    have hw : Text.trimEnd s = w.chars := by
      have hstem' : w.stem = front ++ [d] := hstem
      rw [← chars_of_ofChars? hv, chars_eq_stem_append, chars_eq_stem_append, hstem', hstem,
        List.append_assoc, List.singleton_append,
        Text.trimEnd_append_cons _ _ (Text.isBlank_of_isDigit hd)]
      simp [w]
    rw [isName, hw, ofChars?_chars]
    rfl

end Version

namespace Manifest

/-- The names that the given lines declare. -/
def namesIn (lines : List (List Char)) : List (List Char) :=
  match afterMarker lines with
  | none => []
  | some rest => (rest.takeWhile Version.isName).map declaredName

section Blanks

theorem opensSection_iff
    (line : List Char) :
    opensSection line = true ↔ marker.toList <:+: line :=
  Text.hasInfix_iff _ _

theorem marker_eq : marker.toList = "[features".toList ++ [']'] := by
  decide

/-- Blanks at the end of a line do not make or break the opening of the section. -/
theorem opensSection_trimEnd
    (line : List Char) :
    opensSection (Text.trimEnd line) = opensSection line := by
  rw [Bool.eq_iff_iff, opensSection_iff, opensSection_iff]
  constructor
  · intro h
    exact h.trans (Text.trimEnd_isPrefix line).isInfix
  · rintro ⟨before, after, rfl⟩
    refine ⟨before, Text.trimEnd after, ?_⟩
    rw [marker_eq, ← List.append_assoc, List.append_assoc (before ++ _),
      List.append_assoc (before ++ _), List.singleton_append, List.singleton_append,
      Text.trimEnd_append_cons _ _ (by decide)]

/-- Blanks at the end of a line do not change the name that it declares. -/
theorem declaredName_trimEnd
    (line : List Char) :
    declaredName (Text.trimEnd line) = declaredName line := by
  obtain ⟨blanks, hline, hblank⟩ := Text.exists_eq_trimEnd_append line
  obtain ⟨more, htake, hmore⟩ :=
    Text.exists_takeWhile_append (· ≠ '=') (Text.trimEnd line) blanks
  rw [← hline] at htake
  unfold declaredName
  rw [htake, Text.trim_append_blanks _ (fun c hc => hblank c (hmore.subset hc))]

theorem afterMarker_map_trimEnd :
    ∀ lines : List (List Char),
      afterMarker (lines.map Text.trimEnd) = (afterMarker lines).map (List.map Text.trimEnd)
  | [] => rfl
  | line :: rest => by
      rw [List.map_cons, afterMarker, afterMarker, opensSection_trimEnd,
        afterMarker_map_trimEnd rest]
      split <;> rfl

/-- Blanks at the ends of lines do not change what is declared. -/
theorem namesIn_map_trimEnd
    (lines : List (List Char)) :
    namesIn (lines.map Text.trimEnd) = namesIn lines := by
  unfold namesIn
  rw [afterMarker_map_trimEnd]
  cases afterMarker lines with
  | none => rfl
  | some rest =>
      have hname : Version.isName ∘ Text.trimEnd = Version.isName :=
        funext Version.isName_trimEnd
      have hdeclared : declaredName ∘ Text.trimEnd = declaredName :=
        funext declaredName_trimEnd
      simp only [Option.map_some]
      rw [List.takeWhile_map, hname, List.map_map, hdeclared]

end Blanks

theorem afterMarker_append_empty :
    ∀ lines : List (List Char),
      afterMarker (lines ++ [[]]) = (afterMarker lines).map (· ++ [[]])
  | [] => by decide
  | line :: rest => by
      rw [List.cons_append, afterMarker, afterMarker, afterMarker_append_empty rest]
      split <;> rfl

/-- An empty line at the end declares nothing. -/
theorem namesIn_append_empty
    (lines : List (List Char)) :
    namesIn (lines ++ [[]]) = namesIn lines := by
  unfold namesIn
  rw [afterMarker_append_empty]
  cases afterMarker lines with
  | none => rfl
  | some rest =>
      obtain ⟨more, htake, hmore⟩ := Text.exists_takeWhile_append Version.isName rest [[]]
      have hnone : more = [] := by
        rw [List.eq_nil_iff_forall_not_mem]
        intro line hline
        have hempty : line = [] := List.mem_singleton.mp (hmore.subset hline)
        have htaken : line ∈ (rest ++ [[]]).takeWhile Version.isName := by
          rw [htake]
          exact List.mem_append_right _ hline
        have hname := List.mem_takeWhile_imp htaken
        rw [hempty] at hname
        revert hname
        decide
      rw [hnone, List.append_nil] at htake
      simp only [Option.map_some, htake]

/-- **Lines and pieces declare the same names.** -/
theorem namesIn_lines
    (text : List Char) :
    namesIn (Text.lines text) = namesIn (Text.pieces '\n' text) := by
  obtain ⟨last, hlast, hlines⟩ := Text.map_trimEnd_lines text
  rw [← namesIn_map_trimEnd (Text.pieces '\n' text), ← hlines,
    ← namesIn_map_trimEnd (Text.lines text)]
  rcases hlast with rfl | rfl
  · rw [List.append_nil]
  · rw [namesIn_append_empty]

/-- **Scanning yields the names that the pieces of a text declare.** -/
theorem scan_names
    (text : List Char) :
    ∃ c : Catalog,
      scan text = .ok c ∧ c.versions.map Version.chars = namesIn (Text.pieces '\n' text) := by
  refine ⟨_, scan_eq_ok text, ?_⟩
  rw [← namesIn_lines]
  unfold sectionVersions block? namesIn
  cases afterMarker (Text.lines text) with
  | none => rfl
  | some rest =>
      have hnames : ∀ line ∈ rest.takeWhile Version.isName, Version.isName line = true :=
        fun line hline => List.mem_takeWhile_imp hline
      have hchars := map_chars_filterMap_ofChars? _ hnames
      have hcut : Version.chars ∘ Version.cut = declaredName ∘ Version.chars :=
        funext fun v => (declaredName_chars v).symm
      simp only [Option.map_some]
      rw [List.map_map, hcut, ← List.map_map, hchars]

end Manifest
end FeatureLadder
