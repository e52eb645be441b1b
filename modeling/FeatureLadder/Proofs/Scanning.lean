import FeatureLadder.Manifest
import Mathlib.Data.List.Basic

/-!
# What scanning a manifest yields

**Input.**  The text of a manifest.

A line of the section is, as a whole, the name of some version `v`.  The name that it
declares is cut from it: what stands in front of the first equals sign, without the
blanks at its end.  Neither step touches the digits, so what is left is again the name
of a version, `v.cut`, with the same digits and a shorter suffix.

**Results.**
* `declaredName_chars`: the declared name is the name of the version that was cut.
* `scan_eq_ok`: scanning never fails, and yields the cut versions of the section.
* `lf_not_mem_scanned`: no scanned name holds a line feed.
* `scanning_total`: no text is refused, and no line of the section loses its digits.
-/

namespace FeatureLadder

namespace Text

/-- A line does not hold the line feed that ends it. -/
theorem lf_not_mem_of_mem_lines
    (text : List Char) :
    ∀ line ∈ lines text, '\n' ∉ line := by
  fun_induction lines text with
  | case1 => simp
  | case2 rest ih =>
      intro line hline
      rcases List.mem_cons.mp hline with rfl | hline
      · simp
      · exact ih line hline
  | case3 rest ih =>
      intro line hline
      rcases List.mem_cons.mp hline with rfl | hline
      · simp
      · exact ih line hline
  | case4 c rest hlf _ hnil _ =>
      intro line hline
      obtain rfl := List.mem_singleton.mp hline
      simpa using fun h : '\n' = c => hlf h.symm
  | case5 c rest hlf _ first more hlines ih =>
      intro line hline
      rw [hlines] at ih
      rcases List.mem_cons.mp hline with rfl | hline
      · have hfirst := ih first (by simp)
        simpa [hfirst] using fun h : '\n' = c => hlf h.symm
      · exact ih line (List.mem_cons_of_mem _ hline)

/-- Digits are not blank. -/
theorem isBlank_of_isDigit
    {c : Char}
    (hc : c.isDigit = true) :
    isBlank c = false := by
  have hrange : 48 ≤ c.toNat ∧ c.toNat ≤ 57 := by
    simpa [Char.isDigit, UInt32.le_iff_toNat_le] using hc
  simp only [isBlank, Bool.or_eq_false_iff, Bool.and_eq_false_iff, decide_eq_false_iff_not,
    beq_eq_false_iff_ne]
  omega

/-- Trimming stops at a character that is not blank. -/
theorem trimEnd_append_cons
    (s t : List Char)
    {c : Char}
    (hc : isBlank c = false) :
    trimEnd (s ++ c :: t) = s ++ c :: trimEnd t := by
  have hrev : (s ++ c :: t).reverse = t.reverse ++ c :: s.reverse := by simp
  unfold trimEnd
  rw [hrev, List.dropWhile_append]
  split
  · next hempty =>
    have hnil : t.reverse.dropWhile isBlank = [] := by simpa using hempty
    simp [hnil, hc]
  · simp

/-- What is left of a text stands at its start. -/
theorem trimEnd_isPrefix
    (s : List Char) :
    trimEnd s <+: s := by
  have h : s.reverse.dropWhile isBlank <:+ s.reverse := List.dropWhile_suffix _
  rw [← List.reverse_prefix, List.reverse_reverse] at h
  exact h

end Text

namespace Version

/-- A suffix that is cut still does not start with a digit. -/
theorem noLeadingDigit_of_prefix
    {s t : List Char}
    (hpre : t <+: s)
    (hs : NoLeadingDigit s) :
    NoLeadingDigit t := by
  intro c hc
  obtain ⟨rest, rfl⟩ := hpre
  cases t with
  | nil => cases hc
  | cons d t =>
      exact hs c hc

/-- The part of a suffix that belongs to a declared name. -/
def cutSuffix (s : List Char) : List Char :=
  Text.trimEnd (s.takeWhile (· ≠ '='))

theorem cutSuffix_isPrefix
    (s : List Char) :
    cutSuffix s <+: s := by
  have hcut : s.takeWhile (· ≠ '=') <+: s := List.takeWhile_prefix _
  exact (Text.trimEnd_isPrefix _).trans hcut

/-- The version that a line declares, if the line as a whole is the name of `v`. -/
def cut (v : Version) : Version :=
  { v with
    suffix := cutSuffix v.suffix
    suffix_start := noLeadingDigit_of_prefix (cutSuffix_isPrefix v.suffix) v.suffix_start }

@[simp] theorem cut_majorDigits (v : Version) : v.cut.majorDigits = v.majorDigits := rfl

@[simp] theorem cut_minorDigits (v : Version) : v.cut.minorDigits = v.minorDigits := rfl

@[simp] theorem cut_suffix (v : Version) : v.cut.suffix = cutSuffix v.suffix := rfl

/-- A name without its suffix. -/
def stem (v : Version) : List Char :=
  'v' :: v.majorDigits ++ '-' :: v.minorDigits

theorem chars_eq_stem_append
    (v : Version) :
    v.chars = v.stem ++ v.suffix := rfl

theorem cut_stem
    (v : Version) :
    v.cut.stem = v.stem := rfl

/-- A cut name is the start of the whole. -/
theorem cut_chars_isPrefix
    (v : Version) :
    v.cut.chars <+: v.chars := by
  rw [chars_eq_stem_append, chars_eq_stem_append, cut_stem, cut_suffix]
  exact List.prefix_append_right_inj _ |>.mpr (cutSuffix_isPrefix v.suffix)

theorem ne_equals_of_mem_stem
    (v : Version) :
    ∀ c ∈ v.stem, c ≠ '=' := by
  have hdigit : ∀ ds : List Char, IsDigitRun ds → ∀ c ∈ ds, c ≠ '=' := by
    rintro ds ⟨-, hall⟩ c hc rfl
    simpa using List.all_eq_true.mp hall '=' hc
  intro c hc
  rcases List.mem_append.mp hc with hc | hc
  · rcases List.mem_cons.mp hc with rfl | hc
    · decide
    · exact hdigit _ v.major_run c hc
  · rcases List.mem_cons.mp hc with rfl | hc
    · decide
    · exact hdigit _ v.minor_run c hc

/-- The digits of a version end with a digit. -/
theorem exists_stem_eq_append
    (v : Version) :
    ∃ (front : List Char) (d : Char), v.stem = front ++ [d] ∧ d.isDigit = true := by
  obtain ⟨hne, hall⟩ := v.minor_run
  refine
    ⟨'v' :: v.majorDigits ++ '-' :: v.minorDigits.dropLast,
      v.minorDigits.getLast hne, ?_, ?_⟩
  · unfold stem
    conv_lhs => rw [← List.dropLast_append_getLast hne]
    simp
  · exact List.all_eq_true.mp hall _ (List.getLast_mem hne)

end Version

namespace Manifest

/-- **The name that a line declares is the name of a version again.** -/
theorem declaredName_chars
    (v : Version) :
    declaredName v.chars = v.cut.chars := by
  obtain ⟨front, d, hstem, hd⟩ := v.exists_stem_eq_append
  have hall : ∀ c ∈ v.stem, decide (c ≠ '=') = true := by
    intro c hc
    simpa using v.ne_equals_of_mem_stem c hc
  have hcut :
      v.chars.takeWhile (· ≠ '=') = v.stem ++ v.suffix.takeWhile (· ≠ '=') := by
    rw [Version.chars_eq_stem_append, List.takeWhile_append_of_pos hall]
  have hstart :
      Text.trimStart (v.stem ++ v.suffix.takeWhile (· ≠ '=')) =
        v.stem ++ v.suffix.takeWhile (· ≠ '=') :=
    Text.trimStart_cons _ (by decide)
  have hend :
      Text.trimEnd (v.stem ++ v.suffix.takeWhile (· ≠ '=')) =
        v.stem ++ Version.cutSuffix v.suffix := by
    rw [hstem, List.append_assoc, List.singleton_append,
      Text.trimEnd_append_cons _ _ (Text.isBlank_of_isDigit hd)]
    simp [Version.cutSuffix]
  unfold declaredName Text.trim
  rw [hcut, hstart, hend]
  rfl

/-- The versions whose names are the lines of the section, as they stand. -/
def sectionVersions (text : List Char) : List Version :=
  match block? text with
  | none => []
  | some b => b.declarations.filterMap Version.ofChars?

/-- Lines that are version names are the names of the versions read from them. -/
theorem map_chars_filterMap_ofChars?
    (lines : List (List Char))
    (hnames : ∀ line ∈ lines, Version.isName line = true) :
    (lines.filterMap Version.ofChars?).map Version.chars = lines := by
  induction lines with
  | nil => rfl
  | cons line rest ih =>
      have hline := hnames line (by simp)
      obtain ⟨v, hv⟩ := Option.isSome_iff_exists.mp hline
      have hrest := ih (fun l hl => hnames l (List.mem_cons_of_mem _ hl))
      rw [List.filterMap_cons_some hv, List.map_cons, hrest, Version.chars_of_ofChars? hv]

theorem mapM_readChars_chars
    (versions : List Version) :
    (versions.map Version.chars).mapM
        (fun line => Version.readChars (declaredName line)) =
      .ok (versions.map Version.cut) := by
  induction versions with
  | nil => rfl
  | cons v rest ih =>
      rw [List.map_cons, List.mapM_cons, ih, declaredName_chars, Version.readChars_chars]
      rfl

/-- **Scanning never fails.**  It yields the cut versions of the section. -/
theorem scan_eq_ok
    (text : List Char) :
    scan text = .ok ⟨(sectionVersions text).map Version.cut⟩ := by
  rw [scan_eq]
  unfold sectionVersions
  cases hblock : block? text with
  | none => rfl
  | some b =>
      have hnames : ∀ line ∈ b.declarations, Version.isName line = true := by
        intro line hline
        obtain ⟨lines, -, rfl⟩ := Option.map_eq_some_iff.mp hblock
        exact List.all_eq_true.mp List.all_takeWhile line hline
      have hread := mapM_readChars_chars (b.declarations.filterMap Version.ofChars?)
      rw [map_chars_filterMap_ofChars? b.declarations hnames] at hread
      simp only [hread]
      rfl

theorem mem_lines_of_afterMarker
    {line : List Char} :
    ∀ {lines rest : List (List Char)},
      afterMarker lines = some rest → line ∈ rest → line ∈ lines
  | [], _, h, _ => by simp [afterMarker] at h
  | first :: more, rest, h, hline => by
      unfold afterMarker at h
      split_ifs at h with hopen
      · cases h
        exact List.mem_cons_of_mem _ hline
      · exact List.mem_cons_of_mem _ (mem_lines_of_afterMarker h hline)

/-- The names of the section are lines of the text. -/
theorem chars_mem_lines
    {text : List Char}
    {v : Version}
    (hv : v ∈ sectionVersions text) :
    v.chars ∈ Text.lines text := by
  unfold sectionVersions at hv
  cases hblock : block? text with
  | none => simp [hblock] at hv
  | some b =>
      rw [hblock] at hv
      obtain ⟨line, hline, hread⟩ := List.mem_filterMap.mp hv
      obtain ⟨lines, hafter, rfl⟩ := Option.map_eq_some_iff.mp hblock
      have hpre : lines.takeWhile Version.isName <+: lines := List.takeWhile_prefix _
      rw [Version.chars_of_ofChars? hread]
      exact mem_lines_of_afterMarker hafter (hpre.subset hline)

/-- No scanned name holds a line feed. -/
theorem lf_not_mem_scanned
    {text : List Char}
    {catalog : Catalog}
    (hscan : scan text = .ok catalog) :
    ∀ v ∈ catalog.versions, '\n' ∉ v.chars := by
  rw [scan_eq_ok] at hscan
  cases hscan
  intro v hv hlf
  obtain ⟨w, hw, rfl⟩ := List.mem_map.mp hv
  exact Text.lf_not_mem_of_mem_lines text _ (chars_mem_lines hw)
    (w.cut_chars_isPrefix.subset hlf)

/-- A line that is a version name declares the version that is cut from it. -/
theorem readChars_declaredName
    {line : List Char}
    (hname : Version.isName line = true) :
    ∃ v : Version,
      Version.readChars line = .ok v ∧
      Version.readChars (declaredName line) = .ok v.cut := by
  obtain ⟨v, hv⟩ := Option.isSome_iff_exists.mp hname
  obtain rfl := Version.chars_of_ofChars? hv
  refine ⟨v, Version.readChars_chars v, ?_⟩
  rw [declaredName_chars, Version.readChars_chars]

/-- **Scanning is total.**  Every text is scanned without an error, for the following reason.
A line that is a version name as a whole is still one when it ends before its first equals
sign and the blanks at both ends are dropped; what is left is the start of the line, and both
components are those of the whole. -/
theorem scanning_total :
    (∀ text : List Char, ∃ catalog, scan text = .ok catalog) ∧
    ∀ line : List Char, Version.isName line = true →
      ∃ whole declared : Version,
        Version.readChars line = .ok whole ∧
        Version.readChars (Text.trim (line.takeWhile (· ≠ '='))) = .ok declared ∧
        declared.major = whole.major ∧
        declared.minor = whole.minor ∧
        declared.chars <+: line := by
  refine ⟨fun text => ⟨_, scan_eq_ok text⟩, ?_⟩
  intro line hname
  obtain ⟨v, hwhole, hdeclared⟩ := readChars_declaredName hname
  have hline : line = v.chars := Version.readChars_eq_ok_iff.mp hwhole
  exact ⟨v, v.cut, hwhole, hdeclared, rfl, rfl, hline ▸ v.cut_chars_isPrefix⟩

/-- Blanks of several kinds and an equals sign right behind the digits: the whole line is a
version name with a suffix, the declared one has none. -/
theorem scanning_total_blank_suffix :
    Version.isName "v007-10\u00a0\t= v1-2".toList = true ∧
    ∃ whole declared : Version,
      whole.chars = "v007-10\u00a0\t= v1-2".toList ∧ declared.chars = "v007-10".toList ∧
      declared.major = whole.major ∧ declared.minor = whole.minor := by
  have hname : Version.isName "v007-10\u00a0\t= v1-2".toList = true := by decide
  have htrim :
      Text.trim ("v007-10\u00a0\t= v1-2".toList.takeWhile (· ≠ '=')) = "v007-10".toList := by
    decide
  obtain ⟨whole, declared, hwhole, hdeclared, hmajor, hminor, -⟩ := scanning_total.2 _ hname
  rw [htrim] at hdeclared
  exact
    ⟨hname, whole, declared, (Version.readChars_eq_ok_iff.mp hwhole).symm,
      (Version.readChars_eq_ok_iff.mp hdeclared).symm, hmajor, hminor⟩

end Manifest
end FeatureLadder
