import FeatureLadder.Proofs.DigitRuns
import FeatureLadder.Proofs.VersionOrder

/-!
# The structural order is numeric

The comparison of versions never computes a number: it compares the lengths of the two
stripped runs and then their digits, for the major and for the minor component.  Together
the two keys of a component decide as the number does that its digits write, however many
there are.  Suffix and name are compared character by character, which is by code points.

So the comparison has four keys: two numbers and two lists of code points.  The last key,
the whole name, separates different spellings of the same numbers.

**Results.**
* `compare_eq_numeric`: the comparison by the four keys.
* `compare_numeric_linear`: with it, the order laws, and where a plain version stands among
  those with the same numbers.
-/

namespace FeatureLadder
namespace Version

def majorNumber (v : Version) : Nat :=
  runValue v.majorDigits

def minorNumber (v : Version) : Nat :=
  runValue v.minorDigits

def codePoints (s : List Char) : List Nat :=
  s.map Char.toNat

/-- Texts compare as their code points do. -/
theorem compare_codePoints :
    ∀ s t : List Char, Ord.compare s t = Ord.compare (codePoints s) (codePoints t)
  | [], [] => rfl
  | [], _ :: _ => rfl
  | _ :: _, [] => rfl
  | c :: s, d :: t => by
      have ih := compare_codePoints s t
      unfold codePoints at ih ⊢
      rw [List.map_cons, List.map_cons, List.compare_cons_cons, List.compare_cons_cons,
        compare_char, ih]

/-- **Versions compare by two numbers and then by two texts.** -/
theorem compare_eq_numeric
    (a b : Version) :
    compare a b =
      ((Ord.compare a.majorNumber b.majorNumber).then <|
        (Ord.compare a.minorNumber b.minorNumber).then <|
        (Ord.compare (codePoints a.suffix) (codePoints b.suffix)).then <|
        Ord.compare (codePoints a.text.toList) (codePoints b.text.toList)) := by
  have hmajor := compare_stripZeros a.major_run.2 b.major_run.2
  have hminor := compare_stripZeros a.minor_run.2 b.minor_run.2
  unfold majorNumber minorNumber
  rw [← hmajor, ← hminor, ← compare_codePoints, ← compare_codePoints, text_toList, text_toList,
    Ordering.then_assoc, Ordering.then_assoc]
  rfl

/-- A version without suffix stands below those with the same numbers and a suffix. -/
theorem compare_plain_lt
    {a b : Version}
    (hmajor : a.majorNumber = b.majorNumber)
    (hminor : a.minorNumber = b.minorNumber)
    (hplain : a.suffix = [])
    (hsuffix : b.suffix ≠ []) :
    compare a b = .lt := by
  have hlt : Ord.compare (codePoints a.suffix) (codePoints b.suffix) = .lt := by
    rw [← compare_codePoints, hplain]
    cases hb : b.suffix with
    | nil => exact absurd hb hsuffix
    | cons c s => exact List.compare_nil_cons
  rw [compare_eq_numeric, Nat.compare_eq_eq.mpr hmajor, Nat.compare_eq_eq.mpr hminor, hlt]
  rfl

/-- **The structural order is numeric and linear.**  Versions compare by the numbers that
their digits write, then by suffix and by name, both by code points.  The comparison is
total, antisymmetric and transitive, versions are equal in it exactly if they have the same
name, and a version without suffix is below every other with the same numbers. -/
theorem compare_numeric_linear
    (a b c : Version) :
    (compare a b =
      ((Ord.compare a.majorNumber b.majorNumber).then <|
        (Ord.compare a.minorNumber b.minorNumber).then <|
        (Ord.compare (codePoints a.suffix) (codePoints b.suffix)).then <|
        Ord.compare (codePoints a.text.toList) (codePoints b.text.toList)))
    ∧
    ((compare a b).isLE = true ∨ (compare b a).isLE = true)
    ∧
    (compare b a = (compare a b).swap)
    ∧
    ((compare a b).isLE = true → (compare b a).isLE = true → a.text = b.text)
    ∧
    ((compare a b).isLE = true → (compare b c).isLE = true → (compare a c).isLE = true)
    ∧
    (compare a b = .eq ↔ a.text = b.text)
    ∧
    ((a == b) = true ↔ compare a b = .eq)
    ∧
    (a.majorNumber = b.majorNumber → a.minorNumber = b.minorNumber →
      a.suffix = [] → b.suffix ≠ [] → compare a b = .lt) := by
  have heq : compare a b = .eq ↔ a = b := Std.compare_eq_iff_eq (a := a) (b := b)
  have hswap : Ord.compare b a = (Ord.compare a b).swap := Std.OrientedCmp.eq_swap
  refine ⟨compare_eq_numeric a b, isLE_or_isLE a b, hswap, ?_, ?_, ?_, ?_, compare_plain_lt⟩
  · intro hab hba
    exact text_inj.mpr (le_antisymm hab hba)
  · intro hab hbc
    exact le_trans (a := a) (b := b) (c := c) hab hbc
  · rw [text_inj, heq]
  · rw [heq, beq_iff_eq]

/-- Zeros in front of a number do not count, and ten is above seven. -/
theorem compare_padded_plain :
    ∃ a b c : Version,
      a.text = "v007-10" ∧ b.text = "v7-0010-rc" ∧ c.text = "v10-2" ∧
      a.majorNumber = b.majorNumber ∧ a.minorNumber = b.minorNumber ∧
      compare a b = .lt ∧ compare b c = .lt ∧ (compare a c).isLE = true := by
  let a : Version :=
    { majorDigits := ['0', '0', '7'], minorDigits := ['1', '0'], suffix := []
      major_run := by decide, minor_run := by decide
      suffix_start := fun _ h => nomatch h }
  let b : Version :=
    { majorDigits := ['7'], minorDigits := ['0', '0', '1', '0'], suffix := ['-', 'r', 'c']
      major_run := by decide, minor_run := by decide
      suffix_start := fun _ h => by cases h; rfl }
  let c : Version :=
    { majorDigits := ['1', '0'], minorDigits := ['2'], suffix := []
      major_run := by decide, minor_run := by decide
      suffix_start := fun _ h => nomatch h }
  obtain ⟨-, -, -, -, htrans, -, -, hplain⟩ := compare_numeric_linear a b c
  have hab : compare a b = .lt := hplain (by decide) (by decide) rfl (by decide)
  have hbc : compare b c = .lt := by
    rw [(compare_numeric_linear b c a).1]
    decide
  have hac : (compare a c).isLE = true := htrans (by rw [hab]; rfl) (by rw [hbc]; rfl)
  exact ⟨a, b, c, rfl, rfl, rfl, by decide, by decide, hab, hbc, hac⟩

end Version
end FeatureLadder
