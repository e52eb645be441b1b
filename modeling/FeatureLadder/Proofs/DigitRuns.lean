import FeatureLadder.Version.Basic
import Mathlib.Algebra.Group.Nat.Defs
import Mathlib.Data.List.TakeWhile

/-!
# Runs of digits as numbers

**Input.**  A run of decimal digits of any length, as it stands in a version name.

A run writes a natural number, `runValue`.  Two runs are never compared by that number
but by their texts: first the longer run wins, then the digits decide from the left.  This
is the order of the numbers only for runs without superfluous zeros in front, and every
run is brought to that form by `stripZeros` before it is compared.

* Of two runs of one length, the first digit that differs decides, because all digits
  behind it are worth less than one unit of it.
* A longer run is worth more if it does not start with a zero.  The number zero is written
  by one zero, and no run is shorter.

**Results.**
* `withoutZeros_stripZeros`: what stripping a run leaves.
* `runValue_stripZeros`: stripping keeps the number.
* `compare_stripZeros`: length and digits of stripped runs compare as the numbers do.
-/

namespace FeatureLadder

/-- The number that a run of digits writes. -/
def runValue (ds : List Char) : Nat :=
  Nat.ofDigitChars 10 ds 0

/-- `bare` is the run `ds` without its leading zeros, or one zero if nothing is left. -/
def WithoutZeros (ds bare : List Char) : Prop :=
  ∃ (zeros : Nat) (rest : List Char),
    ds = List.replicate zeros '0' ++ rest ∧
    rest.head? ≠ some '0' ∧
    bare = if rest = [] then ['0'] else rest

section Stripping

/-- A run falls apart into its leading zeros and what follows them. -/
theorem eq_replicate_append_dropWhile :
    ∀ ds : List Char,
      ∃ zeros : Nat, ds = List.replicate zeros '0' ++ ds.dropWhile (· == '0')
  | [] => ⟨0, rfl⟩
  | d :: ds => by
      by_cases hd : d = '0'
      · subst hd
        obtain ⟨zeros, h⟩ := eq_replicate_append_dropWhile ds
        refine ⟨zeros + 1, ?_⟩
        rw [List.dropWhile_cons_of_pos (by rfl), List.replicate_succ, List.cons_append, ← h]
      · refine ⟨0, ?_⟩
        rw [List.dropWhile_cons_of_neg (by simpa using hd)]
        rfl

/-- **What stripping a run leaves.** -/
theorem withoutZeros_stripZeros
    (ds : List Char) :
    WithoutZeros ds (stripZeros ds) := by
  obtain ⟨zeros, hds⟩ := eq_replicate_append_dropWhile ds
  refine ⟨zeros, ds.dropWhile (· == '0'), hds, ?_, ?_⟩
  · intro hhead
    have h := List.head?_dropWhile_not (· == '0') ds
    rw [hhead] at h
    simp at h
  · unfold stripZeros
    split
    · next hnil => rw [if_pos hnil]
    · next hne => rw [if_neg hne]

/-- A run in the form in which it is compared. -/
structure IsStripped (ds : List Char) : Prop where
  digits : ds.all Char.isDigit = true
  start : (∃ d tail, ds = d :: tail ∧ d ≠ '0') ∨ ds = ['0']

theorem IsStripped.length_pos
    {ds : List Char}
    (h : IsStripped ds) :
    0 < ds.length := by
  obtain ⟨d, tail, rfl, -⟩ | rfl := h.start <;> simp

theorem isStripped_stripZeros
    {ds : List Char}
    (hds : ds.all Char.isDigit = true) :
    IsStripped (stripZeros ds) := by
  obtain ⟨zeros, rest, rfl, hhead, hstrip⟩ := withoutZeros_stripZeros ds
  rw [hstrip]
  cases rest with
  | nil => exact ⟨by decide, Or.inr rfl⟩
  | cons d tail =>
      rw [List.all_append, Bool.and_eq_true] at hds
      exact ⟨hds.2, Or.inl ⟨d, tail, rfl, by simpa using hhead⟩⟩

end Stripping

section Values

theorem runValue_cons
    (d : Char)
    (ds : List Char) :
    runValue (d :: ds) = 10 ^ ds.length * (d.toNat - '0'.toNat) + runValue ds := by
  unfold runValue
  rw [Nat.ofDigitChars_cons, Nat.ofDigitChars_eq_ofDigitChars_zero]
  simp

/-- Leading zeros are worth nothing. -/
theorem runValue_replicate_append
    (zeros : Nat)
    (ds : List Char) :
    runValue (List.replicate zeros '0' ++ ds) = runValue ds := by
  unfold runValue
  rw [Nat.ofDigitChars_append, Nat.ofDigitChars_replicate_zero, Nat.mul_zero]

/-- **Stripping keeps the number.** -/
theorem runValue_stripZeros
    (ds : List Char) :
    runValue (stripZeros ds) = runValue ds := by
  obtain ⟨zeros, rest, hds, -, hstrip⟩ := withoutZeros_stripZeros ds
  have hrest : runValue ds = runValue rest :=
    (congrArg runValue hds).trans (runValue_replicate_append zeros rest)
  rw [hstrip, hrest]
  split
  · next hnil => rw [hnil]; rfl
  · rfl

/-- The digits are the ten characters from zero on. -/
theorem exists_toNat_eq
    {d : Char}
    (hd : d.isDigit = true) :
    ∃ n : Nat, n < 10 ∧ d.toNat = '0'.toNat + n := by
  obtain ⟨hlow, hhigh⟩ := Char.isDigit_iff_toNat.mp hd
  have hzero : '0'.toNat = 48 := rfl
  have hnine : '9'.toNat = 57 := rfl
  exact ⟨d.toNat - '0'.toNat, by omega, by omega⟩

/-- A run is worth less than one unit in front of it. -/
theorem runValue_lt_pow :
    ∀ {ds : List Char}, ds.all Char.isDigit = true → runValue ds < 10 ^ ds.length
  | [], _ => by decide
  | d :: ds, h => by
      rw [List.all_cons, Bool.and_eq_true] at h
      obtain ⟨n, hn, hnat⟩ := exists_toNat_eq h.1
      have ih := runValue_lt_pow h.2
      rw [runValue_cons, hnat, Nat.add_sub_cancel_left, List.length_cons, Nat.pow_succ]
      calc 10 ^ ds.length * n + runValue ds
          < 10 ^ ds.length * n + 10 ^ ds.length := by omega
        _ = 10 ^ ds.length * (n + 1) := by rw [Nat.mul_succ]
        _ ≤ 10 ^ ds.length * 10 := Nat.mul_le_mul_left _ hn

/-- A run that does not start with a zero is worth at least one unit of its first digit. -/
theorem pow_le_runValue
    {d : Char}
    (ds : List Char)
    (hd : d.isDigit = true)
    (hne : d ≠ '0') :
    10 ^ ds.length ≤ runValue (d :: ds) := by
  obtain ⟨n, -, hnat⟩ := exists_toNat_eq hd
  have hn : 1 ≤ n := by
    rcases Nat.eq_zero_or_pos n with rfl | hpos
    · exact absurd (Char.toNat_inj.mp hnat) hne
    · exact hpos
  rw [runValue_cons, hnat, Nat.add_sub_cancel_left]
  calc 10 ^ ds.length
      = 10 ^ ds.length * 1 := (Nat.mul_one _).symm
    _ ≤ 10 ^ ds.length * n := Nat.mul_le_mul_left _ hn
    _ ≤ 10 ^ ds.length * n + runValue ds := Nat.le_add_right _ _

end Values

section Comparing

/-- Characters compare as their code points do. -/
theorem compare_char
    (c d : Char) :
    compare c d = compare c.toNat d.toNat := by
  have hlt : c < d ↔ c.toNat < d.toNat := Iff.rfl
  have heq : c = d ↔ c.toNat = d.toNat := Char.toNat_inj.symm
  simp only [compare, compareOfLessAndEq, hlt, heq]

theorem compare_add_left
    (k m n : Nat) :
    compare (k + m) (k + n) = compare m n := by
  rcases Nat.lt_trichotomy m n with hmn | rfl | hnm
  · rw [Nat.compare_eq_lt.mpr hmn, Nat.compare_eq_lt.mpr (by omega)]
  · rw [Nat.compare_eq_eq.mpr rfl, Nat.compare_eq_eq.mpr rfl]
  · rw [Nat.compare_eq_gt.mpr hnm, Nat.compare_eq_gt.mpr (by omega)]

/-- Units are compared before what is worth less than one of them. -/
theorem compare_mul_add
    {unit r s : Nat}
    (m n : Nat)
    (hr : r < unit)
    (hs : s < unit) :
    compare (unit * m + r) (unit * n + s) = (compare m n).then (compare r s) := by
  rcases Nat.lt_trichotomy m n with hmn | rfl | hnm
  · have hunits : unit * (m + 1) ≤ unit * n := Nat.mul_le_mul_left unit hmn
    have hlt : unit * m + r < unit * n + s := by
      rw [Nat.mul_succ] at hunits
      omega
    rw [Nat.compare_eq_lt.mpr hmn, Nat.compare_eq_lt.mpr hlt]
    rfl
  · rw [Nat.compare_eq_eq.mpr (rfl : m = m), compare_add_left]
    rfl
  · have hunits : unit * (n + 1) ≤ unit * m := Nat.mul_le_mul_left unit hnm
    have hgt : unit * n + s < unit * m + r := by
      rw [Nat.mul_succ] at hunits
      omega
    rw [Nat.compare_eq_gt.mpr hnm, Nat.compare_eq_gt.mpr hgt]
    rfl

/-- Runs of one length compare from the left as their numbers do. -/
theorem compare_of_length_eq :
    ∀ {ds es : List Char},
      ds.all Char.isDigit = true → es.all Char.isDigit = true → ds.length = es.length →
      compare ds es = compare (runValue ds) (runValue es)
  | [], [], _, _, _ => by decide
  | d :: ds, e :: es, hds, hes, hlen => by
      rw [List.all_cons, Bool.and_eq_true] at hds hes
      have htail : ds.length = es.length := by simpa using hlen
      obtain ⟨m, -, hm⟩ := exists_toNat_eq hds.1
      obtain ⟨n, -, hn⟩ := exists_toNat_eq hes.1
      have ih := compare_of_length_eq hds.2 hes.2 htail
      have hfirst : compare d e = compare m n := by
        rw [compare_char, hm, hn]
        exact compare_add_left '0'.toNat m n
      have hunits := compare_mul_add m n (runValue_lt_pow hds.2)
        (htail ▸ runValue_lt_pow hes.2)
      rw [List.compare_cons_cons, ih, hfirst, runValue_cons, runValue_cons, hm, hn,
        Nat.add_sub_cancel_left, Nat.add_sub_cancel_left, ← htail, hunits]

/-- Of two stripped runs the longer one is worth more. -/
theorem IsStripped.runValue_lt
    {ds es : List Char}
    (hds : IsStripped ds)
    (hes : IsStripped es)
    (hlen : ds.length < es.length) :
    runValue ds < runValue es := by
  obtain ⟨d, tail, rfl, hd⟩ | rfl := hes.start
  · have hdigit : d.isDigit = true := List.all_eq_true.mp hes.digits d (by simp)
    calc runValue ds
        < 10 ^ ds.length := runValue_lt_pow hds.digits
      _ ≤ 10 ^ tail.length := Nat.pow_le_pow_right (by decide) (Nat.le_of_lt_succ hlen)
      _ ≤ runValue (d :: tail) := pow_le_runValue tail hdigit hd
  · have hpos := hds.length_pos
    rw [List.length_singleton] at hlen
    omega

theorem IsStripped.compare_eq
    {ds es : List Char}
    (hds : IsStripped ds)
    (hes : IsStripped es) :
    (compare ds.length es.length).then (compare ds es) =
      compare (runValue ds) (runValue es) := by
  rcases Nat.lt_trichotomy ds.length es.length with hlen | hlen | hlen
  · rw [Nat.compare_eq_lt.mpr hlen, Nat.compare_eq_lt.mpr (hds.runValue_lt hes hlen)]
    rfl
  · rw [Nat.compare_eq_eq.mpr hlen, compare_of_length_eq hds.digits hes.digits hlen]
    rfl
  · rw [Nat.compare_eq_gt.mpr hlen, Nat.compare_eq_gt.mpr (hes.runValue_lt hds hlen)]
    rfl

/-- **Length and digits of stripped runs compare as the numbers do.** -/
theorem compare_stripZeros
    {ds es : List Char}
    (hds : ds.all Char.isDigit = true)
    (hes : es.all Char.isDigit = true) :
    (compare (stripZeros ds).length (stripZeros es).length).then
        (compare (stripZeros ds) (stripZeros es)) =
      compare (runValue ds) (runValue es) := by
  rw [(isStripped_stripZeros hds).compare_eq (isStripped_stripZeros hes),
    runValue_stripZeros, runValue_stripZeros]

end Comparing

end FeatureLadder
