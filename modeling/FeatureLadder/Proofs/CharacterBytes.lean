import FeatureLadder.Proofs.Replacement
import Mathlib.Algebra.Group.Nat.Defs

/-!
# The bytes of characters

The number of a character says how many bytes it has.  The first byte tells their number and
carries the highest digits; each other byte carries six more.  So the first bytes of a character
fix its highest digits, and a character with given highest digits may exist or not: the lowest
numbers need fewer bytes, the surrogates and the numbers above the last character are no
characters at all.  All of that is decided with the second byte.

`Held` says for some first bytes what a reader has to remember of them: their digits, how many
bytes are missing, and the range of the next byte.

**Results.**
* `singleton_prefix_iff`, `getElem?_encodeChar`: the digits in the first and in the other bytes.
* `held_two`, `held_three`, `held_four`: which second bytes a first byte allows.
* `Held.advance`, `Held.complete`: one more byte, and the last.
-/

namespace FeatureLadder
namespace Utf8

open String (utf8EncodeChar)

section Numbers

theorem toNat_valid
    (c : Char) :
    c.toNat < 0xD800 ∨ 0xDFFF < c.toNat ∧ c.toNat < 0x110000 :=
  c.valid

/-- Every number outside of the surrogates, up to the last character, is that of a character. -/
theorem exists_char
    {n : Nat}
    (h : n < 0xD800 ∨ 0xDFFF < n ∧ n < 0x110000) :
    ∃ c : Char, c.toNat = n :=
  ⟨Char.ofNatAux n h, rfl⟩

/-- The number of a character says how many bytes it has. -/
theorem utf8Size_cases
    (c : Char) :
    (c.utf8Size = 1 ∧ c.toNat ≤ 0x7F) ∨
    (c.utf8Size = 2 ∧ 0x7F < c.toNat ∧ c.toNat ≤ 0x7FF) ∨
    (c.utf8Size = 3 ∧ 0x7FF < c.toNat ∧ c.toNat ≤ 0xFFFF) ∨
    (c.utf8Size = 4 ∧ 0xFFFF < c.toNat) := by
  have hcases := c.utf8Size_eq
  have hone := c.utf8Size_eq_one_iff
  have htwo := c.utf8Size_eq_two_iff
  have hthree := c.utf8Size_eq_three_iff
  have hfour := c.utf8Size_eq_four_iff
  simp only [UInt32.le_iff_toNat_le, UInt32.lt_iff_toNat_lt, Char.toNat_val,
    UInt32.reduceToNat] at hone htwo hthree hfour
  omega

theorem ofNat_eq_iff
    {n : Nat}
    (h : n < 256)
    (b : UInt8) :
    UInt8.ofNat n = b ↔ b.toNat = n := by
  rw [← UInt8.toNat_inj, UInt8.toNat_ofNat', Nat.mod_eq_of_lt h, eq_comm]

/-- The bytes behind the first carry six digits each. -/
theorem getElem?_encodeChar
    {c : Char}
    {i : Nat}
    (hpos : 0 < i)
    (hlt : i < c.utf8Size) :
    (utf8EncodeChar c)[i]? =
      some (UInt8.ofNat (0x80 + c.toNat / 64 ^ (c.utf8Size - 1 - i) % 64)) := by
  have hsize := utf8Size_cases c
  unfold utf8EncodeChar
  simp only [Char.toNat_val]
  split
  · omega
  · split
    · have htwo : c.utf8Size = 2 := by omega
      obtain rfl : i = 1 := by omega
      simp [htwo, Nat.add_comm]
    · split
      · have hthree : c.utf8Size = 3 := by omega
        obtain rfl | rfl : i = 1 ∨ i = 2 := by omega
        · simp [hthree, Nat.add_comm]
        · simp [hthree, Nat.add_comm]
      · have hfour : c.utf8Size = 4 := by omega
        obtain rfl | rfl | rfl : i = 1 ∨ i = 2 ∨ i = 3 := by omega
        · simp [hfour, Nat.add_comm]
        · simp [hfour, Nat.add_comm]
        · simp [hfour, Nat.add_comm]

/-- The first byte of a character says how many follow, and carries the highest digits. -/
theorem singleton_prefix_iff
    (b : UInt8)
    (c : Char) :
    [b] <+: utf8EncodeChar c ↔
      (c.utf8Size = 1 ∧ b.toNat = c.toNat) ∨
      (c.utf8Size = 2 ∧ b.toNat = 0xC0 + c.toNat / 64) ∨
      (c.utf8Size = 3 ∧ b.toNat = 0xE0 + c.toNat / 64 ^ 2) ∨
      (c.utf8Size = 4 ∧ b.toNat = 0xF0 + c.toNat / 64 ^ 3) := by
  have hsize := utf8Size_cases c
  have hvalid := toNat_valid c
  unfold utf8EncodeChar
  simp only [Char.toNat_val]
  split
  · have hone : c.utf8Size = 1 := by omega
    rw [List.cons_prefix_cons, eq_comm, ofNat_eq_iff (by omega), and_iff_left List.nil_prefix]
    simp [hone]
  · split
    · have htwo : c.utf8Size = 2 := by omega
      rw [List.cons_prefix_cons, eq_comm, ofNat_eq_iff (by omega), and_iff_left List.nil_prefix,
        Nat.mod_eq_of_lt (by omega), Nat.add_comm]
      simp [htwo]
    · split
      · have hthree : c.utf8Size = 3 := by omega
        rw [List.cons_prefix_cons, eq_comm, ofNat_eq_iff (by omega), and_iff_left List.nil_prefix,
          Nat.mod_eq_of_lt (by omega), Nat.add_comm]
        simp [hthree]
      · have hfour : c.utf8Size = 4 := by omega
        rw [List.cons_prefix_cons, eq_comm, ofNat_eq_iff (by omega), and_iff_left List.nil_prefix,
          Nat.mod_eq_of_lt (by omega), Nat.add_comm]
        simp [hfour]

end Numbers

section Digits

/-- Some character with `size` bytes has the digits `n` in front of its last `rest` bytes. -/
def Reached (size rest n : Nat) : Prop :=
  ∃ c : Char, c.utf8Size = size ∧ c.toNat / 64 ^ rest = n

/-- Two bytes carry all digits of their character. -/
theorem reached_two_iff
    (n : Nat) :
    Reached 2 0 n ↔ 0x80 ≤ n ∧ n ≤ 0x7FF := by
  constructor
  · rintro ⟨c, hsize, hdigits⟩
    have hcases := utf8Size_cases c
    omega
  · intro hn
    obtain ⟨c, hc⟩ := exists_char (n := n) (by omega)
    have hcases := utf8Size_cases c
    exact ⟨c, by omega, by omega⟩

/-- Of three bytes, the first two carry none of the lowest digits, which belong to characters with
fewer bytes, and not those of the surrogates. -/
theorem reached_three_iff
    (n : Nat) :
    Reached 3 1 n ↔ 0x20 ≤ n ∧ n ≤ 0x3FF ∧ ¬ (0x360 ≤ n ∧ n ≤ 0x37F) := by
  constructor
  · rintro ⟨c, hsize, hdigits⟩
    have hcases := utf8Size_cases c
    have hvalid := toNat_valid c
    omega
  · intro hn
    obtain ⟨c, hc⟩ := exists_char (n := n * 64) (by omega)
    have hcases := utf8Size_cases c
    exact ⟨c, by omega, by omega⟩

/-- Of four bytes, the first two carry none of the lowest digits, which belong to characters with
fewer bytes, and none of the highest, which belong to no character. -/
theorem reached_four_iff
    (n : Nat) :
    Reached 4 2 n ↔ 0x10 ≤ n ∧ n ≤ 0x10F := by
  constructor
  · rintro ⟨c, hsize, hdigits⟩
    have hcases := utf8Size_cases c
    have hvalid := toNat_valid c
    omega
  · intro hn
    obtain ⟨c, hc⟩ := exists_char (n := n * 64 ^ 2) (by omega)
    have hcases := utf8Size_cases c
    exact ⟨c, by omega, by omega⟩

/-- Behind the second byte of a character, the next six digits are free: neither the surrogates
nor the numbers of characters with fewer or more bytes begin in between. -/
theorem Reached.next
    {size rest n : Nat}
    (h : Reached size (rest + 1) n)
    (hrest : rest + 3 ≤ size)
    {d : Nat}
    (hd : d < 64) :
    Reached size rest (n * 64 + d) := by
  obtain ⟨c, hsize, hdigits⟩ := h
  have hcases := utf8Size_cases c
  have hvalid := toNat_valid c
  obtain rfl | rfl : rest = 0 ∨ rest = 1 := by omega
  · obtain ⟨e, he⟩ := exists_char (n := n * 64 + d) (by omega)
    have hcases' := utf8Size_cases e
    exact ⟨e, by omega, by omega⟩
  · obtain ⟨e, he⟩ := exists_char (n := (n * 64 + d) * 64) (by omega)
    have hcases' := utf8Size_cases e
    exact ⟨e, by omega, by omega⟩

end Digits

section Held

/-- One more byte continues a part of a list if it comes next there. -/
theorem concat_prefix_iff
    {part bytes : List UInt8}
    {b : UInt8} :
    part ++ [b] <+: bytes ↔ part <+: bytes ∧ bytes[part.length]? = some b := by
  constructor
  · rintro ⟨rest, rfl⟩
    exact ⟨⟨b :: rest, by simp⟩, by simp⟩
  · rintro ⟨⟨rest, rfl⟩, hnext⟩
    rw [List.getElem?_append_right (Nat.le_refl _), Nat.sub_self] at hnext
    cases rest with
    | nil => simp at hnext
    | cons d rest =>
        obtain rfl : d = b := by simpa using hnext
        exact ⟨rest, by simp⟩

/-- The bytes `held` are those of a character but for the last ones: `missing` bytes are still to
come, `value` are the digits so far, and the next byte lies between `low` and `high`. -/
structure Held (held : List UInt8) (value missing : Nat) (low high : UInt8) : Prop where
  ne_nil : held ≠ []
  missing_pos : 0 < missing
  low_le : low ≤ high
  prefix_iff : ∀ c : Char,
    held <+: utf8EncodeChar c ↔
      c.utf8Size = held.length + missing ∧ c.toNat / 64 ^ missing = value
  range_iff : ∀ b : UInt8, low ≤ b ∧ b ≤ high ↔ Opens (held ++ [b])

/-- With one more byte, a character begins with the bytes held exactly if the byte carries its
next six digits. -/
theorem concat_prefix_encodeChar_iff
    {held : List UInt8}
    {value missing : Nat}
    (hne : held ≠ [])
    (hmissing : 0 < missing)
    (hbegins : ∀ c : Char,
      held <+: utf8EncodeChar c ↔
        c.utf8Size = held.length + missing ∧ c.toNat / 64 ^ missing = value)
    (b : UInt8)
    (c : Char) :
    held ++ [b] <+: utf8EncodeChar c ↔
      c.utf8Size = held.length + missing ∧
      0x80 ≤ b.toNat ∧ b.toNat ≤ 0xBF ∧
      c.toNat / 64 ^ (missing - 1) = value * 64 + (b.toNat - 0x80) := by
  rw [concat_prefix_iff, hbegins]
  by_cases hsize : c.utf8Size = held.length + missing
  · have hpos : 0 < held.length := List.length_pos_iff.mpr hne
    have hdigits : c.utf8Size - 1 - held.length = missing - 1 := by omega
    have hshift : c.toNat / 64 ^ missing = c.toNat / 64 ^ (missing - 1) / 64 := by
      rw [Nat.div_div_eq_div_mul, Nat.pow_pred_mul hmissing]
    rw [getElem?_encodeChar hpos (by omega), hdigits, Option.some_inj,
      ofNat_eq_iff (by omega), hshift]
    omega
  · simp [hsize]

section Steps

variable {held : List UInt8} {value missing : Nat} {low high : UInt8}

/-- Bytes are held if the digits are known that a next byte can add to theirs. -/
theorem Held.of_digits
    (hne : held ≠ [])
    (hmissing : 0 < missing)
    (hle : low ≤ high)
    (hbegins : ∀ c : Char,
      held <+: utf8EncodeChar c ↔
        c.utf8Size = held.length + missing ∧ c.toNat / 64 ^ missing = value)
    (hrange : ∀ b : UInt8,
      low ≤ b ∧ b ≤ high ↔
        (0x80 ≤ b.toNat ∧ b.toNat ≤ 0xBF) ∧
        Reached (held.length + missing) (missing - 1) (value * 64 + (b.toNat - 0x80))) :
    Held held value missing low high where
  ne_nil := hne
  missing_pos := hmissing
  low_le := hle
  prefix_iff := hbegins
  range_iff b := by
    rw [hrange b]
    constructor
    · rintro ⟨⟨hlow, hhigh⟩, c, hsize, hdigits⟩
      refine ⟨c, ?_⟩
      rw [concat_prefix_encodeChar_iff hne hmissing hbegins b c]
      exact ⟨hsize, hlow, hhigh, hdigits⟩
    · rintro ⟨c, hc⟩
      rw [concat_prefix_encodeChar_iff hne hmissing hbegins b c] at hc
      obtain ⟨hsize, hlow, hhigh, hdigits⟩ := hc
      exact ⟨⟨hlow, hhigh⟩, c, hsize, hdigits⟩

theorem Held.opens
    (h : Held held value missing low high) :
    Opens held := by
  have hlow : Opens (held ++ [low]) := (h.range_iff low).mp ⟨UInt8.le_refl low, h.low_le⟩
  exact hlow.of_longer (List.prefix_append held [low])

theorem Held.concat_prefix_iff
    (h : Held held value missing low high)
    (b : UInt8)
    (c : Char) :
    held ++ [b] <+: utf8EncodeChar c ↔
      c.utf8Size = held.length + missing ∧
      0x80 ≤ b.toNat ∧ b.toNat ≤ 0xBF ∧
      c.toNat / 64 ^ (missing - 1) = value * 64 + (b.toNat - 0x80) :=
  concat_prefix_encodeChar_iff h.ne_nil h.missing_pos h.prefix_iff b c

/-- The last byte completes the character that the digits write. -/
theorem Held.complete
    (h : Held held value 1 low high)
    {b : UInt8}
    (hb : low ≤ b ∧ b ≤ high) :
    utf8EncodeChar (Char.ofNat (value * 64 + (b.toNat - 0x80))) = held ++ [b] := by
  obtain ⟨c, hc⟩ := (h.range_iff b).mp hb
  obtain ⟨hsize, -, -, hdigits⟩ := (h.concat_prefix_iff b c).mp hc
  have hlength : (held ++ [b]).length = (utf8EncodeChar c).length := by
    rw [String.length_utf8EncodeChar, hsize, List.length_append, List.length_singleton]
  have hnumber : c.toNat = value * 64 + (b.toNat - 0x80) := by
    simpa using hdigits
  rw [← hnumber, Char.ofNat_toNat, hc.eq_of_length hlength]

/-- A byte that is not the last one leaves the next free. -/
theorem Held.advance
    (h : Held held value missing low high)
    (hmore : 1 < missing)
    {b : UInt8}
    (hb : low ≤ b ∧ b ≤ high) :
    Held (held ++ [b]) (value * 64 + (b.toNat - 0x80)) (missing - 1) 0x80 0xBF := by
  obtain ⟨c, hc⟩ := (h.range_iff b).mp hb
  obtain ⟨hsize, hlow, hhigh, hdigits⟩ := (h.concat_prefix_iff b c).mp hc
  have hpos : 0 < held.length := List.length_pos_iff.mpr h.ne_nil
  have hlength : (held ++ [b]).length + (missing - 1) = held.length + missing := by
    rw [List.length_append, List.length_singleton]
    omega
  refine Held.of_digits (by simp) (by omega) (by decide) ?_ ?_
  · intro e
    rw [h.concat_prefix_iff b e, hlength]
    constructor
    · rintro ⟨hesize, -, -, hedigits⟩
      exact ⟨hesize, hedigits⟩
    · rintro ⟨hesize, hedigits⟩
      exact ⟨hesize, hlow, hhigh, hedigits⟩
  · intro x
    rw [hlength, UInt8.le_iff_toNat_le, UInt8.le_iff_toNat_le]
    constructor
    · intro hx
      have hbefore : Reached (held.length + missing) (missing - 1 - 1 + 1)
          (value * 64 + (b.toNat - 0x80)) :=
        ⟨c, hsize, by rw [Nat.sub_add_cancel (by omega), hdigits]⟩
      refine ⟨hx, hbefore.next (by omega) ?_⟩
      have hxhigh : x.toNat ≤ 0xBF := hx.2
      omega
    · rintro ⟨hx, -⟩
      exact hx

end Steps

end Held

section FirstBytes

variable {b low high : UInt8} {value : Nat}

theorem held_two
    (hb : b.toNat = 0xC0 + value)
    (hvalue : 2 ≤ value ∧ value ≤ 0x1F) :
    Held [b] value 1 0x80 0xBF := by
  refine Held.of_digits (by simp) (by decide) (by decide) ?_ ?_
  · intro c
    have hcases := utf8Size_cases c
    rw [singleton_prefix_iff, List.length_singleton]
    omega
  · intro x
    rw [UInt8.le_iff_toNat_le, UInt8.le_iff_toNat_le, List.length_singleton, reached_two_iff]
    simp only [UInt8.reduceToNat]
    omega

theorem held_three
    (hb : b.toNat = 0xE0 + value)
    (hvalue : value ≤ 0xF)
    (hlow : value = 0 ∧ low.toNat = 0xA0 ∨ value ≠ 0 ∧ low.toNat = 0x80)
    (hhigh : value = 0xD ∧ high.toNat = 0x9F ∨ value ≠ 0xD ∧ high.toNat = 0xBF) :
    Held [b] value 2 low high := by
  have hle : low ≤ high := by
    rw [UInt8.le_iff_toNat_le]
    omega
  refine Held.of_digits (by simp) (by decide) hle ?_ ?_
  · intro c
    have hcases := utf8Size_cases c
    rw [singleton_prefix_iff, List.length_singleton]
    omega
  · intro x
    rw [UInt8.le_iff_toNat_le, UInt8.le_iff_toNat_le, List.length_singleton, reached_three_iff]
    omega

theorem held_four
    (hb : b.toNat = 0xF0 + value)
    (hvalue : value ≤ 4)
    (hlow : value = 0 ∧ low.toNat = 0x90 ∨ value ≠ 0 ∧ low.toNat = 0x80)
    (hhigh : value = 4 ∧ high.toNat = 0x8F ∨ value ≠ 4 ∧ high.toNat = 0xBF) :
    Held [b] value 3 low high := by
  have hle : low ≤ high := by
    rw [UInt8.le_iff_toNat_le]
    omega
  refine Held.of_digits (by simp) (by decide) hle ?_ ?_
  · intro c
    have hcases := utf8Size_cases c
    rw [singleton_prefix_iff, List.length_singleton]
    omega
  · intro x
    rw [UInt8.le_iff_toNat_le, UInt8.le_iff_toNat_le, List.length_singleton, reached_four_iff]
    omega

end FirstBytes

end Utf8
end FeatureLadder
