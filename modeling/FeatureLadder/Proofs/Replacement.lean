import FeatureLadder.Text.Utf8

/-!
# Bytes with replaced parts

**Input**: any list of bytes.

Bytes that are not well-formed throughout still stand for a text.  From left to right, the
bytes of a character stand for it.  Where no character follows, a part of the bytes is broken
and stands for U+FFFD: it is the longest part that a character could begin with, or one byte if
no character begins with it.  The relation `Replaces` says no more than this.

It leaves no choice.  The bytes of one character never begin with those of another, and a
longer broken part would go on where a maximal one has to stop.  A broken part has at most three
bytes, because a character has at most four and the part lacks one of them, and U+FFFD has three
itself; so replacing never makes bytes fewer.

**Results.**
* `encodeChar_append_inj`: which character bytes begin with is determined.
* `Replaces.functional`: bytes stand for one text only.
* `replaces_encode_append`: well-formed bytes in front stand for their text.
* `Replaces.length_le`: the text has at least as many bytes as it was read from.
-/

namespace FeatureLadder
namespace Utf8

open String (utf8EncodeChar)

/-- Bytes are well-formed if they are the bytes of a text. -/
def WellFormed (bytes : List UInt8) : Prop :=
  ∃ text, encode text = bytes

/-- The character that stands for a broken part. -/
def replacement : Char := Char.ofNat 0xFFFD

/-- The bytes of some character begin with a part. -/
def Opens (part : List UInt8) : Prop :=
  ∃ c, part <+: utf8EncodeChar c

/-- In front of `rest`, `part` is a broken part. -/
structure Broken (part rest : List UInt8) : Prop where
  ne_nil : part ≠ []
  /-- the part could begin a character, or is one byte -/
  opens : Opens part ∨ part.length = 1
  /-- no character stands here -/
  no_char : ∀ c, ¬ utf8EncodeChar c <+: part ++ rest
  /-- with the next byte, no character could begin with the part -/
  maximal : ∀ b, rest.head? = some b → ¬ Opens (part ++ [b])

/-- A text that bytes stand for, with U+FFFD for each broken part. -/
inductive Replaces : List UInt8 → List Char → Prop
  | nil : Replaces [] []
  | char (c : Char) {rest : List UInt8} {text : List Char} (hrest : Replaces rest text) :
      Replaces (utf8EncodeChar c ++ rest) (c :: text)
  | broken {part rest : List UInt8} {text : List Char} (hpart : Broken part rest)
      (hrest : Replaces rest text) :
      Replaces (part ++ rest) (replacement :: text)

theorem encode_cons
    (c : Char)
    (text : List Char) :
    encode (c :: text) = utf8EncodeChar c ++ encode text := rfl

theorem Opens.of_longer
    {part more : List UInt8}
    (h : Opens more)
    (hbegins : part <+: more) :
    Opens part := by
  obtain ⟨c, hc⟩ := h
  exact ⟨c, hbegins.trans hc⟩

/-- **The character that bytes begin with is determined**, and so is what follows it. -/
theorem encodeChar_append_inj
    {c d : Char}
    {rest more : List UInt8}
    (h : utf8EncodeChar c ++ rest = utf8EncodeChar d ++ more) :
    c = d ∧ rest = more := by
  have hread := congrArg (fun bytes => bytes.toByteArray.utf8DecodeChar? 0) h
  simp only [List.toByteArray_append, ByteArray.utf8DecodeChar?_utf8EncodeChar_append,
    Option.some_inj] at hread
  subst hread
  exact ⟨rfl, List.append_cancel_left h⟩

section BrokenParts

variable {part rest part' rest' : List UInt8}

/-- A broken part has at most three bytes. -/
theorem Broken.length_le
    (h : Broken part rest) :
    part.length ≤ 3 := by
  rcases h.opens with ⟨c, hc⟩ | hone
  · have hlen := hc.length_le
    have hsize := c.utf8Size_le_four
    rw [String.length_utf8EncodeChar] at hlen
    by_cases hwhole : part.length = c.utf8Size
    · have hpart : part = utf8EncodeChar c := by
        apply hc.eq_of_length
        rw [hwhole, String.length_utf8EncodeChar]
      exact absurd (hpart ▸ List.prefix_append part rest) (h.no_char c)
    · omega
  · omega

/-- A broken part stops where another one has to stop. -/
theorem Broken.not_longer
    (h : Broken part rest)
    (h' : Broken part' rest')
    {more : List UInt8}
    (hpart : part' = part ++ more)
    (hrest : rest = more ++ rest') :
    more = [] := by
  cases more with
  | nil => rfl
  | cons b more =>
      have hstop : ¬ Opens (part ++ [b]) := h.maximal b (by simp [hrest])
      have hlong : part'.length ≠ 1 := by
        have hpos := List.length_pos_iff.mpr h.ne_nil
        simp only [hpart, List.length_append, List.length_cons]
        omega
      have hopens : Opens part' := h'.opens.resolve_right hlong
      have hbegins : part ++ [b] <+: part' := ⟨more, by simp [hpart]⟩
      exact absurd (hopens.of_longer hbegins) hstop

/-- The broken part that bytes begin with is determined. -/
theorem Broken.part_unique
    (h : Broken part rest)
    (h' : Broken part' rest')
    (heq : part ++ rest = part' ++ rest') :
    part = part' ∧ rest = rest' := by
  rcases List.append_eq_append_iff.mp heq with ⟨more, hpart, hrest⟩ | ⟨more, hpart, hrest⟩
  · have hnil := h.not_longer h' hpart hrest
    subst hnil
    exact ⟨by simpa using hpart.symm, by simpa using hrest⟩
  · have hnil := h'.not_longer h hpart hrest
    subst hnil
    exact ⟨by simpa using hpart, by simpa using hrest.symm⟩

end BrokenParts

section Texts

variable {bytes : List UInt8} {text text' : List Char}

/-- What bytes can stand for, seen from their beginning. -/
theorem Replaces.cases_front
    (h : Replaces bytes text) :
    (bytes = [] ∧ text = []) ∨
    (∃ c rest tail, bytes = utf8EncodeChar c ++ rest ∧ text = c :: tail ∧ Replaces rest tail) ∨
    (∃ part rest tail, bytes = part ++ rest ∧ text = replacement :: tail ∧ Broken part rest ∧
      Replaces rest tail) := by
  cases h with
  | nil => exact .inl ⟨rfl, rfl⟩
  | char c hrest => exact .inr (.inl ⟨c, _, _, rfl, rfl, hrest⟩)
  | broken hpart hrest => exact .inr (.inr ⟨_, _, _, rfl, rfl, hpart, hrest⟩)

/-- **Bytes stand for one text only.** -/
theorem Replaces.functional
    (h : Replaces bytes text)
    (h' : Replaces bytes text') :
    text = text' := by
  induction h generalizing text' with
  | nil =>
      rcases h'.cases_front with ⟨-, rfl⟩ | ⟨c, rest, tail, hbytes, -⟩ |
        ⟨part, rest, tail, hbytes, -, hpart, -⟩
      · rfl
      · simp at hbytes
      · exact absurd (List.append_eq_nil_iff.mp hbytes.symm).1 hpart.ne_nil
  | char c hrest ih =>
      rcases h'.cases_front with ⟨hbytes, -⟩ | ⟨d, rest', tail, hbytes, rfl, htail⟩ |
        ⟨part, rest', tail, hbytes, -, hpart, -⟩
      · simp at hbytes
      · obtain ⟨rfl, rfl⟩ := encodeChar_append_inj hbytes
        rw [ih htail]
      · exact absurd ⟨_, hbytes⟩ (hpart.no_char c)
  | broken hpart hrest ih =>
      rcases h'.cases_front with ⟨hbytes, -⟩ | ⟨c, rest', tail, hbytes, -⟩ |
        ⟨part', rest', tail, hbytes, rfl, hpart', htail⟩
      · exact absurd (List.append_eq_nil_iff.mp hbytes).1 hpart.ne_nil
      · exact absurd ⟨_, hbytes.symm⟩ (hpart.no_char c)
      · obtain ⟨-, rfl⟩ := hpart.part_unique hpart' hbytes
        rw [ih htail]

/-- **Well-formed bytes in front stand for their text**, whatever follows. -/
theorem replaces_encode_append
    (front : List Char)
    (h : Replaces bytes text) :
    Replaces (encode front ++ bytes) (front ++ text) := by
  induction front with
  | nil => exact h
  | cons c front ih =>
      rw [encode_cons, List.append_assoc]
      exact .char c ih

/-- **Replacing makes no text of fewer bytes.** -/
theorem Replaces.length_le
    (h : Replaces bytes text) :
    bytes.length ≤ (encode text).length := by
  induction h with
  | nil => simp
  | char c hrest ih =>
      rw [encode_cons, List.length_append, List.length_append]
      omega
  | broken hpart hrest ih =>
      have hthree : (utf8EncodeChar replacement).length = 3 := by decide
      have hshort := hpart.length_le
      rw [encode_cons, List.length_append, List.length_append]
      omega

end Texts

end Utf8
end FeatureLadder
