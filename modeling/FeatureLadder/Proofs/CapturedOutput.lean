import FeatureLadder.Completion
import FeatureLadder.Proofs.CharacterBytes

/-!
# What captured output keeps of the bytes

**Input**: the bytes that a command wrote to its standard output and to its standard error.
Each of the two is read as text by itself, and the texts are put one behind the other.

The machine that reads the bytes has to agree with the relation that says which text they stand
for.  What carries the induction is that a state stands for the bytes that are held back, and one
more byte can do three things only: complete a character, be held as well, or show that no
character begins with the bytes.  In the last case the bytes held are broken, and the byte is read
again as the first of what follows.

The bytes of the text can be compared with those that were written, since replacing never makes
them fewer: each part that is not well-formed changes them, and no other part makes up for it.

**Results.**
* `lead_reads`, `step_reads`: what one byte does.
* `replaces_piecesFrom`, `replaces_iff`: the machine reads the text that the bytes stand for.
* `encode_lossy_append_iff`: when bytes that are read in two parts are found again.
* `captured_output_faithful`: when captured output has the bytes that were written.
-/

namespace FeatureLadder
namespace Utf8

open String (utf8EncodeChar)

section Machine

/-- What one byte can do, behind which `part` has been read: it completes a character, or the
part is held, or no character begins with the part. -/
inductive Reads (part : List UInt8) (refused : List Piece × State) : List Piece × State → Prop
  | complete (c : Char) (hc : utf8EncodeChar c = part) : Reads part refused ([.char c], .start)
  | pending {value missing : Nat} {low high : UInt8} (hheld : Held part value missing low high) :
      Reads part refused ([], .inside value missing low high)
  | refused (hpart : ¬ Opens part) : Reads part refused refused

/-- A byte below 80 is all of a character. -/
theorem encodeChar_ofNat
    {b : UInt8}
    (hb : b.toNat ≤ 0x7F) :
    utf8EncodeChar (Char.ofNat b.toNat) = [b] := by
  obtain ⟨c, hc⟩ := exists_char (n := b.toNat) (by omega)
  have hsize := utf8Size_cases c
  have hone : c.utf8Size = 1 := by omega
  have hbyte : c.val.toUInt8 = b := by
    rw [← UInt8.toNat_inj, UInt32.toNat_toUInt8, Char.toNat_val, hc]
    omega
  rw [← hc, Char.ofNat_toNat, String.utf8EncodeChar_eq_singleton hone, hbyte]

/-- No character begins with a byte from 80 to C1, or above F4. -/
theorem not_opens_singleton
    {b : UInt8}
    (hb : 0x7F < b.toNat ∧ b.toNat < 0xC2 ∨ 0xF4 < b.toNat) :
    ¬ Opens [b] := by
  rintro ⟨c, hc⟩
  have hsize := utf8Size_cases c
  have hvalid := toNat_valid c
  rw [singleton_prefix_iff] at hc
  omega

/-- **What a byte at the start of a character does.** -/
theorem lead_reads
    (b : UInt8) :
    Reads [b] ([.broken], .start) (lead b) := by
  unfold lead
  simp only [UInt8.le_iff_toNat_le, ← UInt8.toNat_inj, UInt8.reduceToNat]
  split
  · next hone => exact .complete _ (encodeChar_ofNat hone)
  split
  · exact .pending (held_two (by omega) (by omega))
  split
  · exact .pending (held_three (by omega) (by omega) (.inl ⟨rfl, rfl⟩) (.inr ⟨by omega, rfl⟩))
  split
  · exact .pending (held_three (by omega) (by omega) (.inr ⟨by omega, rfl⟩) (.inl ⟨rfl, rfl⟩))
  split
  · exact
      .pending (held_three (by omega) (by omega) (.inr ⟨by omega, rfl⟩) (.inr ⟨by omega, rfl⟩))
  split
  · exact .pending (held_four (by omega) (by omega) (.inl ⟨rfl, rfl⟩) (.inr ⟨by omega, rfl⟩))
  split
  · exact
      .pending (held_four (by omega) (by omega) (.inr ⟨by omega, rfl⟩) (.inr ⟨by omega, rfl⟩))
  split
  · exact .pending (held_four (by omega) (by omega) (.inr ⟨by omega, rfl⟩) (.inl ⟨rfl, rfl⟩))
  · exact .refused (not_opens_singleton (by omega))

/-- **What a byte inside a character does.** -/
theorem step_reads
    {held : List UInt8}
    {value missing : Nat}
    {low high : UInt8}
    (h : Held held value missing low high)
    (b : UInt8) :
    Reads (held ++ [b]) (.broken :: (lead b).1, (lead b).2)
      (step (.inside value missing low high) b) := by
  have hpos := h.missing_pos
  unfold step
  dsimp only
  split
  · next hb =>
    split
    · next hlast =>
      obtain rfl : missing = 1 := by omega
      exact .complete _ (h.complete hb)
    · next hmore => exact .pending (h.advance (by omega) hb)
  · next hb => exact .refused (mt (h.range_iff b).mpr hb)

/-- A byte with which no character begins is broken on its own. -/
theorem broken_singleton
    {b : UInt8}
    (hb : ¬ Opens [b])
    (rest : List UInt8) :
    Broken [b] rest where
  ne_nil := by simp
  opens := .inr rfl
  no_char c hc := by
    obtain ⟨x, more, hbytes⟩ :=
      List.exists_cons_of_ne_nil (String.utf8EncodeChar_ne_nil : utf8EncodeChar c ≠ [])
    rw [hbytes, List.singleton_append, List.cons_prefix_cons] at hc
    obtain ⟨rfl, -⟩ := hc
    exact hb ⟨c, more, hbytes.symm⟩
  maximal x _ hx := hb (hx.of_longer (List.prefix_append [b] [x]))

/-- Bytes that are held are broken where no byte continues them. -/
theorem Held.broken
    {held rest : List UInt8}
    {value missing : Nat}
    {low high : UInt8}
    (h : Held held value missing low high)
    (hstop : ∀ b, rest.head? = some b → ¬ Opens (held ++ [b])) :
    Broken held rest where
  ne_nil := h.ne_nil
  opens := .inl h.opens
  no_char c hc := by
    have hpos := h.missing_pos
    rcases List.prefix_or_prefix_of_prefix hc (List.prefix_append held rest) with hshort | hlong
    · obtain ⟨d, hd⟩ := h.opens
      obtain ⟨more, hmore⟩ := hshort.trans hd
      obtain ⟨rfl, -⟩ := encodeChar_append_inj (hmore.trans (List.append_nil _).symm)
      have hlength := hshort.length_le
      have hsize := ((h.prefix_iff c).mp hd).1
      rw [String.length_utf8EncodeChar] at hlength
      omega
    · obtain ⟨more, hmore⟩ := hlong
      have hsize := ((h.prefix_iff c).mp ⟨more, hmore⟩).1
      have hlength := congrArg List.length hmore
      rw [List.length_append, String.length_utf8EncodeChar] at hlength
      obtain ⟨x, more, rfl⟩ := List.exists_cons_of_length_pos (show 0 < more.length by omega)
      rw [← hmore, List.prefix_append_right_inj] at hc
      have hnext : rest.head? = some x := by
        obtain ⟨tail, rfl⟩ := hc
        rfl
      exact hstop x hnext ⟨c, more, by simp [← hmore]⟩
  maximal := hstop

/-- What the machine makes of bytes from a state on. -/
def piecesFrom (state : State) (bytes : List UInt8) : List Piece :=
  (scan state bytes).1 ++ finish (scan state bytes).2

theorem piecesFrom_cons
    (state : State)
    (b : UInt8)
    (bytes : List UInt8) :
    piecesFrom state (b :: bytes) =
      (step state b).1 ++ piecesFrom (step state b).2 bytes := by
  simp [piecesFrom, scan]

/-- The bytes that a state stands for. -/
def State.Holds : State → List UInt8 → Prop
  | .start, held => held = []
  | .inside value missing low high, held => Held held value missing low high

/-- **What the machine makes of bytes is the text they stand for**, from any state on. -/
theorem replaces_piecesFrom
    (bytes : List UInt8) :
    ∀ (state : State) (held : List UInt8), state.Holds held →
      Replaces (held ++ bytes) ((piecesFrom state bytes).map Piece.replace) := by
  induction bytes with
  | nil =>
      intro state held h
      cases state with
      | start =>
          obtain rfl : held = [] := h
          exact .nil
      | inside value missing low high =>
          exact .broken (Held.broken h (by simp)) .nil
  | cons b bytes ih =>
      have hstart : Replaces (b :: bytes) ((piecesFrom .start (b :: bytes)).map Piece.replace) := by
        have hreads : Reads [b] ([.broken], .start) (step .start b) := lead_reads b
        rw [piecesFrom_cons]
        generalize step .start b = outcome at hreads
        cases hreads with
        | complete c hc =>
            rw [← List.singleton_append, ← hc]
            exact .char c (ih .start [] rfl)
        | pending hheld => exact ih _ [b] hheld
        | refused hb => exact .broken (broken_singleton hb bytes) (ih .start [] rfl)
      intro state held h
      cases state with
      | start =>
          obtain rfl : held = [] := h
          exact hstart
      | inside value missing low high =>
          have hreads := step_reads h b
          rw [piecesFrom_cons]
          generalize step (.inside value missing low high) b = outcome at hreads
          cases hreads with
          | complete c hc =>
              rw [List.append_cons, ← hc]
              exact .char c (ih .start [] rfl)
          | pending hheld =>
              rw [List.append_cons]
              exact ih _ (held ++ [b]) hheld
          | refused hb =>
              have hbroken : Broken held (b :: bytes) := Held.broken h (by simpa using hb)
              rw [piecesFrom_cons] at hstart
              exact .broken hbroken hstart

end Machine

/-- **Bytes stand for the text that is read from them, and for no other.** -/
theorem replaces_iff
    {bytes : List UInt8}
    {text : List Char} :
    Replaces bytes text ↔ text = lossy bytes := by
  have hread : Replaces bytes (lossy bytes) := replaces_piecesFrom bytes .start [] rfl
  constructor
  · intro h
    exact h.functional hread
  · rintro rfl
    exact hread

/-- Well-formed bytes in front are read as their text, whatever follows. -/
theorem lossy_encode_append
    (text : List Char)
    (bytes : List UInt8) :
    lossy (encode text ++ bytes) = text ++ lossy bytes := by
  have hrest : Replaces bytes (lossy bytes) := replaces_iff.mpr rfl
  exact (replaces_iff.mp (replaces_encode_append text hrest)).symm

/-- Well-formed bytes are read as their text. -/
theorem lossy_encode
    (text : List Char) :
    lossy (encode text) = text := by
  have h := lossy_encode_append text []
  rw [List.append_nil] at h
  exact h.trans (List.append_nil text)

/-- The text that is read from bytes has these bytes exactly if they are well-formed. -/
theorem encode_lossy_iff
    (bytes : List UInt8) :
    encode (lossy bytes) = bytes ↔ WellFormed bytes := by
  constructor
  · intro h
    exact ⟨lossy bytes, h⟩
  · rintro ⟨text, rfl⟩
    rw [lossy_encode]

theorem length_le_encode_lossy
    (bytes : List UInt8) :
    bytes.length ≤ (encode (lossy bytes)).length :=
  (replaces_iff.mpr rfl : Replaces bytes (lossy bytes)).length_le

/-- **Bytes that are read in two parts are found again exactly if both parts are well-formed**: a
part that is not cannot be made up for by the other, since neither gets shorter. -/
theorem encode_lossy_append_iff
    (front back : List UInt8) :
    encode (lossy front ++ lossy back) = front ++ back ↔ WellFormed front ∧ WellFormed back := by
  rw [encode_append, ← encode_lossy_iff, ← encode_lossy_iff]
  constructor
  · intro h
    have hfront := length_le_encode_lossy front
    have hback := length_le_encode_lossy back
    have hlength := congrArg List.length h
    rw [List.length_append, List.length_append] at hlength
    exact List.append_inj h (by omega)
  · rintro ⟨hfront, hback⟩
    rw [hfront, hback]

end Utf8

/-- **Captured output is faithful.**  Its text has the bytes that were written, first those of the
standard output and then those of the standard error, if and only if each of the two is
well-formed.  If the standard output is, the text is the same as if all bytes had been read in
one piece. -/
theorem captured_output_faithful
    (stdout stderr : List UInt8) :
    (Utf8.encode (combineOutput stdout stderr).toList = stdout ++ stderr ↔
      Utf8.WellFormed stdout ∧ Utf8.WellFormed stderr) ∧
    (Utf8.WellFormed stdout →
      (combineOutput stdout stderr).toList = Utf8.lossy (stdout ++ stderr)) := by
  have htext : (combineOutput stdout stderr).toList = Utf8.lossy stdout ++ Utf8.lossy stderr :=
    String.toList_ofList
  rw [htext]
  refine ⟨Utf8.encode_lossy_append_iff stdout stderr, ?_⟩
  rintro ⟨text, rfl⟩
  rw [Utf8.lossy_encode_append, Utf8.lossy_encode]

/-- A character with three bytes on the standard output, and a truncated one, a surrogate and an
overlong form on the standard error. -/
theorem captured_output_faithful_broken :
    Utf8.WellFormed [0xE2, 0x82, 0xAC] ∧
    (combineOutput [0xE2, 0x82, 0xAC] [0xE2, 0x82, 0xED, 0xA0, 0x80, 0xC0, 0xAF]).toList =
      Utf8.lossy [0xE2, 0x82, 0xAC, 0xE2, 0x82, 0xED, 0xA0, 0x80, 0xC0, 0xAF] ∧
    Utf8.lossy [0xE2, 0x82, 0xAC, 0xE2, 0x82, 0xED, 0xA0, 0x80, 0xC0, 0xAF] =
      '€' :: List.replicate 6 Utf8.replacement := by
  have hformed : Utf8.WellFormed [0xE2, 0x82, 0xAC] := ⟨['€'], by decide⟩
  exact ⟨hformed, (captured_output_faithful _ _).2 hformed, by decide⟩

/-- U+FFFD that is split between the two becomes two of it. -/
example :
    Utf8.lossy [0xEF, 0xBF] ++ Utf8.lossy [0xBD] = [Utf8.replacement, Utf8.replacement] ∧
      Utf8.lossy [0xEF, 0xBF, 0xBD] = [Utf8.replacement] := by
  decide

end FeatureLadder
