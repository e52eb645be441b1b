import FeatureLadder.Json.Value
import FeatureLadder.Proofs.JsonReading

/-!
# What is written can be read

The writer has a type of values of its own, which has no fractions, no exponents and no
`null`.  `Json.datum` gives each of them its place among the values of the grammar.

Both layouts put their parts between commas; they differ in the blanks around the parts.
A lemma on lists and one on objects leave the texts of the parts open, so that each
layout is an instance of them: `compact` with no blanks at all, `prettyAt` with a new
line before every part and before the closing bracket, and with a blank before the value
of a member.

**Results.**
* `spelled_escapeChar`: what is written for a character spells that character.
* `writtenAs_compact`, `writtenAs_prettyAt`: either layout says the value it was given.
* `read?_toCompact`, `read?_toPretty`: so reading gives that value back.
-/

namespace FeatureLadder
namespace Json

theorem sizeOf_item_lt
    {item : Json}
    {items : List Json}
    (h : item ∈ items) :
    sizeOf item < sizeOf (Json.list items) := by
  have hitem := List.sizeOf_lt_of_mem h
  rw [list.sizeOf_spec]
  omega

theorem sizeOf_member_lt
    {member : String × Json}
    {members : List (String × Json)}
    (h : member ∈ members) :
    sizeOf member.2 < sizeOf (Json.object members) := by
  have hmember := List.sizeOf_lt_of_mem h
  have hvalue : sizeOf member = 1 + sizeOf member.1 + sizeOf member.2 := rfl
  rw [object.sizeOf_spec]
  omega

/-- What a value says, in the terms of the grammar. -/
def datum : Json → Datum
  | .bool b => .bool b
  | .number n => .number n 0
  | .text s => .text s
  | .list items => .list (items.map datum)
  | .object members => .object (members.map fun member => (member.1, member.2.datum))
termination_by value => sizeOf value
decreasing_by
  · next h => exact sizeOf_item_lt h
  · next h => exact sizeOf_member_lt h

/-- Values are built from values. -/
theorem induction
    {P : Json → Prop}
    (bool : ∀ b, P (.bool b))
    (number : ∀ n, P (.number n))
    (text : ∀ s, P (.text s))
    (list : ∀ items, (∀ item ∈ items, P item) → P (.list items))
    (object : ∀ members, (∀ member ∈ members, P member.2) → P (.object members)) :
    ∀ value, P value
  | .bool b => bool b
  | .number n => number n
  | .text s => text s
  | .list items =>
      list items fun item _ => induction bool number text list object item
  | .object members =>
      object members fun member _ => induction bool number text list object member.2
termination_by value => sizeOf value
decreasing_by
  · next h => exact sizeOf_item_lt h
  · next h => exact sizeOf_member_lt h

section Parts

theorem hexValue?_hexDigit :
    ∀ n < 16, Datum.hexValue? (hexDigit n) = some n := by
  decide

/-- A character below the blank is spelled by its number, unless it has a name. -/
theorem spelled_control
    {c : Char}
    (hc : c.toNat < 0x20) :
    Datum.Spelled c
      ['\\', 'u', '0', '0', hexDigit (c.toNat / 16), hexDigit (c.toNat % 16)] := by
  have hunit :
      Datum.unit? ['0', '0', hexDigit (c.toNat / 16), hexDigit (c.toNat % 16)] =
        some c.toNat := by
    have hzero : Datum.hexValue? '0' = some 0 := by decide
    have hhigh := hexValue?_hexDigit (c.toNat / 16) (by omega)
    have hlow := hexValue?_hexDigit (c.toNat % 16) (by omega)
    simp only [Datum.unit?, hzero, hhigh, hlow, Option.bind_eq_bind, Option.bind_some,
      Option.pure_def, Option.some.injEq]
    omega
  have hspelled := Datum.Spelled.unit hunit (by unfold Datum.IsHigh; omega)
    (by unfold Datum.IsLow; omega)
  rwa [Char.ofNat_toNat] at hspelled

/-- **What is written for a character spells it.** -/
theorem spelled_escapeChar
    (c : Char) :
    Datum.Spelled c (escapeChar c) := by
  by_cases hnamed : c ∈ ['"', '\\', '\x08', '\x0c', '\n', '\r', '\t']
  · simp only [List.mem_cons, List.not_mem_nil, or_false] at hnamed
    rcases hnamed with rfl | rfl | rfl | rfl | rfl | rfl | rfl <;> exact .short rfl
  · simp only [List.mem_cons, List.not_mem_nil, or_false, not_or] at hnamed
    obtain ⟨hquote, hback, hb, hf, hn, hr, ht⟩ := hnamed
    simp only [escapeChar, hquote, hback, hb, hf, hn, hr, ht, if_false]
    split
    · next hlow => exact spelled_control hlow
    · next hhigh =>
      apply Datum.Spelled.raw
      simp only [Datum.isRaw, hquote, hback, ne_eq, not_false_eq_true, decide_true,
        Bool.and_true, decide_eq_true_eq]
      omega

theorem spelledAll_flatMap :
    ∀ cs : List Char, Datum.SpelledAll cs (cs.flatMap escapeChar)
  | [] => .nil
  | c :: cs => .cons (spelled_escapeChar c) (spelledAll_flatMap cs)

theorem writtenAs_writeText
    (s : String) :
    Datum.WrittenAs (.text s) (writeText s) := by
  have h := Datum.WrittenAs.text (spelledAll_flatMap s.toList)
  rwa [String.ofList_toList] at h

theorem head?_toDigits_ne_zero
    {n : Nat}
    (hn : 0 < n) :
    (Nat.toDigits 10 n).head? ≠ some '0' := by
  induction n using Nat.strongRecOn with
  | ind n ih =>
      by_cases hsmall : n < 10
      · rw [Nat.toDigits_of_lt_base hsmall]
        have hdigit : ∀ n < 10, 0 < n → n.digitChar ≠ '0' := by decide
        simpa using hdigit n hsmall hn
      · have hfirst := ih (n / 10) (by omega) (by omega)
        rw [Nat.toDigits_of_base_le (by decide) (by omega)]
        obtain ⟨d, tail, hdigits⟩ :=
          List.exists_cons_of_ne_nil (Nat.toDigits_ne_nil (n := n / 10) (b := 10))
        rw [hdigits] at hfirst ⊢
        exact hfirst

/-- A number is written without superfluous zeros. -/
theorem isStripped_toDigits
    (n : Nat) :
    IsStripped (Nat.toDigits 10 n) where
  digits := by
    rw [List.all_eq_true]
    intro c hc
    exact Nat.isDigit_of_mem_toDigits (by decide) (by decide) hc
  start := by
    rcases Nat.eq_zero_or_pos n with rfl | hn
    · exact Or.inr (Nat.toDigits_zero 10)
    · left
      have hfirst := head?_toDigits_ne_zero hn
      obtain ⟨d, tail, hdigits⟩ :=
        List.exists_cons_of_ne_nil (Nat.toDigits_ne_nil (n := n) (b := 10))
      rw [hdigits] at hfirst
      exact ⟨d, tail, hdigits, by simpa using hfirst⟩

theorem magnitude_toDigits
    (n : Nat) :
    Datum.Magnitude (n, 0) (Nat.toDigits 10 n) := by
  have h := Datum.Magnitude.mk (isStripped_toDigits n) .absent .absent
  simpa [runValue, Nat.ofDigitChars_ten_toDigits] using h

theorem writtenAs_writeNumber
    (n : Int) :
    Datum.WrittenAs (.number n 0) (writeNumber n) := by
  cases n with
  | ofNat n => exact .number (magnitude_toDigits n)
  | negSucc n => exact .negative (magnitude_toDigits (n + 1))

theorem writtenAs_writeBool
    (b : Bool) :
    Datum.WrittenAs (.bool b) (writeBool b) := by
  cases b with
  | true => exact .true
  | false => exact .false

end Parts

section Layout

/-- Writing items one by one, each but the last with a comma behind it, puts commas
between them. -/
theorem eq_intercalate_of_separated
    {α : Type}
    {write : List α → List Char}
    {one : α → List Char}
    (hnil : write [] = [])
    (hone : ∀ x, write [x] = one x)
    (hmore : ∀ x y more, write (x :: y :: more) = one x ++ ',' :: write (y :: more)) :
    ∀ xs : List α, write xs = [','].intercalate (xs.map one)
  | [] => hnil
  | [x] => by rw [hone, List.map_singleton, List.intercalate_singleton]
  | x :: y :: more => by
      have ih := eq_intercalate_of_separated hnil hone hmore (y :: more)
      rw [List.map_cons] at ih
      rw [hmore, ih, List.map_cons, List.map_cons, List.intercalate_cons_cons]
      simp

theorem compactItems_eq
    (items : List Json) :
    compactItems items = [','].intercalate (items.map compact) :=
  eq_intercalate_of_separated rfl (by simp [compactItems]) (by simp [compactItems]) items

theorem compactMembers_eq
    (members : List (String × Json)) :
    compactMembers members =
      [','].intercalate
        (members.map fun member => writeText member.1 ++ ':' :: compact member.2) :=
  eq_intercalate_of_separated rfl (by simp [compactMembers]) (by simp [compactMembers]) members

theorem prettyItems_eq
    (depth : Nat)
    (items : List Json) :
    prettyItems depth items =
      [','].intercalate (items.map fun item => newline depth ++ prettyAt depth item) :=
  eq_intercalate_of_separated rfl (by simp [prettyItems]) (by simp [prettyItems]) items

theorem prettyMembers_eq
    (depth : Nat)
    (members : List (String × Json)) :
    prettyMembers depth members =
      [','].intercalate
        (members.map fun member =>
          newline depth ++ writeText member.1 ++ ':' :: ' ' :: prettyAt depth member.2) :=
  eq_intercalate_of_separated rfl (by simp [prettyMembers]) (by simp [prettyMembers]) members

theorem isGap_newline
    (depth : Nat) :
    Datum.IsGap (newline depth) := by
  intro c hc
  rcases List.mem_cons.mp hc with rfl | hc
  · rfl
  · rw [List.eq_of_mem_replicate hc]
    rfl

theorem isGap_nil :
    Datum.IsGap [] := by
  intro c hc
  cases hc

/-- Blanks may stand before a value. -/
theorem writtenAs_after
    {gap s : List Char}
    {d : Datum}
    (hgap : Datum.IsGap gap)
    (h : Datum.WrittenAs d s) :
    Datum.WrittenAs d (gap ++ s) := by
  have hpadded := Datum.WrittenAs.padded hgap h isGap_nil
  rwa [List.append_nil] at hpadded

/-- A list says its items, however these are written. -/
theorem writtenAs_list
    {items : List Json}
    {write : Json → List Char}
    (hitems : ∀ item ∈ items, Datum.WrittenAs item.datum (write item))
    {gap : List Char}
    (hgap : Datum.IsGap gap) :
    Datum.WrittenAs (list items).datum
      ('[' :: [','].intercalate (items.map write) ++ gap ++ [']']) := by
  have hparts : ∀ p ∈ items.map fun item => (item.datum, write item),
      Datum.WrittenAs p.1 p.2 := by
    intro p hp
    obtain ⟨item, hitem, rfl⟩ := List.mem_map.mp hp
    exact hitems item hitem
  have hlist := Datum.WrittenAs.list hparts hgap
  rw [List.map_map, List.map_map] at hlist
  rw [datum]
  exact hlist

/-- An object says its members, however these are written. -/
theorem writtenAs_object
    {members : List (String × Json)}
    {writeName : String → List Char}
    {write : String × Json → List Char}
    (hnames : ∀ name, Datum.WrittenAs (.text name) (writeName name))
    (hvalues : ∀ member ∈ members, Datum.WrittenAs member.2.datum (write member))
    {gap : List Char}
    (hgap : Datum.IsGap gap) :
    Datum.WrittenAs (object members).datum
      ('\x7b' :: [','].intercalate
          (members.map fun member => writeName member.1 ++ ':' :: write member) ++
        gap ++ ['\x7d']) := by
  let part (member : String × Json) : Datum.Member :=
    ⟨member.1, member.2.datum, writeName member.1, write member⟩
  have hparts : ∀ m ∈ members.map part,
      Datum.WrittenAs (.text m.name) m.nameText ∧ Datum.WrittenAs m.value m.valueText := by
    intro m hm
    obtain ⟨member, hmember, rfl⟩ := List.mem_map.mp hm
    exact ⟨hnames member.1, hvalues member hmember⟩
  have hobject :=
    Datum.WrittenAs.object (fun m hm => (hparts m hm).1) (fun m hm => (hparts m hm).2) hgap
  rw [List.map_map, List.map_map] at hobject
  rw [datum]
  exact hobject

end Layout

/-- **A value written without blanks says that value.** -/
theorem writtenAs_compact
    (value : Json) :
    Datum.WrittenAs value.datum value.compact := by
  induction value using Json.induction with
  | bool b =>
      rw [datum, compact]
      exact writtenAs_writeBool b
  | number n =>
      rw [datum, compact]
      exact writtenAs_writeNumber n
  | text s =>
      rw [datum, compact]
      exact writtenAs_writeText s
  | list items ih =>
      have hlist := writtenAs_list ih isGap_nil
      rwa [List.append_nil, ← compactItems_eq] at hlist
  | object members ih =>
      have hobject := writtenAs_object writtenAs_writeText ih isGap_nil
      rwa [List.append_nil, ← compactMembers_eq] at hobject

/-- **A value written over several lines says that value**, at any depth. -/
theorem writtenAs_prettyAt
    (value : Json)
    (depth : Nat) :
    Datum.WrittenAs value.datum (value.prettyAt depth) := by
  induction value using Json.induction generalizing depth with
  | bool b =>
      rw [datum, prettyAt]
      exact writtenAs_writeBool b
  | number n =>
      rw [datum, prettyAt]
      exact writtenAs_writeNumber n
  | text s =>
      rw [datum, prettyAt]
      exact writtenAs_writeText s
  | list items ih =>
      have hitems : ∀ item ∈ items, Datum.WrittenAs item.datum
          (newline (depth + 1) ++ prettyAt (depth + 1) item) := by
        intro item hitem
        exact writtenAs_after (isGap_newline (depth + 1)) (ih item hitem (depth + 1))
      cases items with
      | nil => exact writtenAs_list hitems isGap_nil
      | cons item more =>
          have hlist := writtenAs_list hitems (isGap_newline depth)
          rwa [← prettyItems_eq] at hlist
  | object members ih =>
      have hnames : ∀ name, Datum.WrittenAs (.text name)
          (newline (depth + 1) ++ writeText name) := by
        intro name
        exact writtenAs_after (isGap_newline (depth + 1)) (writtenAs_writeText name)
      have hvalues : ∀ member ∈ members, Datum.WrittenAs member.2.datum
          (' ' :: prettyAt (depth + 1) member.2) := by
        intro member hmember
        have hblank : Datum.IsGap [' '] := by simp [Datum.IsGap, Datum.isGapChar]
        exact writtenAs_after hblank (ih member hmember (depth + 1))
      cases members with
      | nil => exact writtenAs_object hnames hvalues isGap_nil
      | cons member more =>
          have hobject := writtenAs_object hnames hvalues (isGap_newline depth)
          rwa [← prettyMembers_eq] at hobject

/-- A document on one line is read as the value it was made from. -/
theorem read?_toCompact
    (value : Json) :
    Datum.read? value.toCompact = some value.datum := by
  rw [Datum.read?_eq_some_iff, toCompact, String.toList_ofList]
  exact writtenAs_compact value

/-- A document over several lines, with a line feed behind it, is read as the value it was
made from. -/
theorem read?_toPretty
    (value : Json) :
    Datum.read? (value.toPretty ++ "\n") = some value.datum := by
  have hline : Datum.IsGap ['\n'] := by simp [Datum.IsGap, Datum.isGapChar]
  have hpadded := Datum.WrittenAs.padded isGap_nil (writtenAs_prettyAt value 0) hline
  rw [Datum.read?_eq_some_iff, String.toList_append, toPretty, String.toList_ofList]
  exact hpadded

end Json
end FeatureLadder
