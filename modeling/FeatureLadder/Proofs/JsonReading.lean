import FeatureLadder.Proofs.JsonLexemes

/-!
# Reading JSON texts

**Input**: any text.

**Algorithm**: recursive descent.  The first character of a value tells its kind; a list and
an object hold values of a lesser depth, with commas between them.  What follows a value is
a gap, a separator, a closing bracket or the end.

**Results.**
* `readSeparated_sound`, `readSeparated_complete`: what stands between brackets is read
  exactly if its items are.
* `readValue_sound`, `readAs_of_writtenAs`: values are read exactly, by induction on the
  depth and on the grammar.
* `read?_eq_some_iff`: a text is read as a datum exactly if it says that datum, so no text
  says two things.
-/

namespace FeatureLadder
namespace Datum

section Readers

variable {α : Type}

/-- Reads items with commas between them and the closing bracket, at most as many as
given. -/
def readMore (item : List Char → Option (α × List Char)) (close : Char) :
    Nat → List Char → Option (List α × List Char)
  | 0, _ => none
  | n + 1, s =>
    match item s with
    | some (x, c :: s) =>
      if c = ',' then (readMore item close n s).map fun p => (x :: p.1, p.2)
      else if c = close then some ([x], s)
      else none
    | _ => none

/-- Reads what stands behind an opening bracket, up to the closing one. -/
def readSeparated (item : List Char → Option (α × List Char)) (close : Char) (s : List Char) :
    Option (List α × List Char) :=
  if (skipGap s).head? = some close then some ([], (skipGap s).tail)
  else readMore item close s.length s

def readMember (value : List Char → Option (Datum × List Char)) (s : List Char) :
    Option ((String × Datum) × List Char) :=
  match value s with
  | some (.text name, ':' :: s) => (value s).map fun p => ((name, p.1), p.2)
  | _ => none

/-- Reads a value without gaps around it; `inner` reads the values in it. -/
def readBare (inner : List Char → Option (Datum × List Char)) :
    List Char → Option (Datum × List Char)
  | 'n' :: 'u' :: 'l' :: 'l' :: s => some (.null, s)
  | 't' :: 'r' :: 'u' :: 'e' :: s => some (.bool true, s)
  | 'f' :: 'a' :: 'l' :: 's' :: 'e' :: s => some (.bool false, s)
  | '"' :: s => (readSpelledAll s.length s).map fun p => (.text (String.ofList p.1), p.2)
  | '[' :: s => (readSeparated inner ']' s).map fun p => (.list p.1, p.2)
  | '\x7b' :: s => (readSeparated (readMember inner) '\x7d' s).map fun p => (.object p.1, p.2)
  | '-' :: s => (readMagnitude s).map fun p => (.number (-(p.1.1 : Int)) p.1.2, p.2)
  | s => (readMagnitude s).map fun p => (.number p.1.1 p.1.2, p.2)

/-- Reads a value and the gaps around it, down to a depth. -/
def readValue : Nat → List Char → Option (Datum × List Char)
  | 0, _ => none
  | depth + 1, s => (readBare (readValue depth) (skipGap s)).map fun p => (p.1, skipGap p.2)

def read? (s : String) : Option Datum :=
  match readValue (s.toList.length + 1) s.toList with
  | some (d, []) => some d
  | _ => none

end Readers

section Lists

variable {α : Type}

/-- The characters that can follow a value and the gap behind it. -/
def isDelimiter (c : Char) : Bool :=
  c = ',' || c = ':' || c = ']' || c = '\x7d'

/-- What can follow a value: a gap, and then a delimiter or the end. -/
def Ends (rest : List Char) : Prop :=
  ∀ c ∈ (skipGap rest).head?, isDelimiter c = true

theorem isGapChar_cases
    {c : Char}
    (hc : isGapChar c = true) :
    c = ' ' ∨ c = '\t' ∨ c = '\n' ∨ c = '\r' := by
  simpa [isGapChar, or_assoc] using hc

theorem isDelimiter_cases
    {c : Char}
    (hc : isDelimiter c = true) :
    c = ',' ∨ c = ':' ∨ c = ']' ∨ c = '\x7d' := by
  simpa [isDelimiter, or_assoc] using hc

theorem isGapChar_of_isDelimiter
    {c : Char}
    (hc : isDelimiter c = true) :
    isGapChar c = false := by
  rcases isDelimiter_cases hc with rfl | rfl | rfl | rfl <;> rfl

theorem ends_cons
    {c : Char}
    (hc : isDelimiter c = true)
    (s : List Char) :
    Ends (c :: s) := by
  intro d hd
  rw [skipGap_cons_of_not (isGapChar_of_isDelimiter hc)] at hd
  cases hd
  exact hc

theorem ends_append
    {gap : List Char}
    (hgap : IsGap gap)
    {rest : List Char} :
    Ends (gap ++ rest) ↔ Ends rest := by
  rw [Ends, skipGap_append hgap, Ends]

/-- What can follow a value cannot lengthen a number. -/
theorem Ends.startsWithout
    {rest : List Char}
    (h : Ends rest) :
    StartsWithout isNumberChar rest := by
  intro c hc
  cases rest with
  | nil => cases hc
  | cons d tail =>
      obtain rfl : d = c := Option.some.inj hc
      by_cases hgap : isGapChar d = true
      · rcases isGapChar_cases hgap with rfl | rfl | rfl | rfl <;> rfl
      · have hdelimiter : isDelimiter d = true := by
          apply h d
          rw [skipGap_cons_of_not (by simpa using hgap)]
          rfl
        rcases isDelimiter_cases hdelimiter with rfl | rfl | rfl | rfl <;> rfl

variable {item : List Char → Option (α × List Char)}
variable {close : Char}

theorem readMore_sound
    {P : α → List Char → Prop}
    (hitem : ∀ {s x rest}, item s = some (x, rest) → ∃ t, s = t ++ rest ∧ P x t)
    {n : Nat}
    {s rest : List Char}
    {xs : List α}
    (h : readMore item close n s = some (xs, rest)) :
    ∃ parts : List (α × List Char),
      parts ≠ [] ∧
      parts.map Prod.fst = xs ∧
      (∀ p ∈ parts, P p.1 p.2) ∧
      s = [','].intercalate (parts.map Prod.snd) ++ close :: rest := by
  induction n generalizing s xs with
  | zero => cases h
  | succ n ih =>
      unfold readMore at h
      split at h
      · next x c s' hread =>
        obtain ⟨t, rfl, ht⟩ := hitem hread
        split at h
        · next hcomma =>
          obtain ⟨⟨xs', rest'⟩, hmore, hsame⟩ := Option.map_eq_some_iff.mp h
          cases hsame
          obtain ⟨parts, hne, rfl, hparts, rfl⟩ := ih hmore
          refine ⟨(x, t) :: parts, by simp, rfl, ?_, ?_⟩
          · exact List.forall_mem_cons.mpr ⟨ht, hparts⟩
          · obtain ⟨p, parts, rfl⟩ := List.exists_cons_of_ne_nil hne
            simp [hcomma, List.intercalate_cons_cons]
        · split at h
          · next hclose =>
            cases h
            exact ⟨[(x, t)], by simp, rfl, by simpa using ht, by simp [hclose]⟩
          · cases h
      · cases h

/-- What a list holds is read soundly if its items are. -/
theorem readSeparated_sound
    {P : α → List Char → Prop}
    (hitem : ∀ {s x rest}, item s = some (x, rest) → ∃ t, s = t ++ rest ∧ P x t)
    {s rest : List Char}
    {xs : List α}
    (h : readSeparated item close s = some (xs, rest)) :
    ∃ (parts : List (α × List Char)) (gap : List Char),
      parts.map Prod.fst = xs ∧
      (∀ p ∈ parts, P p.1 p.2) ∧
      IsGap gap ∧
      s = [','].intercalate (parts.map Prod.snd) ++ gap ++ close :: rest := by
  unfold readSeparated at h
  split at h
  · next hhead =>
    obtain ⟨gap, hgap, hs⟩ := exists_gap_append s
    obtain ⟨tail, htail⟩ := List.head?_eq_some_iff.mp hhead
    rw [htail] at h hs
    cases h
    exact ⟨[], gap, rfl, by simp, hgap, by simpa using hs⟩
  · obtain ⟨parts, -, hfst, hparts, hs⟩ := readMore_sound hitem h
    exact ⟨parts, [], hfst, hparts, by simp [IsGap], by simpa using hs⟩

theorem readMore_complete
    {parts : List (α × List Char)}
    (hitems : ∀ p ∈ parts, ∀ rest, Ends rest → item (p.2 ++ rest) = some (p.1, skipGap rest))
    (hclose : isDelimiter close = true)
    (hcomma : close ≠ ',')
    {gap : List Char}
    (hgap : IsGap gap)
    (hne : parts ≠ [])
    {n : Nat}
    (hn : parts.length ≤ n)
    (rest : List Char) :
    readMore item close n ([','].intercalate (parts.map Prod.snd) ++ gap ++ close :: rest) =
      some (parts.map Prod.fst, rest) := by
  induction parts generalizing n with
  | nil => exact absurd rfl hne
  | cons p parts ih =>
      obtain ⟨n, rfl⟩ := Nat.exists_eq_add_one_of_ne_zero (Nat.ne_zero_of_lt hn)
      obtain ⟨hp, hparts⟩ := List.forall_mem_cons.mp hitems
      unfold readMore
      cases parts with
      | nil =>
          have hread := hp (gap ++ close :: rest) ((ends_append hgap).mpr (ends_cons hclose rest))
          rw [skipGap_append hgap, skipGap_cons_of_not (isGapChar_of_isDelimiter hclose)] at hread
          simp [hread, hcomma]
      | cons q parts =>
          have hmore := ih hparts (by simp) (by simpa using hn)
          have hread := hp (',' :: ([','].intercalate ((q :: parts).map Prod.snd) ++ gap ++
            close :: rest)) (ends_cons rfl _)
          have htext :
              [','].intercalate ((p :: q :: parts).map Prod.snd) ++ gap ++ close :: rest =
                p.2 ++ ',' :: ([','].intercalate ((q :: parts).map Prod.snd) ++ gap ++
                  close :: rest) := by
            simp [List.intercalate_cons_cons]
          rw [skipGap_cons_of_not rfl] at hread
          rw [htext, hread]
          simp only [if_true, hmore]
          rfl

theorem readMore_of_none
    {s : List Char}
    (h : item s = none)
    (n : Nat) :
    readMore item close n s = none := by
  cases n with
  | zero => rfl
  | succ n => simp [readMore, h]

theorem length_le_intercalate :
    ∀ texts : List (List Char), texts.length ≤ ([','].intercalate texts).length + 1
  | [] => Nat.zero_le _
  | [_] => by simp
  | s :: t :: texts => by
      have ih := length_le_intercalate (t :: texts)
      rw [List.intercalate_cons_cons]
      simp only [List.length_append, List.length_cons, List.length_nil] at ih ⊢
      omega

/-- What a list holds is read completely if its items are, and if the closing bracket is
not taken for an item. -/
theorem readSeparated_complete
    {parts : List (α × List Char)}
    (hitems : ∀ p ∈ parts, ∀ rest, Ends rest → item (p.2 ++ rest) = some (p.1, skipGap rest))
    (hnone : ∀ s tail, skipGap s = close :: tail → item s = none)
    (hclose : isDelimiter close = true)
    (hcomma : close ≠ ',')
    {gap : List Char}
    (hgap : IsGap gap)
    (rest : List Char) :
    readSeparated item close ([','].intercalate (parts.map Prod.snd) ++ gap ++ close :: rest) =
      some (parts.map Prod.fst, rest) := by
  unfold readSeparated
  cases parts with
  | nil =>
      have hskip : skipGap (gap ++ close :: rest) = close :: rest := by
        rw [skipGap_append hgap, skipGap_cons_of_not (isGapChar_of_isDelimiter hclose)]
      simp [hskip]
  | cons p parts =>
      have hlength := length_le_intercalate ((p :: parts).map Prod.snd)
      have hread := readMore_complete hitems hclose hcomma hgap (by simp)
        (n := ([','].intercalate ((p :: parts).map Prod.snd) ++ gap ++ close :: rest).length)
        (by simp only [List.length_map, List.length_append, List.length_cons] at hlength ⊢; omega)
        rest
      rw [if_neg, hread]
      intro hhead
      obtain ⟨tail, htail⟩ := List.head?_eq_some_iff.mp hhead
      rw [readMore_of_none (hnone _ tail htail)] at hread
      cases hread

end Lists

section Values

variable {inner : List Char → Option (Datum × List Char)}

/-- A member as the reader of members takes it. -/
def IsMember (said : String × Datum) (t : List Char) : Prop :=
  ∃ m : Member,
    m.said = said ∧ m.written = t ∧
    WrittenAs (.text m.name) m.nameText ∧ WrittenAs m.value m.valueText

theorem readMember_sound
    (hinner : ∀ {s d rest}, inner s = some (d, rest) → ∃ t, s = t ++ rest ∧ WrittenAs d t)
    {s rest : List Char}
    {said : String × Datum}
    (h : readMember inner s = some (said, rest)) :
    ∃ t, s = t ++ rest ∧ IsMember said t := by
  unfold readMember at h
  split at h
  · next name s' hname =>
    obtain ⟨⟨value, rest'⟩, hvalue, hsame⟩ := Option.map_eq_some_iff.mp h
    cases hsame
    obtain ⟨nameText, rfl, hsaid⟩ := hinner hname
    obtain ⟨valueText, rfl, hsaid'⟩ := hinner hvalue
    refine ⟨nameText ++ ':' :: valueText, by simp, ?_⟩
    exact ⟨⟨name, value, nameText, valueText⟩, rfl, rfl, hsaid, hsaid'⟩
  · cases h

/-- Members that are given one by one are given as a list. -/
theorem exists_members :
    ∀ {parts : List ((String × Datum) × List Char)}, (∀ p ∈ parts, IsMember p.1 p.2) →
      ∃ members : List Member,
        members.map Member.said = parts.map Prod.fst ∧
        members.map Member.written = parts.map Prod.snd ∧
        (∀ m ∈ members, WrittenAs (.text m.name) m.nameText) ∧
        ∀ m ∈ members, WrittenAs m.value m.valueText
  | [], _ => ⟨[], rfl, rfl, by simp, by simp⟩
  | p :: parts, h => by
      obtain ⟨⟨m, hsaid, hwritten, hname, hvalue⟩, hparts⟩ := List.forall_mem_cons.mp h
      obtain ⟨members, hsaids, hwrittens, hnames, hvalues⟩ := exists_members hparts
      refine ⟨m :: members, ?_, ?_, ?_, ?_⟩
      · rw [List.map_cons, List.map_cons, hsaid, hsaids]
      · rw [List.map_cons, List.map_cons, hwritten, hwrittens]
      · exact List.forall_mem_cons.mpr ⟨hname, hnames⟩
      · exact List.forall_mem_cons.mpr ⟨hvalue, hvalues⟩

theorem readBare_sound
    (hinner : ∀ {s d rest}, inner s = some (d, rest) → ∃ t, s = t ++ rest ∧ WrittenAs d t)
    {s rest : List Char}
    {d : Datum}
    (h : readBare inner s = some (d, rest)) :
    ∃ t, s = t ++ rest ∧ WrittenAs d t := by
  unfold readBare at h
  split at h
  · cases h
    exact ⟨['n', 'u', 'l', 'l'], rfl, .null⟩
  · cases h
    exact ⟨['t', 'r', 'u', 'e'], rfl, .true⟩
  · cases h
    exact ⟨['f', 'a', 'l', 's', 'e'], rfl, .false⟩
  · next s =>
    obtain ⟨⟨cs, rest'⟩, hread, hsame⟩ := Option.map_eq_some_iff.mp h
    cases hsame
    obtain ⟨t, rfl, ht⟩ := readSpelledAll_sound hread
    exact ⟨'"' :: t ++ ['"'], by simp, .text ht⟩
  · next s =>
    obtain ⟨⟨items, rest'⟩, hread, hsame⟩ := Option.map_eq_some_iff.mp h
    cases hsame
    obtain ⟨parts, gap, rfl, hparts, hgap, rfl⟩ := readSeparated_sound hinner hread
    exact ⟨_, by simp, .list hparts hgap⟩
  · next s =>
    obtain ⟨⟨members, rest'⟩, hread, hsame⟩ := Option.map_eq_some_iff.mp h
    cases hsame
    obtain ⟨parts, gap, rfl, hparts, hgap, rfl⟩ :=
      readSeparated_sound (readMember_sound hinner) hread
    obtain ⟨members, hsaid, hwritten, hnames, hvalues⟩ := exists_members hparts
    rw [← hsaid, ← hwritten]
    exact ⟨_, by simp, .object hnames hvalues hgap⟩
  · next s =>
    obtain ⟨⟨n, rest'⟩, hread, hsame⟩ := Option.map_eq_some_iff.mp h
    cases hsame
    obtain ⟨t, rfl, ht⟩ := readMagnitude_exact.sound hread
    exact ⟨'-' :: t, rfl, .negative ht⟩
  · obtain ⟨⟨n, rest'⟩, hread, hsame⟩ := Option.map_eq_some_iff.mp h
    cases hsame
    obtain ⟨t, rfl, ht⟩ := readMagnitude_exact.sound hread
    exact ⟨t, rfl, .number ht⟩

/-- **What is read is said by the part of the text that was read.** -/
theorem readValue_sound
    {depth : Nat}
    {s rest : List Char}
    {d : Datum}
    (h : readValue depth s = some (d, rest)) :
    ∃ t, s = t ++ rest ∧ WrittenAs d t := by
  induction depth generalizing s rest d with
  | zero => cases h
  | succ depth ih =>
      obtain ⟨⟨d', rest'⟩, hread, hsame⟩ := Option.map_eq_some_iff.mp h
      cases hsame
      obtain ⟨t, hs, ht⟩ := readBare_sound ih hread
      obtain ⟨before, hbefore, hskip⟩ := exists_gap_append s
      obtain ⟨after, hafter, hrest⟩ := exists_gap_append rest'
      refine ⟨before ++ t ++ after, ?_, .padded hbefore ht hafter⟩
      calc s = before ++ (t ++ rest') := by rw [← hs, ← hskip]
        _ = before ++ (t ++ (after ++ skipGap rest')) := by rw [← hrest]
        _ = before ++ t ++ after ++ skipGap rest' := by simp

theorem isGapChar_of_isDigit
    {c : Char}
    (hc : c.isDigit = true) :
    isGapChar c = false := by
  by_contra hgap
  rcases isGapChar_cases (by simpa using hgap) with rfl | rfl | rfl | rfl <;> cases hc

theorem readMagnitude_of_not_isDigit
    {c : Char}
    (hc : c.isDigit = false)
    (s : List Char) :
    readMagnitude (c :: s) = none := by
  simp [readMagnitude, readWhole, readRun, hc]

/-- A closing bracket is no value. -/
theorem readValue_close
    {depth : Nat}
    {c : Char}
    (hc : c = ']' ∨ c = '\x7d')
    {s tail : List Char}
    (hs : skipGap s = c :: tail) :
    readValue depth s = none := by
  cases depth with
  | zero => rfl
  | succ depth =>
      rw [readValue, hs]
      rcases hc with rfl | rfl
      · simp [readBare, readMagnitude_of_not_isDigit]
      · simp [readBare, readMagnitude_of_not_isDigit]

theorem readBare_digit
    {d : Char}
    (hd : d.isDigit = true)
    (s : List Char) :
    readBare inner (d :: s) =
      (readMagnitude (d :: s)).map fun p => (.number p.1.1 p.1.2, p.2) := by
  unfold readBare
  split
  case h_8 => rfl
  all_goals
    next heq =>
      cases heq
      cases hd

theorem readValue_gap
    {gap : List Char}
    (hgap : IsGap gap)
    (depth : Nat)
    (s : List Char) :
    readValue depth (gap ++ s) = readValue depth s := by
  cases depth with
  | zero => rfl
  | succ depth => rw [readValue, readValue, skipGap_append hgap]

/-- A text from which a datum is read, down to any depth that its length allows, and in
front of anything that can follow a value. -/
def ReadAs (d : Datum) (s : List Char) : Prop :=
  ∀ depth, s.length < depth → ∀ rest, Ends rest →
    readValue depth (s ++ rest) = some (d, skipGap rest)

/-- A text without gap in front is read as it stands. -/
theorem readAs_of_readBare
    {c : Char}
    (hc : isGapChar c = false)
    {s : List Char}
    {d : Datum}
    (h : ∀ depth, s.length < depth → ∀ rest, Ends rest →
      readBare (readValue depth) (c :: (s ++ rest)) = some (d, rest)) :
    ReadAs d (c :: s) := by
  intro depth hdepth rest hrest
  obtain ⟨depth, rfl⟩ := Nat.exists_eq_add_one_of_ne_zero (Nat.ne_zero_of_lt hdepth)
  rw [List.cons_append, readValue, skipGap_cons_of_not hc,
    h depth (Nat.lt_of_succ_lt_succ hdepth) rest hrest]
  rfl

theorem readMember_complete
    {m : Member}
    (hname : ReadAs (.text m.name) m.nameText)
    (hvalue : ReadAs m.value m.valueText)
    {depth : Nat}
    (hdepth : m.written.length < depth)
    (rest : List Char)
    (hrest : Ends rest) :
    readMember (readValue depth) (m.written ++ rest) = some (m.said, skipGap rest) := by
  simp only [Member.written, List.length_append, List.length_cons] at hdepth
  have hfirst := hname depth (by omega) (':' :: (m.valueText ++ rest)) (ends_cons rfl _)
  have hsecond := hvalue depth (by omega) rest hrest
  rw [skipGap_cons_of_not rfl] at hfirst
  rw [readMember, Member.written, List.append_assoc, List.cons_append, hfirst]
  simp only [hsecond]
  rfl

theorem length_le_of_mem_intercalate
    {s : List Char} :
    ∀ {texts : List (List Char)}, s ∈ texts → s.length ≤ ([','].intercalate texts).length
  | [_], h => by
      rw [List.mem_singleton.mp h]
      simp
  | t :: u :: texts, h => by
      rw [List.intercalate_cons_cons]
      simp only [List.length_append]
      rcases List.mem_cons.mp h with rfl | h
      · omega
      · have ih := length_le_of_mem_intercalate h
        omega

theorem Magnitude.exists_digit
    {n : Nat × Int}
    {s : List Char}
    (h : Magnitude n s) :
    ∃ d tail, s = d :: tail ∧ d.isDigit = true := by
  cases h with
  | @mk whole ds s t e hwhole _ _ =>
      have hne : whole ≠ [] := List.length_pos_iff.mp hwhole.length_pos
      obtain ⟨d, tail, rfl⟩ := List.exists_cons_of_ne_nil hne
      have hdigits := hwhole.digits
      rw [List.all_cons, Bool.and_eq_true] at hdigits
      exact ⟨d, tail ++ s ++ t, rfl, hdigits.1⟩

/-- **What a text says is read from it.** -/
theorem readAs_of_writtenAs
    {d : Datum}
    {s : List Char}
    (h : WrittenAs d s) :
    ReadAs d s := by
  induction h with
  | @padded d before s after hbefore hs hafter ih =>
      intro depth hdepth rest hrest
      simp only [List.length_append] at hdepth
      have hread := ih depth (by omega) (after ++ rest) ((ends_append hafter).mpr hrest)
      rw [List.append_assoc, List.append_assoc, readValue_gap hbefore, hread,
        skipGap_append hafter]
  | null =>
      apply readAs_of_readBare rfl
      intros
      rfl
  | true =>
      apply readAs_of_readBare rfl
      intros
      rfl
  | false =>
      apply readAs_of_readBare rfl
      intros
      rfl
  | @number n s hs =>
      obtain ⟨c, tail, rfl, hc⟩ := hs.exists_digit
      apply readAs_of_readBare (isGapChar_of_isDigit hc)
      intro depth hdepth rest hrest
      have hread := readMagnitude_exact.complete hs hrest.startsWithout
      rw [readBare_digit hc, ← List.cons_append, hread]
      rfl
  | @negative n s hs =>
      apply readAs_of_readBare rfl
      intro depth hdepth rest hrest
      have hread := readMagnitude_exact.complete hs hrest.startsWithout
      rw [readBare, hread]
      rfl
  | @text cs s hs =>
      rw [List.cons_append]
      apply readAs_of_readBare rfl
      intro depth hdepth rest hrest
      have hread :
          readSpelledAll (s ++ '"' :: rest).length (s ++ '"' :: rest) = some (cs, rest) := by
        apply readSpelledAll_complete hs
        simp
      rw [List.append_assoc, List.singleton_append, readBare, hread]
      rfl
  | @list items gap hitems hgap ih =>
      rw [List.cons_append, List.cons_append]
      apply readAs_of_readBare rfl
      intro depth hdepth rest hrest
      have hread : ∀ p ∈ items, ∀ rest, Ends rest →
          readValue depth (p.2 ++ rest) = some (p.1, skipGap rest) := by
        intro p hp
        apply ih p hp depth
        have hlength := length_le_of_mem_intercalate (List.mem_map_of_mem (f := Prod.snd) hp)
        simp only [List.length_append] at hdepth
        omega
      have hlist := readSeparated_complete hread (fun _ _ => readValue_close (Or.inl rfl))
        rfl (by decide) hgap rest
      rw [List.append_assoc _ [']'], List.singleton_append, readBare, hlist]
      rfl
  | @object members gap hnames hvalues hgap ihnames ihvalues =>
      rw [List.cons_append, List.cons_append]
      apply readAs_of_readBare rfl
      intro depth hdepth rest hrest
      have hread : ∀ p ∈ members.map fun m => (m.said, m.written), ∀ rest, Ends rest →
          readMember (readValue depth) (p.2 ++ rest) = some (p.1, skipGap rest) := by
        intro p hp
        obtain ⟨m, hm, rfl⟩ := List.mem_map.mp hp
        apply readMember_complete (ihnames m hm) (ihvalues m hm)
        have hlength := length_le_of_mem_intercalate (List.mem_map_of_mem (f := Member.written) hm)
        simp only [List.length_append] at hdepth
        omega
      have hnone : ∀ s tail, skipGap s = '\x7d' :: tail →
          readMember (readValue depth) s = none := by
        intro s tail hs
        rw [readMember, readValue_close (Or.inr rfl) hs]
      have hobject := readSeparated_complete hread hnone rfl (by decide) hgap rest
      simp only [List.map_map, Function.comp_def] at hobject
      rw [List.append_assoc _ ['\x7d'], List.singleton_append, readBare, hobject]
      rfl

end Values

/-- **A text is read as a datum exactly if it says that datum.** -/
theorem read?_eq_some_iff
    {s : String}
    {d : Datum} :
    read? s = some d ↔ WrittenAs d s.toList := by
  unfold read?
  constructor
  · intro h
    split at h
    · next d' hread =>
      cases h
      obtain ⟨t, hs, ht⟩ := readValue_sound hread
      rwa [hs, List.append_nil]
    · cases h
  · intro h
    have hread := readAs_of_writtenAs h _ (Nat.lt_succ_self _) [] (by simp [Ends, skipGap])
    rw [List.append_nil] at hread
    rw [hread]
    rfl

end Datum
end FeatureLadder
