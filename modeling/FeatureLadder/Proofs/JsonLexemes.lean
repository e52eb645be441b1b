import FeatureLadder.Proofs.JsonGrammar

/-!
# Reading the numbers and texts of JSON

The parts of a JSON value that hold no other values are read from the front of a text, and
what is left of the text is handed on.

* A run of digits is taken as long as possible.  What may follow a number cannot lengthen
  it, so this takes what belongs to the number and nothing else.
* A character of a text ends by itself, whichever way it is spelled.

**Results.**
* `Exact`: a reader takes exactly the phrases of a grammar from the front of a text.
* `readMagnitude_exact`: numbers are read exactly, part by part.
* `readSpelled_exact`: so are the characters of a text.
-/

namespace FeatureLadder
namespace Datum

section Readers

/-- A text without the gap in front. -/
def skipGap (s : List Char) : List Char :=
  s.dropWhile isGapChar

/-- Reads a non-empty run of digits. -/
def readRun (s : List Char) : Option (List Char × List Char) :=
  if s.takeWhile Char.isDigit = [] then none
  else some (s.takeWhile Char.isDigit, s.dropWhile Char.isDigit)

/-- Reads the digits behind a point, if there is one. -/
def readFraction : List Char → Option (List Char × List Char)
  | '.' :: s => readRun s
  | s => some ([], s)

/-- Reads the digits of an exponent and their sign. -/
def readSigned : List Char → Option (Int × List Char)
  | '+' :: s => (readRun s).map fun p => (runValue p.1, p.2)
  | '-' :: s => (readRun s).map fun p => (-(runValue p.1 : Int), p.2)
  | s => (readRun s).map fun p => (runValue p.1, p.2)

def readExponent : List Char → Option (Int × List Char)
  | [] => some (0, [])
  | c :: s => if isMark c then readSigned s else some (0, c :: s)

/-- Reads the digits in front of a point. -/
def readWhole (s : List Char) : Option (List Char × List Char) :=
  (readRun s).filter fun p => p.1 = ['0'] || p.1.head? ≠ some '0'

def readMagnitude (s : List Char) : Option ((Nat × Int) × List Char) := do
  let (whole, s) ← readWhole s
  let (ds, s) ← readFraction s
  let (e, s) ← readExponent s
  return ((runValue (whole ++ ds), e - ds.length), s)

/-- Reads a UTF-16 unit behind a backslash. -/
def readUnit : List Char → Option (Nat × List Char)
  | '\\' :: 'u' :: a :: b :: c :: d :: s => (unit? [a, b, c, d]).map fun n => (n, s)
  | _ => none

/-- Reads a character that is spelled without units. -/
def readPlain : List Char → Option (Char × List Char)
  | '\\' :: letter :: s => (shortEscape? letter).map fun c => (c, s)
  | c :: s => if isRaw c then some (c, s) else none
  | [] => none

/-- Reads a character that is spelled by units, the first of which has been read. -/
def readPaired (n : Nat) (s : List Char) : Option (Char × List Char) :=
  if IsHigh n then
    match readUnit s with
    | some (m, s) => if IsLow m then some (Char.ofNat (paired n m), s) else none
    | none => none
  else if IsLow n then none
  else some (Char.ofNat n, s)

def readSpelled (s : List Char) : Option (Char × List Char) :=
  match readUnit s with
  | some (n, s) => readPaired n s
  | none => readPlain s

/-- Reads the characters of a text and the quote behind them, at most as many as given. -/
def readSpelledAll : Nat → List Char → Option (List Char × List Char)
  | 0, _ => none
  | n + 1, s =>
    match s with
    | '"' :: s => some ([], s)
    | s => do
      let (c, s) ← readSpelled s
      let (cs, s) ← readSpelledAll n s
      return (c :: cs, s)

end Readers

section Gaps

theorem skipGap_append
    {gap : List Char}
    (hgap : IsGap gap)
    (s : List Char) :
    skipGap (gap ++ s) = skipGap s :=
  List.dropWhile_append_of_pos hgap

/-- A text falls apart into the gap in front and the rest. -/
theorem exists_gap_append
    (s : List Char) :
    ∃ gap, IsGap gap ∧ s = gap ++ skipGap s :=
  ⟨s.takeWhile isGapChar, fun _ hc => List.mem_takeWhile_imp hc,
    List.takeWhile_append_dropWhile.symm⟩

@[simp] theorem skipGap_cons_of_not
    {c : Char}
    (hc : isGapChar c = false)
    (s : List Char) :
    skipGap (c :: s) = c :: s :=
  List.dropWhile_cons_of_neg (by simp [hc])

end Gaps

variable {α : Type}

/-- A text that does not start with a character of a kind. -/
def StartsWithout (kind : Char → Bool) (s : List Char) : Prop :=
  ∀ c ∈ s.head?, kind c = false

/-- A reader takes exactly the phrases of a grammar from the front of a text, as long as
what follows them cannot be part of them. -/
structure Exact (read : List Char → Option (α × List Char)) (Phrase : α → List Char → Prop)
    (Follow : List Char → Prop) : Prop where
  sound : ∀ {s x rest}, read s = some (x, rest) → ∃ t, s = t ++ rest ∧ Phrase x t
  complete : ∀ {x t rest}, Phrase x t → Follow rest → read (t ++ rest) = some (x, rest)

section Numbers

/-- The characters that can lengthen a number. -/
def isNumberChar (c : Char) : Bool :=
  c.isDigit || c = '.' || isMark c

theorem readRun_exact :
    Exact readRun (fun ds t => ds = t ∧ IsDigitRun ds) NoLeadingDigit where
  sound := by
    intro s ds rest h
    unfold readRun at h
    split at h
    · cases h
    · next hne =>
      cases h
      exact ⟨_, List.takeWhile_append_dropWhile.symm, rfl, hne, List.all_takeWhile⟩
  complete := by
    rintro ds _ rest ⟨rfl, hds⟩ hrest
    unfold readRun
    rw [takeWhile_isDigit_append hds.2 hrest, dropWhile_isDigit_append hds.2 hrest,
      if_neg hds.1]

theorem readWhole_exact :
    Exact readWhole (fun ds t => ds = t ∧ IsStripped ds) NoLeadingDigit where
  sound := by
    intro s ds rest h
    obtain ⟨hrun, hstart⟩ := Option.filter_eq_some_iff.mp h
    obtain ⟨t, rfl, rfl, hne, hdigits⟩ := readRun_exact.sound hrun
    refine ⟨ds, rfl, rfl, hdigits, ?_⟩
    obtain ⟨d, tail, rfl⟩ := List.exists_cons_of_ne_nil hne
    by_cases hd : d = '0'
    · right
      simpa [hd] using hstart
    · exact Or.inl ⟨d, tail, rfl, hd⟩
  complete := by
    rintro ds _ rest ⟨rfl, hds⟩ hrest
    have hne : ds ≠ [] := List.length_pos_iff.mp hds.length_pos
    rw [readWhole, readRun_exact.complete ⟨rfl, hne, hds.digits⟩ hrest,
      Option.filter_eq_some_iff]
    refine ⟨rfl, ?_⟩
    obtain ⟨d, tail, rfl, hd⟩ | rfl := hds.start
    · simp [hd]
    · simp

theorem readFraction_exact :
    Exact readFraction Fraction (StartsWithout fun c => c.isDigit || c = '.') where
  sound := by
    intro s ds rest h
    unfold readFraction at h
    split at h
    · next s =>
      obtain ⟨t, rfl, rfl, hds⟩ := readRun_exact.sound h
      exact ⟨'.' :: ds, rfl, .present hds⟩
    · cases h
      exact ⟨[], rfl, .absent⟩
  complete := by
    intro ds t rest h hrest
    cases h with
    | absent =>
        unfold readFraction
        split
        · next s hs =>
          have hpoint := hrest '.' (by rw [← List.nil_append rest, hs]; rfl)
          cases hpoint
        · rfl
    | present hds =>
        apply readRun_exact.complete ⟨rfl, hds⟩
        intro c hc
        exact (Bool.or_eq_false_iff.mp (hrest c hc)).1

theorem readSigned_exact :
    Exact readSigned Signed NoLeadingDigit where
  sound := by
    intro s e rest h
    unfold readSigned at h
    split at h
    all_goals
      obtain ⟨⟨ds, rest⟩, hrun, hsame⟩ := Option.map_eq_some_iff.mp h
      cases hsame
      obtain ⟨t, rfl, rfl, hds⟩ := readRun_exact.sound hrun
    · exact ⟨'+' :: ds, rfl, .plus hds⟩
    · exact ⟨'-' :: ds, rfl, .minus hds⟩
    · exact ⟨ds, rfl, .plain hds⟩
  complete := by
    intro e t rest h hrest
    cases h with
    | @plain ds hds =>
        have hrun := readRun_exact.complete ⟨rfl, hds⟩ hrest
        obtain ⟨d, tail, rfl⟩ := List.exists_cons_of_ne_nil hds.1
        have hd : d.isDigit = true := (List.all_eq_true.mp hds.2) d (by simp)
        unfold readSigned
        split
        · next s hs =>
          cases hs
          cases hd
        · next s hs =>
          cases hs
          cases hd
        · rw [hrun]
          rfl
    | plus hds =>
        have hrun := readRun_exact.complete ⟨rfl, hds⟩ hrest
        rw [List.cons_append, readSigned, hrun]
        rfl
    | minus hds =>
        have hrun := readRun_exact.complete ⟨rfl, hds⟩ hrest
        rw [List.cons_append, readSigned, hrun]
        rfl

theorem readExponent_exact :
    Exact readExponent Exponent (StartsWithout fun c => c.isDigit || isMark c) where
  sound := by
    intro s e rest h
    unfold readExponent at h
    split at h
    · cases h
      exact ⟨[], rfl, .absent⟩
    · next c s =>
      split at h
      · next hmark =>
        obtain ⟨t, rfl, hsigned⟩ := readSigned_exact.sound h
        exact ⟨c :: t, rfl, .present hmark hsigned⟩
      · cases h
        exact ⟨[], rfl, .absent⟩
  complete := by
    intro e t rest h hrest
    cases h with
    | absent =>
        cases rest with
        | nil => rfl
        | cons c rest =>
            have hc := (Bool.or_eq_false_iff.mp (hrest c rfl)).2
            simp [readExponent, hc]
    | present hmark hs =>
        rw [List.cons_append, readExponent, if_pos hmark]
        apply readSigned_exact.complete hs
        intro c hc
        exact (Bool.or_eq_false_iff.mp (hrest c hc)).1

/-- What starts with an exponent, or with what may follow a number, does not go on with
the digits in front of it. -/
theorem Exponent.startsWithout
    {e : Int}
    {t rest : List Char}
    (ht : Exponent e t)
    (hrest : StartsWithout isNumberChar rest) :
    StartsWithout (fun c => c.isDigit || c = '.') (t ++ rest) := by
  cases ht with
  | absent =>
      intro c hc
      exact (Bool.or_eq_false_iff.mp (hrest c hc)).1
  | @present mark e s hmark hs =>
      rintro c ⟨⟩
      have hcases : mark = 'e' ∨ mark = 'E' := by simpa [isMark] using hmark
      rcases hcases with rfl | rfl <;> rfl

theorem Fraction.startsWithout
    {ds s rest : List Char}
    (hs : Fraction ds s)
    (hrest : StartsWithout (fun c => c.isDigit || c = '.') rest) :
    NoLeadingDigit (s ++ rest) := by
  cases hs with
  | absent =>
      intro c hc
      exact (Bool.or_eq_false_iff.mp (hrest c hc)).1
  | present hds =>
      rintro c ⟨⟩
      rfl

/-- **A number is read exactly**, in front of anything that cannot lengthen it. -/
theorem readMagnitude_exact :
    Exact readMagnitude Magnitude (StartsWithout isNumberChar) where
  sound := by
    intro s n rest h
    simp only [readMagnitude, Option.bind_eq_bind, Option.bind_eq_some_iff, Prod.exists] at h
    obtain ⟨whole, s₁, hwhole, ds, s₂, hfraction, e, s₃, hexponent, hsame⟩ := h
    cases hsame
    obtain ⟨_, rfl, rfl, hstripped⟩ := readWhole_exact.sound hwhole
    obtain ⟨s, rfl, hs⟩ := readFraction_exact.sound hfraction
    obtain ⟨t, rfl, ht⟩ := readExponent_exact.sound hexponent
    exact ⟨whole ++ s ++ t, by simp, .mk hstripped hs ht⟩
  complete := by
    rintro _ _ rest ⟨hwhole, hs, ht⟩ hrest
    have hbehind := ht.startsWithout hrest
    rw [readMagnitude, List.append_assoc, List.append_assoc,
      readWhole_exact.complete ⟨rfl, hwhole⟩ (hs.startsWithout hbehind)]
    simp only [Option.bind_eq_bind, Option.bind_some]
    rw [readFraction_exact.complete hs hbehind]
    simp only [Option.bind_some]
    rw [readExponent_exact.complete ht ?_]
    · rfl
    · intro c hc
      have := hrest c hc
      simp_all [isNumberChar]

end Numbers

section Texts

/-- A unit is written by four digits. -/
theorem exists_digits_of_unit?
    {digits : List Char}
    {n : Nat}
    (h : unit? digits = some n) :
    ∃ a b c d, digits = [a, b, c, d] := by
  unfold unit? at h
  split at h
  · next a b c d => exact ⟨a, b, c, d, rfl⟩
  · cases h

theorem readUnit_exact :
    Exact readUnit (fun n t => ∃ digits, t = '\\' :: 'u' :: digits ∧ unit? digits = some n)
      (fun _ => True) where
  sound := by
    intro s n rest h
    unfold readUnit at h
    split at h
    · next a b c d s =>
      obtain ⟨m, hm, hsame⟩ := Option.map_eq_some_iff.mp h
      cases hsame
      exact ⟨['\\', 'u', a, b, c, d], rfl, [a, b, c, d], rfl, hm⟩
    · cases h
  complete := by
    rintro n _ rest ⟨digits, rfl, hn⟩ -
    obtain ⟨a, b, c, d, rfl⟩ := exists_digits_of_unit? hn
    simp [readUnit, hn]

theorem readUnit_eq_none
    {s : List Char}
    (h : ∀ t, s ≠ '\\' :: 'u' :: t) :
    readUnit s = none := by
  unfold readUnit
  split
  · next a b c d t => exact absurd rfl (h _)
  · rfl

theorem readPlain_sound
    {s rest : List Char}
    {c : Char}
    (h : readPlain s = some (c, rest)) :
    ∃ t, s = t ++ rest ∧ Spelled c t := by
  unfold readPlain at h
  split at h
  · next letter s =>
    obtain ⟨c', hletter, hsame⟩ := Option.map_eq_some_iff.mp h
    cases hsame
    exact ⟨['\\', letter], rfl, .short hletter⟩
  · next c' s _ =>
    split at h
    · next hraw =>
      cases h
      exact ⟨[c], rfl, .raw hraw⟩
    · cases h
  · cases h

theorem readPlain_raw
    {c : Char}
    (hraw : isRaw c = true)
    (rest : List Char) :
    readPlain (c :: rest) = some (c, rest) := by
  unfold readPlain
  split
  · next heq =>
    cases heq
    cases hraw
  · next heq =>
    cases heq
    rw [if_pos hraw]
  · next heq => cases heq

theorem readPaired_sound
    {n : Nat}
    {digits s rest : List Char}
    {c : Char}
    (hunit : unit? digits = some n)
    (h : readPaired n s = some (c, rest)) :
    ∃ t, s = t ++ rest ∧ Spelled c ('\\' :: 'u' :: digits ++ t) := by
  unfold readPaired at h
  split at h
  · next hhigh =>
    split at h
    · next m s' hread =>
      split at h
      · next hlow =>
        obtain ⟨rfl, rfl⟩ := Prod.mk.inj (Option.some.inj h)
        obtain ⟨_, rfl, digits', rfl, hunit'⟩ := readUnit_exact.sound hread
        exact ⟨_, rfl, .pair hunit hhigh hunit' hlow⟩
      · cases h
    · cases h
  · next hhigh =>
    split at h
    · cases h
    · next hlow =>
      obtain ⟨rfl, rfl⟩ := Prod.mk.inj (Option.some.inj h)
      refine ⟨[], rfl, ?_⟩
      rw [List.append_nil]
      exact .unit hunit hhigh hlow

/-- **A spelled character is read exactly**, whatever follows it. -/
theorem readSpelled_exact :
    Exact readSpelled Spelled (fun _ => True) where
  sound := by
    intro s c rest h
    unfold readSpelled at h
    split at h
    · next n s' hread =>
      obtain ⟨_, rfl, digits, rfl, hunit⟩ := readUnit_exact.sound hread
      obtain ⟨t, rfl, ht⟩ := readPaired_sound hunit h
      exact ⟨'\\' :: 'u' :: digits ++ t, by simp, ht⟩
    · exact readPlain_sound h
  complete := by
    intro c t rest h _
    have hread : ∀ {n digits} (rest : List Char), unit? digits = some n →
        readUnit ('\\' :: 'u' :: digits ++ rest) = some (n, rest) :=
      fun _ hunit => readUnit_exact.complete ⟨_, rfl, hunit⟩ trivial
    cases h with
    | raw hraw =>
        have hnone : readUnit ([c] ++ rest) = none := by
          apply readUnit_eq_none
          rintro t heq
          cases heq
          cases hraw
        rw [readSpelled, hnone]
        exact readPlain_raw hraw rest
    | short hletter =>
        rename_i letter
        have hnone : readUnit ('\\' :: letter :: rest) = none := by
          apply readUnit_eq_none
          rintro t heq
          cases heq
          cases hletter
        rw [List.cons_append, List.singleton_append, readSpelled, hnone]
        simp [readPlain, hletter]
    | unit hunit hhigh hlow =>
        rw [readSpelled, hread rest hunit]
        simp [readPaired, hhigh, hlow]
    | pair hunit hhigh hunit' hlow =>
        rw [List.append_assoc, readSpelled, hread _ hunit]
        simp only [readPaired, if_pos hhigh]
        rw [hread rest hunit']
        simp [hlow]

/-- No spelling starts with the quote that ends a text. -/
theorem Spelled.head?_ne_quote
    {c : Char}
    {s : List Char}
    (h : Spelled c s) :
    s ≠ [] ∧ s.head? ≠ some '"' := by
  cases h with
  | raw hraw =>
      refine ⟨by simp, ?_⟩
      rintro ⟨⟩
      cases hraw
  | short | unit | pair => simp

theorem readSpelledAll_sound
    {n : Nat}
    {s cs rest : List Char}
    (h : readSpelledAll n s = some (cs, rest)) :
    ∃ t, s = t ++ '"' :: rest ∧ SpelledAll cs t := by
  induction n generalizing s cs with
  | zero => cases h
  | succ n ih =>
      unfold readSpelledAll at h
      split at h
      · cases h
        exact ⟨[], rfl, .nil⟩
      · simp only [Option.bind_eq_bind, Option.bind_eq_some_iff, Prod.exists] at h
        obtain ⟨c, s₁, hc, cs, s₂, hcs, hsame⟩ := h
        cases hsame
        obtain ⟨s, rfl, hs⟩ := readSpelled_exact.sound hc
        obtain ⟨t, rfl, ht⟩ := ih hcs
        exact ⟨s ++ t, by simp, .cons hs ht⟩

theorem readSpelledAll_complete
    {cs t : List Char}
    (h : SpelledAll cs t)
    {n : Nat}
    (hn : t.length < n)
    (rest : List Char) :
    readSpelledAll n (t ++ '"' :: rest) = some (cs, rest) := by
  induction h generalizing n with
  | nil =>
      obtain ⟨n, rfl⟩ := Nat.exists_eq_add_one_of_ne_zero (Nat.ne_zero_of_lt hn)
      rfl
  | @cons c cs s t hc hcs ih =>
      obtain ⟨n, rfl⟩ := Nat.exists_eq_add_one_of_ne_zero (Nat.ne_zero_of_lt hn)
      obtain ⟨hne, hquote⟩ := hc.head?_ne_quote
      obtain ⟨d, tail, rfl⟩ := List.exists_cons_of_ne_nil hne
      have hfirst :
          readSpelled ((d :: tail) ++ (t ++ '"' :: rest)) = some (c, t ++ '"' :: rest) :=
        readSpelled_exact.complete hc trivial
      have hlater : readSpelledAll n (t ++ '"' :: rest) = some (cs, rest) := by
        apply ih
        rw [List.length_append, List.length_cons] at hn
        omega
      unfold readSpelledAll
      split
      · next heq =>
        cases heq
        exact absurd rfl hquote
      · rw [List.append_assoc, hfirst]
        simp [hlater]

end Texts

end Datum
end FeatureLadder
