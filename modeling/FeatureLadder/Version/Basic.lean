/-!
# Feature versions

**Input**: a name such as `v0-1` or `v1-2beta`: the letter `v`, a run of decimal
digits, a hyphen, a second run of digits, and any suffix.

**Algorithm**: both runs are taken as long as possible, so the suffix never starts
with a digit and a name has one reading only.

**Results**: `Version.ofChars?_chars` says that every version is read back from its
own name, and `Version.chars_of_ofChars?` that nothing of a name is lost; together,
`Version.ofChars?_eq_some_iff`.
-/

namespace FeatureLadder

/-- A non-empty run of decimal digits. -/
def IsDigitRun (ds : List Char) : Prop :=
  ds ≠ [] ∧ ds.all Char.isDigit = true

/-- A text that could not lengthen a run of digits written before it. -/
def NoLeadingDigit (s : List Char) : Prop :=
  ∀ c ∈ s.head?, c.isDigit = false

instance (ds : List Char) : Decidable (IsDigitRun ds) :=
  inferInstanceAs (Decidable (_ ∧ _))

/-- A run of digits without its leading zeros; a single zero if nothing else is left. -/
def stripZeros (ds : List Char) : List Char :=
  match ds.dropWhile (· == '0') with
  | [] => ['0']
  | rest => rest

/-- A feature version: the digits as they were written, and what follows them. -/
structure Version where
  majorDigits : List Char
  minorDigits : List Char
  suffix : List Char
  major_run : IsDigitRun majorDigits
  minor_run : IsDigitRun minorDigits
  suffix_start : NoLeadingDigit suffix
  deriving DecidableEq

theorem noLeadingDigit_dropWhile (s : List Char) :
    NoLeadingDigit (s.dropWhile Char.isDigit) := by
  intro c hc
  have h := List.head?_dropWhile_not Char.isDigit s
  rw [Option.mem_def.mp hc] at h
  exact h

theorem takeWhile_isDigit_append
    {ds s : List Char} (hd : ds.all Char.isDigit = true) (hs : NoLeadingDigit s) :
    (ds ++ s).takeWhile Char.isDigit = ds := by
  rw [List.takeWhile_append_of_pos (List.all_eq_true.mp hd)]
  cases s with
  | nil => simp
  | cons c s => simp [hs c rfl]

theorem dropWhile_isDigit_append
    {ds s : List Char} (hd : ds.all Char.isDigit = true) (hs : NoLeadingDigit s) :
    (ds ++ s).dropWhile Char.isDigit = s := by
  rw [List.dropWhile_append_of_pos (List.all_eq_true.mp hd)]
  cases s with
  | nil => simp
  | cons c s => simp [hs c rfl]

namespace Version

/-- The name of a version, character by character. -/
def chars (v : Version) : List Char :=
  'v' :: v.majorDigits ++ '-' :: v.minorDigits ++ v.suffix

def text (v : Version) : String :=
  String.ofList v.chars

/-- The major component, without leading zeros. -/
def major (v : Version) : List Char :=
  stripZeros v.majorDigits

/-- The minor component, without leading zeros. -/
def minor (v : Version) : List Char :=
  stripZeros v.minorDigits

/-- The version written by two runs of digits and a suffix, as long as both runs are
non-empty and the suffix leaves them as they are. -/
def ofParts? (major minor : List Char) (suffix : List Char) : Option Version :=
  if h : IsDigitRun major ∧ IsDigitRun minor ∧ suffix.head?.all (!·.isDigit) then
    some
      { majorDigits := major
        minorDigits := minor
        suffix := suffix
        major_run := h.1
        minor_run := h.2.1
        suffix_start := fun c hc => by
          have := h.2.2
          rw [Option.mem_def.mp hc] at this
          simpa using this }
  else none

def ofChars? : List Char → Option Version
  | 'v' :: rest =>
    match rest.dropWhile Char.isDigit with
    | '-' :: tail =>
      ofParts? (rest.takeWhile Char.isDigit) (tail.takeWhile Char.isDigit)
        (tail.dropWhile Char.isDigit)
    | _ => none
  | _ => none

/-- Whether a text is a version name. -/
def isName (s : List Char) : Bool :=
  (ofChars? s).isSome

theorem ofParts?_eq_some (v : Version) :
    ofParts? v.majorDigits v.minorDigits v.suffix = some v := by
  have h : v.suffix.head?.all (!·.isDigit) = true := by
    cases hs : v.suffix.head? with
    | none => rfl
    | some c => simp [v.suffix_start c hs]
  simp [ofParts?, v.major_run, v.minor_run, h]

theorem eq_of_ofParts?
    {ds es s : List Char} {v : Version} (h : ofParts? ds es s = some v) :
    v.majorDigits = ds ∧ v.minorDigits = es ∧ v.suffix = s := by
  unfold ofParts? at h
  split at h
  · cases h
    exact ⟨rfl, rfl, rfl⟩
  · cases h

/-- Every version is read back from its own name. -/
theorem ofChars?_chars (v : Version) : ofChars? v.chars = some v := by
  have hm : NoLeadingDigit ('-' :: (v.minorDigits ++ v.suffix)) := by
    intro c hc
    cases hc
    rfl
  have h1 : ('v' :: v.majorDigits ++ '-' :: v.minorDigits ++ v.suffix) =
      'v' :: (v.majorDigits ++ '-' :: (v.minorDigits ++ v.suffix)) := by simp
  rw [chars, h1, ofChars?, dropWhile_isDigit_append v.major_run.2 hm,
    takeWhile_isDigit_append v.major_run.2 hm]
  simp only
  rw [dropWhile_isDigit_append v.minor_run.2 v.suffix_start,
    takeWhile_isDigit_append v.minor_run.2 v.suffix_start]
  exact ofParts?_eq_some v

/-- Nothing of a name is lost by reading it. -/
theorem chars_of_ofChars?
    {s : List Char} {v : Version} (h : ofChars? s = some v) :
    v.chars = s := by
  unfold ofChars? at h
  split at h
  · next rest =>
    split at h
    · next tail htail =>
      obtain ⟨h1, h2, h3⟩ := eq_of_ofParts? h
      have e1 : rest = rest.takeWhile Char.isDigit ++ '-' :: tail := by
        rw [← htail, List.takeWhile_append_dropWhile]
      have e2 : tail.takeWhile Char.isDigit ++ tail.dropWhile Char.isDigit = tail :=
        List.takeWhile_append_dropWhile
      rw [chars, h1, h2, h3]
      simp [e2, ← e1]
    · cases h
  · cases h

/-- **A name is read as `v` exactly if it is the name of `v`.** -/
theorem ofChars?_eq_some_iff {s : List Char} {v : Version} :
    ofChars? s = some v ↔ s = v.chars :=
  ⟨fun h => (chars_of_ofChars? h).symm, fun h => h ▸ ofChars?_chars v⟩

theorem chars_injective {v w : Version} (h : v.chars = w.chars) : v = w := by
  have := ofChars?_chars v
  rw [h, ofChars?_chars w] at this
  exact (Option.some.inj this).symm

end Version
end FeatureLadder
