import FeatureLadder.Proofs.DigitRuns
import FeatureLadder.Proofs.Planning

/-!
# The grammar of version names

A version name is the letter `v`, a run of digits, a hyphen, a second run of digits, and a
rest that does not start with a digit (`Spelled`).  The same names are described by a
pattern: a letter, a greedy run of digits, a hyphen, a greedy run of digits, and a greedy
run of any characters, from the start of the text to its end.

A pattern may fit a text in several ways, because a run can give characters back.  `ways`
lists them in the order in which they are tried, a longer run before a shorter one.

* Before the hyphen no shorter run fits: a digit would stand where the hyphen has to.
* After the hyphen shorter runs fit too, and the rest then starts with a digit; the first
  way is the one with the longest run.

So the pattern fits if and only if the name is spelled by the grammar, and its first way is
the one reading that the grammar allows.

**Results.**
* `head?_ways_version`: the first way of the pattern is what is read.
* `spelled_iff`: the grammar spells exactly the names of versions.
* `read_exact`: reading accepts the grammar and nothing else, with one reading.
-/

namespace FeatureLadder

/-- A part of a pattern. -/
inductive PatternPart where
  /-- one given character -/
  | literal (c : Char)
  /-- as many accepted characters as possible, and at least `least` -/
  | run (accepts : Char → Bool) (least : Nat)

namespace PatternPart

/-- The ways to take accepted characters off a text, the longest first: what is taken, and
what is left. -/
def cuts (accepts : Char → Bool) : List Char → List (List Char × List Char)
  | [] => [([], [])]
  | c :: s =>
    if accepts c then (cuts accepts s).map (fun x => (c :: x.1, x.2)) ++ [([], c :: s)]
    else [([], c :: s)]

/-- The ways in which a whole text fits the parts of a pattern, in the order in which they
are tried: what each run takes. -/
def ways : List PatternPart → List Char → List (List (List Char))
  | [], [] => [[]]
  | [], _ :: _ => []
  | .literal _ :: _, [] => []
  | .literal c :: parts, d :: s => if d = c then ways parts s else []
  | .run accepts least :: parts, s =>
    (cuts accepts s).flatMap fun x =>
      if least ≤ x.1.length then (ways parts x.2).map (x.1 :: ·) else []

/-- The pattern of version names. -/
def version : List PatternPart :=
  [.literal 'v', .run Char.isDigit 1, .literal '-', .run Char.isDigit 1,
    .run (fun _ => true) 0]

/-- The longest cut comes first; every other one is shorter and leaves an accepted
character in front. -/
theorem cuts_eq_cons
    (accepts : Char → Bool) :
    ∀ s : List Char,
      ∃ shorter,
        cuts accepts s = (s.takeWhile accepts, s.dropWhile accepts) :: shorter ∧
        ∀ x ∈ shorter,
          x.1.length < (s.takeWhile accepts).length ∧
          ∃ c rest, x.2 = c :: rest ∧ accepts c = true
  | [] => ⟨[], rfl, by simp⟩
  | c :: s => by
      by_cases hc : accepts c = true
      · obtain ⟨shorter, hcuts, hshorter⟩ := cuts_eq_cons accepts s
        refine
          ⟨shorter.map (fun x => (c :: x.1, x.2)) ++ [([], c :: s)], ?_, ?_⟩
        · rw [cuts, if_pos hc, hcuts, List.takeWhile_cons_of_pos hc,
            List.dropWhile_cons_of_pos hc]
          rfl
        · intro x hx
          rw [List.takeWhile_cons_of_pos hc, List.length_cons]
          rcases List.mem_append.mp hx with hx | hx
          · obtain ⟨y, hy, rfl⟩ := List.mem_map.mp hx
            obtain ⟨hlen, hrest⟩ := hshorter y hy
            exact ⟨Nat.succ_lt_succ hlen, hrest⟩
          · obtain rfl := List.mem_singleton.mp hx
            exact ⟨Nat.succ_pos _, c, s, rfl, hc⟩
      · refine ⟨[], ?_, by simp⟩
        rw [cuts, if_neg hc, List.takeWhile_cons_of_neg hc, List.dropWhile_cons_of_neg hc]

theorem ways_literal_cons
    (c : Char)
    (parts : List PatternPart)
    (s : List Char) :
    ways (.literal c :: parts) (c :: s) = ways parts s := by
  rw [ways, if_pos rfl]

theorem ways_literal_of_head?_ne
    {c : Char}
    (parts : List PatternPart)
    {s : List Char}
    (h : s.head? ≠ some c) :
    ways (.literal c :: parts) s = [] := by
  cases s with
  | nil => rfl
  | cons d s =>
      have hd : d ≠ c := by simpa using h
      rw [ways, if_neg hd]

/-- A run in front of a character that it does not accept gives nothing back. -/
theorem ways_run_literal
    {accepts : Char → Bool}
    {c : Char}
    (hc : accepts c = false)
    (least : Nat)
    (parts : List PatternPart)
    (s : List Char) :
    ways (.run accepts least :: .literal c :: parts) s =
      if least ≤ (s.takeWhile accepts).length then
        (ways (.literal c :: parts) (s.dropWhile accepts)).map (s.takeWhile accepts :: ·)
      else [] := by
  obtain ⟨shorter, hcuts, hshorter⟩ := cuts_eq_cons accepts s
  have hnone :
      (shorter.flatMap fun x =>
        if least ≤ x.1.length then (ways (.literal c :: parts) x.2).map (x.1 :: ·)
        else []) = [] := by
    rw [List.flatMap_eq_nil_iff]
    intro x hx
    obtain ⟨-, d, rest, hrest, hd⟩ := hshorter x hx
    have hhead : x.2.head? ≠ some c := by
      rw [hrest, List.head?_cons]
      rintro ⟨rfl⟩
      rw [hc] at hd
      cases hd
    rw [ways_literal_of_head?_ne parts hhead]
    simp
  rw [ways, hcuts, List.flatMap_cons, hnone, List.append_nil]

/-- If a run can be as long as possible, that way is tried first; if it cannot be long
enough, there is none. -/
theorem head?_ways_run
    (accepts : Char → Bool)
    (least : Nat)
    (parts : List PatternPart)
    {s : List Char}
    {first : List (List Char)}
    (hfirst : (ways parts (s.dropWhile accepts)).head? = some first) :
    (ways (.run accepts least :: parts) s).head? =
      if least ≤ (s.takeWhile accepts).length then some (s.takeWhile accepts :: first)
      else none := by
  obtain ⟨shorter, hcuts, hshorter⟩ := cuts_eq_cons accepts s
  rw [ways, hcuts, List.flatMap_cons]
  by_cases hlong : least ≤ (s.takeWhile accepts).length
  · rw [if_pos hlong, if_pos hlong, List.head?_append, List.head?_map, hfirst]
    rfl
  · have hnone :
        (shorter.flatMap fun x =>
          if least ≤ x.1.length then (ways parts x.2).map (x.1 :: ·) else []) = [] := by
      rw [List.flatMap_eq_nil_iff]
      intro x hx
      obtain ⟨hlen, -⟩ := hshorter x hx
      exact if_neg (by omega)
    rw [if_neg hlong, if_neg hlong, hnone]
    rfl

/-- A run of any characters at the end takes everything first. -/
theorem head?_ways_anything
    (s : List Char) :
    (ways [.run (fun _ => true) 0] s).head? = some [s] := by
  have htake : s.takeWhile (fun _ => true) = s := List.takeWhile_eq_self_iff.mpr (by simp)
  have hdrop : s.dropWhile (fun _ => true) = [] := List.dropWhile_eq_nil_iff.mpr (by simp)
  have hend : (ways [] (s.dropWhile fun _ => true)).head? = some [] := by
    rw [hdrop]
    rfl
  rw [head?_ways_run _ 0 [] hend, htake]
  rfl

end PatternPart

namespace Version

open PatternPart

theorem isDigitRun_takeWhile
    (s : List Char) :
    IsDigitRun (s.takeWhile Char.isDigit) ↔ 1 ≤ (s.takeWhile Char.isDigit).length := by
  rw [Nat.one_le_iff_ne_zero, ne_eq, List.length_eq_zero_iff]
  exact ⟨And.left, fun hne => ⟨hne, List.all_takeWhile⟩⟩

/-- Two longest runs and what follows them make a version as soon as neither is empty. -/
theorem map_ofParts?_longest
    (s t : List Char) :
    (ofParts? (s.takeWhile Char.isDigit) (t.takeWhile Char.isDigit)
        (t.dropWhile Char.isDigit)).map (fun v => [v.majorDigits, v.minorDigits, v.suffix]) =
      if 1 ≤ (s.takeWhile Char.isDigit).length then
        if 1 ≤ (t.takeWhile Char.isDigit).length then
          some [s.takeWhile Char.isDigit, t.takeWhile Char.isDigit, t.dropWhile Char.isDigit]
        else none
      else none := by
  have hrest : (t.dropWhile Char.isDigit).head?.all (!·.isDigit) = true := by
    cases hhead : (t.dropWhile Char.isDigit).head? with
    | none => rfl
    | some c => simpa using noLeadingDigit_dropWhile t c hhead
  have hs := isDigitRun_takeWhile s
  have ht := isDigitRun_takeWhile t
  unfold ofParts?
  split_ifs with h hlong hlong' hlong hlong'
  · rfl
  · exact absurd (ht.mp h.2.1) hlong'
  · exact absurd (hs.mp h.1) hlong
  · exact absurd ⟨hs.mpr hlong, ht.mpr hlong', hrest⟩ h
  · rfl
  · rfl

/-- **The first way of the pattern is what is read.** -/
theorem head?_ways_version
    (s : List Char) :
    (ways PatternPart.version s).head? =
      (ofChars? s).map fun v => [v.majorDigits, v.minorDigits, v.suffix] := by
  unfold PatternPart.version ofChars?
  split
  · next rest =>
    rw [ways_literal_cons, ways_run_literal (by decide)]
    cases hdrop : rest.dropWhile Char.isDigit with
    | nil =>
        rw [ways_literal_of_head?_ne _ (by simp)]
        simp
    | cons c tail =>
        by_cases hc : c = '-'
        · subst hc
          have hsecond :=
            head?_ways_run Char.isDigit 1 [.run (fun _ => true) 0] (s := tail)
              (head?_ways_anything (tail.dropWhile Char.isDigit))
          simp only
          rw [map_ofParts?_longest, ways_literal_cons]
          split
          · rw [List.head?_map, hsecond]
            split <;> rfl
          · rfl
        · rw [ways_literal_of_head?_ne _ (by simpa using hc)]
          simp [hc]
  · next hletter =>
    have hhead : s.head? ≠ some 'v' := by
      intro h
      obtain ⟨rest, hs⟩ := List.head?_eq_some_iff.mp h
      exact hletter rest hs
    rw [ways_literal_of_head?_ne _ hhead]
    rfl

/-- The pattern fits exactly the version names. -/
theorem ways_version_ne_nil_iff
    (s : List Char) :
    ways PatternPart.version s ≠ [] ↔ isName s = true := by
  rw [isName, ne_eq, ← List.head?_eq_none_iff, head?_ways_version]
  cases ofChars? s <;> simp

/-- A text is spelled by two runs of digits and a rest that could not lengthen the second
of them. -/
structure Spelled (s majorRun minorRun rest : List Char) : Prop where
  eq_append : s = 'v' :: majorRun ++ '-' :: minorRun ++ rest
  major_run : IsDigitRun majorRun
  minor_run : IsDigitRun minorRun
  rest_start : NoLeadingDigit rest

/-- **The grammar spells exactly the names of versions**, each from its own parts. -/
theorem spelled_iff
    {s majorRun minorRun rest : List Char} :
    Spelled s majorRun minorRun rest ↔
      ∃ v : Version,
        s = v.chars ∧ v.majorDigits = majorRun ∧ v.minorDigits = minorRun ∧
        v.suffix = rest := by
  constructor
  · rintro ⟨hs, hmajor, hminor, hrest⟩
    exact ⟨⟨majorRun, minorRun, rest, hmajor, hminor, hrest⟩, hs, rfl, rfl, rfl⟩
  · rintro ⟨v, rfl, rfl, rfl, rfl⟩
    exact ⟨rfl, v.major_run, v.minor_run, v.suffix_start⟩

/-- A text has one spelling. -/
theorem Spelled.unique
    {s majorRun minorRun rest majorRun' minorRun' rest' : List Char}
    (h : Spelled s majorRun minorRun rest)
    (h' : Spelled s majorRun' minorRun' rest') :
    majorRun' = majorRun ∧ minorRun' = minorRun ∧ rest' = rest := by
  obtain ⟨v, hv, rfl, rfl, rfl⟩ := spelled_iff.mp h
  obtain ⟨w, hw, rfl, rfl, rfl⟩ := spelled_iff.mp h'
  obtain rfl : w = v := chars_injective (hw.symm.trans hv)
  exact ⟨rfl, rfl, rfl⟩

theorem isName_iff_exists_spelled
    (s : List Char) :
    isName s = true ↔
      ∃ majorRun minorRun rest, Spelled s majorRun minorRun rest := by
  unfold isName
  rw [Option.isSome_iff_exists]
  constructor
  · rintro ⟨v, hv⟩
    exact ⟨_, _, _, spelled_iff.mpr ⟨v, ofChars?_eq_some_iff.mp hv, rfl, rfl, rfl⟩⟩
  · rintro ⟨_, _, _, h⟩
    obtain ⟨v, hv, -⟩ := spelled_iff.mp h
    exact ⟨v, ofChars?_eq_some_iff.mpr hv⟩

theorem read_eq_ok_iff
    (s : String)
    (v : Version) :
    read s = .ok v ↔ s = v.text := by
  rw [read, readChars_eq_ok_iff, text, ← String.toList_inj, String.toList_ofList]

/-- **Reading accepts exactly the grammar, with one reading.**  A name is read if and only
if it passes as a name, if and only if the pattern fits it, if and only if the grammar
spells it.  The spelling is unique, it is the first way in which the pattern fits, and the
version that is read keeps the name and the rest, and both runs without leading zeros.  The
error of a name that is not read carries that name. -/
theorem read_exact
    (s : String) :
    ((∃ v, read s = .ok v) ↔ isName s.toList = true)
    ∧
    (isName s.toList = true ↔ ways PatternPart.version s.toList ≠ [])
    ∧
    (isName s.toList = true ↔
      ∃ majorRun minorRun rest, Spelled s.toList majorRun minorRun rest)
    ∧
    (∀ majorRun minorRun rest,
      Spelled s.toList majorRun minorRun rest →
        (∀ majorRun' minorRun' rest',
          Spelled s.toList majorRun' minorRun' rest' →
            majorRun' = majorRun ∧ minorRun' = minorRun ∧ rest' = rest) ∧
        (ways PatternPart.version s.toList).head? = some [majorRun, minorRun, rest] ∧
        ∃ v,
          read s = .ok v ∧ v.text = s ∧ v.suffix = rest ∧
          WithoutZeros majorRun v.major ∧ WithoutZeros minorRun v.minor)
    ∧
    (∀ e, read s = .error e → e = .invalidVersion s) := by
  have hread : (∃ v, read s = .ok v) ↔ isName s.toList = true := by
    rw [isName_iff_exists_text]
    exact exists_congr (read_eq_ok_iff s)
  refine
    ⟨hread, (ways_version_ne_nil_iff _).symm, isName_iff_exists_spelled _, ?_, ?_⟩
  · intro majorRun minorRun rest hspelled
    obtain ⟨v, hv, hmajor, hminor, hrest⟩ := spelled_iff.mp hspelled
    have htext : s = v.text := by
      rw [text, ← hv, String.ofList_toList]
    refine
      ⟨fun _ _ _ h => hspelled.unique h, ?_, v, (read_eq_ok_iff s v).mpr htext, htext.symm,
        hrest, hmajor ▸ withoutZeros_stripZeros v.majorDigits,
        hminor ▸ withoutZeros_stripZeros v.minorDigits⟩
    rw [head?_ways_version, hv, ofChars?_chars, Option.map_some, hmajor, hminor, hrest]
  · intro e he
    cases hname : isName s.toList with
    | true =>
        obtain ⟨v, hv⟩ := hread.mpr hname
        rw [hv] at he
        cases he
    | false =>
        rw [read_of_not_isName hname] at he
        exact (Except.error.inj he).symm

/-- A rest may start with a line feed and hold another hyphen.  The pattern also fits with
a shorter second run, but not in the first way. -/
theorem read_multiline_rest :
    (ways PatternPart.version "v007-10\n-2".toList).length = 2 ∧
    (ways PatternPart.version "v007-10\n-2".toList).head? =
      some [['0', '0', '7'], ['1', '0'], ['\n', '-', '2']] ∧
    ∃ v,
      read "v007-10\n-2" = .ok v ∧ v.text = "v007-10\n-2" ∧ v.suffix = ['\n', '-', '2'] ∧
      WithoutZeros ['0', '0', '7'] v.major ∧ WithoutZeros ['1', '0'] v.minor := by
  have hspelled :
      Spelled "v007-10\n-2".toList ['0', '0', '7'] ['1', '0'] ['\n', '-', '2'] :=
    ⟨by decide, by decide, by decide, fun c hc => by cases hc; rfl⟩
  obtain ⟨-, hways, hread⟩ := (read_exact "v007-10\n-2").2.2.2.1 _ _ _ hspelled
  exact ⟨by decide, hways, hread⟩

end Version
end FeatureLadder
