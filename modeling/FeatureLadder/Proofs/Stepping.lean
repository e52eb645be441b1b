import FeatureLadder.Selection.Cumulation

/-!
# A selection, step by step

**Input**: a list of versions, a target, and how many steps are taken before the rest is
collected.

A selection under way is described by what it would still yield if it were collected now.
One step takes the first version off that list and reads one more of the versions given; once
the list is empty, steps change nothing any more.  Everything else follows by induction on the
number of steps:

* the answers are the versions of the list, one after the other, and then nothing;
* as many of the given versions have been read as answers were given, so reading stops with
  the first occurrence of the target.

**Results.**
* `next_cases`: what one step does.
* `nexts_answers`, `nexts_collect`, `nexts_remaining`: what any number of steps does.
* `drains_collect`: stepping until there is no answer ends, and yields what is collected.
* `steps_then_collect`: the answers, the rest and what is left unread, from the start on.
-/

namespace FeatureLadder
namespace Cumulation

/-- Stepping from `s` until there is no next version yields `vs` and stops at `t`. -/
inductive Drains : Cumulation → List Version → Cumulation → Prop
  | done {s t : Cumulation} (hnext : s.next = (none, t)) : Drains s [] t
  | more {s t u : Cumulation} {v : Version} {vs : List Version}
      (hnext : s.next = (some v, t)) (hrest : Drains t vs u) : Drains s (v :: vs) u

/-- A step yields the first version that is still to come and reads one version, or there is
none to come and nothing changes. -/
theorem next_cases
    (s : Cumulation) :
    (s.collect = [] ∧ s.next = (none, s)) ∨
    (∃ v t, s.next = (some v, t) ∧
      s.collect = v :: t.collect ∧ t.remaining = s.remaining.drop 1) := by
  have hcollect := s.collect_eq_next
  by_cases hf : s.finished = true
  · left
    exact ⟨by simp [collect, hf], by simp [next, hf]⟩
  · right
    cases hr : s.remaining with
    | nil =>
        have hnext : s.next = (some s.target, { s with finished := true }) := by
          simp [next, hf, hr]
        rw [hnext] at hcollect
        exact ⟨_, _, hnext, hcollect, hr⟩
    | cons v rest =>
        have hnext : s.next =
            (some v, { s with remaining := rest, finished := decide (v = s.target) }) := by
          simp [next, hf, hr]
        rw [hnext] at hcollect
        exact ⟨_, _, hnext, hcollect, rfl⟩

theorem nexts_succ
    (k : Nat)
    (s : Cumulation) :
    nexts (k + 1) s = (s.next.1 :: (nexts k s.next.2).1, (nexts k s.next.2).2) := rfl

/-- The answers are the versions still to come, one after the other, and then nothing. -/
theorem nexts_answers
    (k : Nat) :
    ∀ s : Cumulation,
      (nexts k s).1 =
        (s.collect.take k).map some ++ List.replicate (k - s.collect.length) none := by
  induction k with
  | zero =>
      intro s
      simp [nexts]
  | succ k ih =>
      intro s
      rcases s.next_cases with ⟨hcollect, hnext⟩ | ⟨v, t, hnext, hcollect, -⟩
      · simp [nexts_succ, hnext, ih, hcollect, List.replicate_succ]
      · simp [nexts_succ, hnext, ih, hcollect]

/-- Behind some steps, what they yielded no longer comes. -/
theorem nexts_collect
    (k : Nat) :
    ∀ s : Cumulation, (nexts k s).2.collect = s.collect.drop k := by
  induction k with
  | zero =>
      intro s
      simp [nexts]
  | succ k ih =>
      intro s
      rcases s.next_cases with ⟨hcollect, hnext⟩ | ⟨v, t, hnext, hcollect, -⟩
      · simp [nexts_succ, hnext, ih, hcollect]
      · simp [nexts_succ, hnext, ih, hcollect]

/-- One version is read for each answer, and none once the answers have ended. -/
theorem nexts_remaining
    (k : Nat) :
    ∀ s : Cumulation,
      (nexts k s).2.remaining = s.remaining.drop (min k s.collect.length) := by
  induction k with
  | zero =>
      intro s
      simp [nexts]
  | succ k ih =>
      intro s
      rcases s.next_cases with ⟨hcollect, hnext⟩ | ⟨v, t, hnext, hcollect, hread⟩
      · simp [nexts_succ, hnext, ih, hcollect]
      · have hcount : 1 + min k t.collect.length = min (k + 1) (t.collect.length + 1) := by
          omega
        simp only [nexts_succ, hnext, ih, hcollect, hread, List.drop_drop, List.length_cons, hcount]

/-- **Stepping until there is no answer ends**, with what is collected as its answers, and one
version is read for each of them. -/
theorem drains_collect
    (s : Cumulation) :
    ∃ t, Drains s s.collect t ∧ t.remaining = s.remaining.drop s.collect.length := by
  -- the versions still to come get fewer with each step that yields one
  induction hlen : s.collect.length generalizing s with
  | zero =>
      rcases s.next_cases with ⟨hcollect, hnext⟩ | ⟨v, t, -, hcollect, -⟩
      · rw [hcollect]
        exact ⟨s, .done hnext, rfl⟩
      · simp [hcollect] at hlen
  | succ n ih =>
      rcases s.next_cases with ⟨hcollect, -⟩ | ⟨v, t, hnext, hcollect, hread⟩
      · simp [hcollect] at hlen
      · have hlen' : t.collect.length = n := by
          simpa [hcollect] using hlen
        obtain ⟨u, hdrains, hleft⟩ := ih t hlen'
        refine ⟨u, ?_, ?_⟩
        · rw [hcollect]
          exact .more hnext hdrains
        · rw [hleft, hread, List.drop_drop, Nat.add_comm]

/-- In front of the first occurrence of the target, and not behind it, versions are yielded. -/
theorem upTo_append
    {target : Version}
    {before : List Version}
    (hbefore : target ∉ before)
    (after : List Version) :
    upTo target (before ++ target :: after) = before ++ [target] := by
  have hpass : ∀ v ∈ before, decide (v ≠ target) = true := by
    intro v hv
    simpa using ne_of_mem_of_not_mem hv hbefore
  rw [upTo_eq, List.takeWhile_append_of_pos hpass]
  simp

/-- What stands behind the first occurrence of the target is left over, however many versions
are read for the answers. -/
theorem after_suffix_drop
    {target : Version}
    {before : List Version}
    (hbefore : target ∉ before)
    (after : List Version)
    {n : Nat}
    (hn : n ≤ (upTo target (before ++ target :: after)).length) :
    after <:+ (before ++ target :: after).drop n := by
  have hlen : n ≤ (before ++ [target]).length := by
    rwa [upTo_append hbefore] at hn
  have hsplit : before ++ target :: after = (before ++ [target]) ++ after := by
    simp
  rw [hsplit, List.drop_append_of_le_length hlen]
  exact List.suffix_append _ _

/-- **A selection, step by step.**  What is to be yielded are the versions before the first that
equals the target, and then the target.  However many steps are taken, they answer with these
versions from the first on, and when these have ended with nothing, again and again.  What is
collected behind the steps are the versions they left out; it is what stepping until there is
no answer yields.  The versions behind the first that equals the target are read neither by
the steps nor by collecting. -/
theorem steps_then_collect
    (versions : List Version)
    (target : Version)
    (k : Nat) :
    ∃ (yielded : List Version) (stop : Cumulation),
      yielded = versions.takeWhile (· ≠ target) ++ [target] ∧
      (nexts k (start versions target)).1 =
        (yielded.take k).map some ++ List.replicate (k - yielded.length) none ∧
      (nexts k (start versions target)).2.collect = yielded.drop k ∧
      Drains (nexts k (start versions target)).2 (yielded.drop k) stop ∧
      ∀ before after,
        versions = before ++ target :: after → target ∉ before →
          after <:+ (nexts k (start versions target)).2.remaining ∧ after <:+ stop.remaining := by
  obtain ⟨stop, hdrains, hstop⟩ := drains_collect (nexts k (start versions target)).2
  rw [nexts_collect] at hdrains hstop
  refine
    ⟨upTo target versions, stop, upTo_eq target versions, nexts_answers k _,
      nexts_collect k _, hdrains, ?_⟩
  rintro before after rfl hbefore
  rw [hstop, nexts_remaining, List.drop_drop]
  refine ⟨after_suffix_drop hbefore after ?_, after_suffix_drop hbefore after ?_⟩
  · exact Nat.min_le_right _ _
  · simp only [collect_start, List.length_drop]
    omega

/-- A target that is given twice: three steps answer twice, and what stands between its
occurrences is left unread. -/
theorem steps_then_collect_repeated :
    ∃ (low target high : Version) (stop : Cumulation),
      low.text = "v0-1" ∧ target.text = "v0-2" ∧ high.text = "v1-0" ∧
      (nexts 3 (start [low, target, high, target] target)).1 = [some low, some target, none] ∧
      Drains (nexts 1 (start [low, target, high, target] target)).2 [target] stop ∧
      [high, target] <:+ stop.remaining := by
  let low : Version := (Version.ofChars? ['v', '0', '-', '1']).get rfl
  let target : Version := (Version.ofChars? ['v', '0', '-', '2']).get rfl
  let high : Version := (Version.ofChars? ['v', '1', '-', '0']).get rfl
  have hbefore : target ∉ [low] := by decide
  obtain ⟨_, -, rfl, hanswers, -⟩ := steps_then_collect [low, target, high, target] target 3
  obtain ⟨_, stop, rfl, -, -, hdrains, hunread⟩ :=
    steps_then_collect [low, target, high, target] target 1
  exact
    ⟨low, target, high, stop, by decide, by decide, by decide, hanswers, hdrains,
      (hunread [low] [high, target] rfl hbefore).2⟩

end Cumulation
end FeatureLadder
