import FeatureLadder.Proofs.Selection

/-!
# When the two orders of a catalog agree

A catalog whose versions are declared in ascending order is the same catalog in both
orders.  The walks to a target still differ: in the order of declaration nothing is
dropped beforehand, so a target that is not declared lets the walk run on through the
versions above it.

* A declared target ends both walks at its first occurrence.
* For any other target the walk in the order of declaration is longer by the versions
  above the target, so the walks agree if there are none.

**Results.**
* `walkedBefore_manifest_eq`: by what the walk in the order of declaration is longer.
* `orders_agree_iff`: for which targets the two orders select the same versions.
-/

namespace FeatureLadder

namespace Version

/-- Sorting leaves an ascending list as it is. -/
theorem sort_of_ascending
    {versions : List Version}
    (hasc : versions.Pairwise (· ≤ ·)) :
    sort versions = versions :=
  (sort_eq_iff versions versions).mpr ⟨.rfl, hasc⟩

/-- An ascending list without the target falls apart into the versions below it and those
above it. -/
theorem filter_lt_append_filter_gt
    {target : Version} :
    ∀ {versions : List Version}, versions.Pairwise (· ≤ ·) → target ∉ versions →
      versions.filter (· < target) ++ versions.filter (target < ·) = versions
  | [], _, _ => rfl
  | v :: rest, hasc, hmem => by
      obtain ⟨hhead, htail⟩ := List.pairwise_cons.mp hasc
      obtain ⟨hne, hrest⟩ := not_or.mp (List.mem_cons.not.mp hmem)
      have ih := filter_lt_append_filter_gt htail hrest
      rcases lt_or_gt_of_ne hne with habove | hbelow
      · have hall : ∀ w ∈ v :: rest, target < w := by
          intro w hw
          rcases List.mem_cons.mp hw with rfl | hw
          · exact habove
          · exact habove.trans_le (hhead w hw)
        have hnone : (v :: rest).filter (· < target) = [] := by
          rw [List.filter_eq_nil_iff]
          intro w hw
          simpa using (hall w hw).le
        have hkeep : (v :: rest).filter (target < ·) = v :: rest := by
          rw [List.filter_eq_self]
          intro w hw
          simpa using hall w hw
        rw [hnone, hkeep, List.nil_append]
      · rw [List.filter_cons_of_pos (by simpa using hbelow),
          List.filter_cons_of_neg (by simpa using hbelow.le), List.cons_append, ih]

end Version

namespace Catalog

/-- The versions that only a walk in the order of declaration comes by. -/
def overrun
    (versions : List Version)
    (target : Version) :
    List Version :=
  if target ∈ versions then [] else versions.filter (target < ·)

/-- **By what the walk in the order of declaration is longer**, if the versions are
declared in ascending order. -/
theorem walkedBefore_manifest_eq
    {versions : List Version}
    (hasc : versions.Pairwise (· ≤ ·))
    (target : Version) :
    walkedBefore versions target .manifest =
      walkedBefore versions target .version ++ overrun versions target := by
  unfold walkedBefore overrun
  rw [Version.sort_of_ascending hasc]
  by_cases hmem : target ∈ versions
  · rw [if_pos hmem, Version.takeWhile_ne_eq_filter_lt hasc (Or.inl hmem), List.append_nil]
  · rw [if_neg hmem, (takeWhile_ne_of_not_mem hmem).2,
      Version.filter_lt_append_filter_gt hasc hmem]

/-- Nothing is overrun exactly if the target is declared or everything is below it. -/
theorem overrun_eq_nil_iff
    (versions : List Version)
    (target : Version) :
    overrun versions target = [] ↔ target ∈ versions ∨ ∀ v ∈ versions, v < target := by
  unfold overrun
  by_cases hmem : target ∈ versions
  · simp [hmem]
  · rw [if_neg hmem, List.filter_eq_nil_iff]
    constructor
    · intro habove
      right
      intro v hv
      have hle : v ≤ target := by simpa using habove v hv
      exact lt_of_le_of_ne hle (ne_of_mem_of_not_mem hv hmem)
    · rintro (h | hbelow) v hv
      · exact absurd h hmem
      · simpa using (hbelow v hv).le

/-- **When the two orders agree.**  If the versions are declared in ascending order and
the target need not be declared, both orders give a selection; they give the same one
exactly if the target is declared or every declared version is below it. -/
theorem orders_agree_iff
    (c : Catalog)
    (target : Version)
    (hasc : c.versions.Pairwise (· ≤ ·)) :
    ∃ asDeclared structural,
      c.select target ⟨.permissive, .manifest⟩ = .ok asDeclared ∧
      c.select target ⟨.permissive, .version⟩ = .ok structural ∧
      (asDeclared = structural ↔
        target ∈ c.versions ∨ ∀ v ∈ c.versions, v < target) := by
  refine
    ⟨_, _, (select_eq_ok_iff c target _ _).mpr ⟨Or.inl rfl, rfl⟩,
      (select_eq_ok_iff c target _ _).mpr ⟨Or.inl rfl, rfl⟩, ?_⟩
  rw [walkedBefore_manifest_eq hasc, ← overrun_eq_nil_iff, List.append_left_inj]
  exact List.append_right_eq_self

/-- A version that is declared twice does no harm; a target between two declared versions
makes the orders differ, and one above all of them does not. -/
theorem orders_agree_iff_repeated :
    ∃ (c : Catalog) (between top : Version) (r₁ r₂ s₁ s₂ : List Version),
      c.names = ["v0-1", "v0-1", "v0-3"] ∧ between.text = "v0-2" ∧ top.text = "v0-10" ∧
      c.select between ⟨.permissive, .manifest⟩ = .ok r₁ ∧
      c.select between ⟨.permissive, .version⟩ = .ok r₂ ∧ r₁ ≠ r₂ ∧
      c.select top ⟨.permissive, .manifest⟩ = .ok s₁ ∧
      c.select top ⟨.permissive, .version⟩ = .ok s₂ ∧ s₁ = s₂ := by
  let v₁ : Version := (Version.ofChars? ['v', '0', '-', '1']).get rfl
  let v₃ : Version := (Version.ofChars? ['v', '0', '-', '3']).get rfl
  let between : Version := (Version.ofChars? ['v', '0', '-', '2']).get rfl
  let top : Version := (Version.ofChars? ['v', '0', '-', '1', '0']).get rfl
  let c : Catalog := ⟨[v₁, v₁, v₃]⟩
  have hasc : c.versions.Pairwise (· ≤ ·) := by decide
  obtain ⟨r₁, r₂, hr₁, hr₂, hr⟩ := orders_agree_iff c between hasc
  obtain ⟨s₁, s₂, hs₁, hs₂, hs⟩ := orders_agree_iff c top hasc
  refine
    ⟨c, between, top, r₁, r₂, s₁, s₂, by decide, by decide, by decide, hr₁, hr₂, ?_, hs₁, hs₂,
      hs.mpr ?_⟩
  · rw [ne_eq, hr]
    decide
  · decide

end Catalog
end FeatureLadder
