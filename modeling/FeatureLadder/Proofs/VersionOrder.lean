import FeatureLadder.Selection.Basic
import Mathlib.Data.List.Sort

/-!
# The structural order as a linear order

The comparison of versions is transitive and decides equality, so the order it gives
is linear.  `LinearOrder Version` says so with the relations, the minimum and the
maximum that the program itself uses.

Sorting rearranges its input into ascending order.  In an ascending list the versions
below a target stand in front of every occurrence of it; this is what a walk through a
sorted catalog amounts to.

**Results.**
* `sort_perm`, `sort_ascending`: sorting loses and invents nothing, and ascends.
* `sort_eq_iff`: no other arrangement ascends.
* `takeWhile_ne_eq_filter_lt`: walking an ascending list up to a target that stands in
  it, or above which nothing stands, yields the versions below the target.
-/

namespace FeatureLadder
namespace Version

/-- A version is known by its name. -/
theorem text_inj
    {v w : Version} :
    v.text = w.text ↔ v = w := by
  constructor
  · intro h
    exact chars_injective (String.ofList_injective h)
  · rintro rfl
    rfl

@[simp] theorem text_toList
    (v : Version) :
    v.text.toList = v.chars :=
  String.toList_ofList

section LinearOrder

theorem compare_lt_iff_not_isLE
    (v w : Version) :
    Ord.compare v w = .lt ↔ ¬ (Ord.compare w v).isLE = true := by
  constructor
  · exact Std.OrientedCmp.not_isLE_of_lt
  · intro h
    apply Std.OrientedCmp.lt_of_gt
    cases hc : Ord.compare w v <;> simp [hc] at h ⊢

theorem isLE_or_isLE
    (v w : Version) :
    (Ord.compare v w).isLE = true ∨ (Ord.compare w v).isLE = true := by
  by_cases h : (Ord.compare w v).isLE = true
  · exact Or.inr h
  · left
    rw [(compare_lt_iff_not_isLE v w).mpr h]
    rfl

instance : LinearOrder Version where
  le_refl _ := Std.ReflCmp.isLE_rfl
  le_trans _ _ _ := Std.TransOrd.isLE_trans
  le_antisymm _ _ hvw hwv :=
    Std.LawfulEqOrd.eq_of_compare (Std.OrientedCmp.isLE_antisymm hvw hwv)
  lt_iff_le_not_ge v w := by
    change Ord.compare v w = .lt ↔
      (Ord.compare v w).isLE = true ∧ ¬ (Ord.compare w v).isLE = true
    rw [← compare_lt_iff_not_isLE]
    constructor
    · intro h
      exact ⟨by simp [h], h⟩
    · exact And.right
  le_total := isLE_or_isLE
  toDecidableLE := inferInstance
  toDecidableEq := inferInstance
  toDecidableLT := inferInstance
  compare_eq_compareOfLessAndEq v w := by
    unfold compareOfLessAndEq
    split_ifs with hlt heq
    · exact hlt
    · subst heq
      exact Std.ReflCmp.compare_self
    · have hge : ¬ Ord.compare v w = .lt := hlt
      have hne : ¬ Ord.compare v w = .eq := fun h => heq (Std.LawfulEqOrd.eq_of_compare h)
      cases hc : Ord.compare v w with
      | lt => exact absurd hc hge
      | eq => exact absurd hc hne
      | gt => rfl

end LinearOrder

/-- Sorting loses and invents nothing. -/
theorem sort_perm
    (versions : List Version) :
    (sort versions).Perm versions :=
  List.mergeSort_perm _ _

@[simp] theorem mem_sort
    {v : Version} {versions : List Version} :
    v ∈ sort versions ↔ v ∈ versions :=
  (sort_perm versions).mem_iff

/-- A sorted list ascends. -/
theorem sort_ascending
    (versions : List Version) :
    (sort versions).Pairwise (· ≤ ·) :=
  List.pairwise_mergeSort' (· ≤ ·) versions

/-- **A list has one ascending arrangement.** -/
theorem sort_eq_iff
    (versions arranged : List Version) :
    sort versions = arranged ↔
      arranged.Perm versions ∧ arranged.Pairwise (· ≤ ·) := by
  constructor
  · rintro rfl
    exact ⟨sort_perm versions, sort_ascending versions⟩
  · rintro ⟨hperm, hasc⟩
    exact
      List.Perm.eq_of_pairwise' (sort_ascending versions) hasc
        ((sort_perm versions).trans hperm.symm)

/-- In an ascending list that holds the target, or nothing above it, the versions before
the target's first occurrence are those below it. -/
theorem takeWhile_ne_eq_filter_lt
    {target : Version} :
    ∀ {versions : List Version}, versions.Pairwise (· ≤ ·) →
      (target ∈ versions ∨ ∀ v ∈ versions, v ≤ target) →
      versions.takeWhile (· ≠ target) = versions.filter (· < target)
  | [], _, _ => rfl
  | v :: rest, hasc, hreach => by
      obtain ⟨hhead, htail⟩ := List.pairwise_cons.mp hasc
      by_cases hv : v = target
      · subst hv
        have hnone : rest.filter (· < v) = [] := by
          rw [List.filter_eq_nil_iff]
          intro w hw
          simpa using hhead w hw
        simp [hnone]
      · have hstep : v ≤ target ∧ (target ∈ rest ∨ ∀ w ∈ rest, w ≤ target) := by
          rcases hreach with hmem | hle
          · rcases List.mem_cons.mp hmem with h | h
            · exact absurd h.symm hv
            · exact ⟨hhead target h, Or.inl h⟩
          · exact ⟨hle v (by simp), Or.inr fun w hw => hle w (List.mem_cons_of_mem _ hw)⟩
        have hlt : v < target := lt_of_le_of_ne hstep.1 hv
        have ih := takeWhile_ne_eq_filter_lt htail hstep.2
        rw [List.takeWhile_cons_of_pos (by simpa using hv),
          List.filter_cons_of_pos (by simpa using hlt), ih]

/-- Walking the versions of an ascending list that are not above the target, up to the
target, yields the versions below it. -/
theorem takeWhile_ne_filter_le
    (target : Version)
    {versions : List Version}
    (hasc : versions.Pairwise (· ≤ ·)) :
    (versions.filter (· ≤ target)).takeWhile (· ≠ target) =
      versions.filter (· < target) := by
  have hle : ∀ v ∈ versions.filter (· ≤ target), v ≤ target := by
    intro v hv
    simpa using (List.mem_filter.mp hv).2
  rw [takeWhile_ne_eq_filter_lt (hasc.filter _) (Or.inr hle), List.filter_filter]
  apply List.filter_congr
  intro v _
  by_cases h : v < target
  · simp [h, h.le]
  · simp [h]

end Version
end FeatureLadder
