import FeatureLadder.Proofs.VersionOrder
import Mathlib.Data.List.TakeWhile

/-!
# What a selection holds

The selection for a target is refused or it is a list that ends with the target.  What
leads up to the target is described without the walk that computes it: `LeadsTo` speaks
of positions in the catalog for the order of declaration, and of the versions below the
target, each as often as it is declared, for the structural order.

* In declaration order the description fixes the list because the target occurs in no
  proper beginning of it.
* In structural order it does because two ascending arrangements of the same versions
  are one and the same list.

**Results.**
* `leadsTo_iff`: the description holds of one list only, the walked one.
* `exists_arranged_eq_append`: in either order, what is walked in front of a declared
  target stands in front of it in the arranged catalog.
* `select_exact`: when a selection is refused, with which error, and what it is
  otherwise.
-/

namespace FeatureLadder
namespace Catalog

/-- `before` is what is enabled in front of the target. -/
def LeadsTo
    (versions : List Version)
    (target : Version) :
    CatalogOrder → List Version → Prop
  | .manifest, before =>
      target ∉ before ∧
      ((∃ after, versions = before ++ target :: after) ∨ versions = before)
  | .version, before =>
      before.Perm (versions.filter (· < target)) ∧
      before.Pairwise (· ≤ ·)

/-- The versions in front of the target, as they are walked. -/
def walkedBefore
    (versions : List Version)
    (target : Version) :
    CatalogOrder → List Version
  | .manifest => versions.takeWhile (· ≠ target)
  | .version => (Version.sort versions).filter (· < target)

/-- The versions in front of a target's first occurrence do not hold it. -/
theorem not_mem_takeWhile_ne
    (versions : List Version)
    (target : Version) :
    target ∉ versions.takeWhile (· ≠ target) := by
  intro h
  simpa using List.mem_takeWhile_imp h

/-- A list falls apart at the first occurrence of a target, if there is one. -/
theorem eq_takeWhile_ne_append
    (target : Version) :
    ∀ versions : List Version,
      (∃ after, versions = versions.takeWhile (· ≠ target) ++ target :: after) ∨
        versions = versions.takeWhile (· ≠ target)
  | [] => Or.inr rfl
  | v :: rest => by
      by_cases hv : v = target
      · subst hv
        exact Or.inl ⟨rest, by simp⟩
      · have hwalk :
            (v :: rest).takeWhile (· ≠ target) = v :: rest.takeWhile (· ≠ target) :=
          List.takeWhile_cons_of_pos (by simpa using hv)
        rw [hwalk]
        rcases eq_takeWhile_ne_append target rest with ⟨after, h⟩ | h
        · exact Or.inl ⟨after, congrArg (v :: ·) h⟩
        · exact Or.inr (congrArg (v :: ·) h)

/-- A list without the target is walked to its end, whatever the target is followed
by. -/
theorem takeWhile_ne_of_not_mem
    {before : List Version}
    {target : Version}
    (hmem : target ∉ before) :
    (∀ after, (before ++ target :: after).takeWhile (· ≠ target) = before) ∧
      before.takeWhile (· ≠ target) = before := by
  have hall : ∀ v ∈ before, decide (v ≠ target) = true := by
    intro v hv
    have : v ≠ target := fun h => hmem (h ▸ hv)
    simpa using this
  constructor
  · intro after
    rw [List.takeWhile_append_of_pos hall]
    simp
  · exact List.takeWhile_eq_self_iff.mpr hall

theorem leadsTo_manifest_iff
    (versions : List Version)
    (target : Version)
    (before : List Version) :
    LeadsTo versions target .manifest before ↔
      before = versions.takeWhile (· ≠ target) := by
  constructor
  · rintro ⟨hmem, ⟨after, rfl⟩ | rfl⟩
    · exact ((takeWhile_ne_of_not_mem hmem).1 after).symm
    · exact (takeWhile_ne_of_not_mem hmem).2.symm
  · rintro rfl
    exact ⟨not_mem_takeWhile_ne versions target, eq_takeWhile_ne_append target versions⟩

theorem leadsTo_version_iff
    (versions : List Version)
    (target : Version)
    (before : List Version) :
    LeadsTo versions target .version before ↔
      before = (Version.sort versions).filter (· < target) := by
  have hperm :
      ((Version.sort versions).filter (· < target)).Perm (versions.filter (· < target)) :=
    (Version.sort_perm versions).filter _
  have hasc : ((Version.sort versions).filter (· < target)).Pairwise (· ≤ ·) :=
    (Version.sort_ascending versions).filter _
  constructor
  · rintro ⟨hp, ha⟩
    exact List.Perm.eq_of_pairwise' ha hasc (hp.trans hperm.symm)
  · rintro rfl
    exact ⟨hperm, hasc⟩

/-- What leads to a target is what is walked in front of it, and nothing else. -/
theorem leadsTo_iff
    (versions : List Version)
    (target : Version)
    (order : CatalogOrder)
    (before : List Version) :
    LeadsTo versions target order before ↔
      before = walkedBefore versions target order := by
  cases order with
  | manifest => exact leadsTo_manifest_iff versions target before
  | version => exact leadsTo_version_iff versions target before

/-- The enabled versions are those walked before the target, and the target. -/
theorem enabled_eq
    (c : Catalog)
    (target : Version)
    (order : CatalogOrder) :
    c.enabled target order = walkedBefore c.versions target order ++ [target] := by
  unfold enabled
  rw [Cumulation.collect_start, Cumulation.upTo_eq]
  cases order with
  | manifest => rfl
  | version =>
      have h :=
        Version.takeWhile_ne_filter_le target (Version.sort_ascending c.versions)
      exact congrArg (· ++ [target]) h

/-- The target is not walked before itself. -/
theorem not_mem_walkedBefore
    (versions : List Version)
    (target : Version)
    (order : CatalogOrder) :
    target ∉ walkedBefore versions target order := by
  cases order with
  | manifest => exact not_mem_takeWhile_ne versions target
  | version => simp [walkedBefore]

/-- Arranging keeps what is declared. -/
theorem mem_arranged_iff
    (c : Catalog)
    (order : CatalogOrder)
    (v : Version) :
    v ∈ (c.arranged order).versions ↔ v ∈ c.versions := by
  cases order with
  | manifest => exact Iff.rfl
  | version => exact Version.mem_sort

/-- The versions walked before a declared target are those arranged before it. -/
theorem walkedBefore_eq_takeWhile_arranged
    (c : Catalog)
    (order : CatalogOrder)
    {target : Version}
    (hmem : target ∈ c.versions) :
    walkedBefore c.versions target order =
      (c.arranged order).versions.takeWhile (· ≠ target) := by
  cases order with
  | manifest => rfl
  | version =>
      have hwalk :=
        Version.takeWhile_ne_eq_filter_lt
          (Version.sort_ascending c.versions) (Or.inl (Version.mem_sort.mpr hmem))
      exact hwalk.symm

/-- An arranged catalog falls apart at a declared target. -/
theorem exists_arranged_eq_append
    (c : Catalog)
    (order : CatalogOrder)
    {target : Version}
    (hmem : target ∈ c.versions) :
    ∃ after,
      (c.arranged order).versions =
        walkedBefore c.versions target order ++ target :: after := by
  rw [walkedBefore_eq_takeWhile_arranged c order hmem]
  rcases eq_takeWhile_ne_append target (c.arranged order).versions with h | h
  · exact h
  · have harranged := (mem_arranged_iff c order target).mpr hmem
    rw [h] at harranged
    exact absurd harranged (not_mem_takeWhile_ne _ target)

/-- A target is declared if a declared version has its name. -/
theorem mem_versions_iff_text
    (c : Catalog)
    (target : Version) :
    target ∈ c.versions ↔ ∃ v ∈ c.versions, v.text = target.text := by
  constructor
  · intro h
    exact ⟨target, h, rfl⟩
  · rintro ⟨v, hv, htext⟩
    rwa [← Version.text_inj.mp htext]

theorem listing_eq
    (c : Catalog) :
    c.listing =
      if c.versions = [] then "none"
      else ", ".intercalate (c.versions.map Version.text) := by
  unfold listing names
  cases c.versions with
  | nil => rfl
  | cons v rest => rfl

/-- A selection is refused for one reason only. -/
theorem select_eq_error_iff
    (c : Catalog)
    (target : Version)
    (rule : SelectionRule)
    (e : Error) :
    c.select target rule = .error e ↔
      rule.membership = .strict ∧ target ∉ c.versions ∧
        e = .undeclared target.text c.listing := by
  obtain ⟨membership, order⟩ := rule
  cases membership with
  | strict =>
      rw [select_strict]
      split_ifs with h
      · simp [h]
      · simp [h, eq_comm]
  | permissive =>
      rw [select_permissive]
      simp

/-- A selection that is not refused is what the walk yields. -/
theorem select_eq_ok_iff
    (c : Catalog)
    (target : Version)
    (rule : SelectionRule)
    (selected : List Version) :
    c.select target rule = .ok selected ↔
      (rule.membership = .permissive ∨ target ∈ c.versions) ∧
        selected = walkedBefore c.versions target rule.order ++ [target] := by
  obtain ⟨membership, order⟩ := rule
  cases membership with
  | strict =>
      rw [select_strict, enabled_eq]
      split_ifs with h
      · simp [h, eq_comm]
      · simp [h]
  | permissive =>
      rw [select_permissive, enabled_eq]
      simp [eq_comm]

/-- **The exact meaning of a selection.**  It is refused if and only if the target has
to be declared and no declared version has its name; the error then carries that name
and the declared ones.  Otherwise it consists of what leads to the target and the
target itself, once and last, and the membership rule has no influence on it. -/
theorem select_exact
    (c : Catalog)
    (target : Version)
    (rule : SelectionRule) :
    (∀ e : Error,
      c.select target rule = .error e ↔
        rule.membership = .strict ∧
        (∀ v ∈ c.versions, v.text ≠ target.text) ∧
        e = .undeclared target.text
          (if c.versions = [] then "none"
            else ", ".intercalate (c.versions.map Version.text)))
    ∧
    (∀ selected : List Version,
      c.select target rule = .ok selected ↔
        (rule.membership = .permissive ∨ ∃ v ∈ c.versions, v.text = target.text) ∧
        ∃ before,
          LeadsTo c.versions target rule.order before ∧
          selected = before ++ [target])
    ∧
    (∀ selected : List Version,
      c.select target rule = .ok selected →
        selected.count target = 1 ∧ selected.getLast? = some target)
    ∧
    (∀ selected : List Version,
      c.select target { rule with membership := .strict } = .ok selected →
        c.select target { rule with membership := .permissive } = .ok selected) := by
  refine ⟨?_, ?_, ?_, ?_⟩
  · intro e
    rw [select_eq_error_iff, mem_versions_iff_text, listing_eq]
    simp only [not_exists, not_and, ne_eq]
  · intro selected
    rw [select_eq_ok_iff, mem_versions_iff_text]
    constructor
    · rintro ⟨hdeclared, rfl⟩
      exact ⟨hdeclared, _, (leadsTo_iff _ _ _ _).mpr rfl, rfl⟩
    · rintro ⟨hdeclared, before, hlead, rfl⟩
      exact ⟨hdeclared, congrArg (· ++ [target]) ((leadsTo_iff _ _ _ _).mp hlead)⟩
  · intro selected h
    obtain ⟨-, rfl⟩ := (select_eq_ok_iff _ _ _ _).mp h
    have hbefore := List.count_eq_zero.mpr (not_mem_walkedBefore c.versions target rule.order)
    constructor
    · rw [List.count_append, hbefore]
      simp
    · simp
  · intro selected h
    obtain ⟨-, rfl⟩ := (select_eq_ok_iff _ _ _ _).mp h
    exact (select_eq_ok_iff _ _ _ _).mpr ⟨Or.inl rfl, rfl⟩

end Catalog
end FeatureLadder
