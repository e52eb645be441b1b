import FeatureLadder.Proofs.Selection

/-!
# Selections are cumulative

The selections for two targets are taken from one catalog, each by a walk of its own.  In
the order of declaration both walks follow the catalog; in structural order each one first
drops what is above its own target.  Still the selection for a declared target is always
the beginning of the arranged catalog up to that target, so of two such selections the
shorter one begins the longer one, and which is shorter is a matter of where the targets
stand:

* in the order of declaration, where each of them occurs first;
* in structural order, which of them is less.

A target that is not declared stands nowhere in the catalog.  What is selected in front of
it still begins the sorted catalog, and so it begins the selection for any greater target.

**Results.**
* `walkedBefore_concat_isPrefix`: a selection for a declared target begins the arranged
  catalog.
* `walkedBefore_version_isPrefix`: in structural order, what is walked grows with the
  target.
* `select_cumulative`: which of two selections begins the other.
-/

namespace FeatureLadder

namespace Version

/-- In an ascending list the versions below a target come first. -/
theorem filter_lt_isPrefix
    (target : Version) :
    ∀ {versions : List Version}, versions.Pairwise (· ≤ ·) →
      versions.filter (· < target) <+: versions
  | [], _ => List.prefix_rfl
  | v :: rest, hasc => by
      obtain ⟨hhead, htail⟩ := List.pairwise_cons.mp hasc
      by_cases hv : v < target
      · rw [List.filter_cons_of_pos (by simpa using hv)]
        exact (List.prefix_cons_inj v).mpr (filter_lt_isPrefix target htail)
      · have hnone : (v :: rest).filter (· < target) = [] := by
          rw [List.filter_eq_nil_iff]
          intro w hw
          have hvw : v ≤ w := by
            rcases List.mem_cons.mp hw with rfl | hw
            · exact le_rfl
            · exact hhead w hw
          simpa using (not_lt.mp hv).trans hvw
        rw [hnone]
        exact List.nil_prefix

/-- A walk to the first occurrence of a target is as long as the place of that occurrence
says. -/
theorem length_takeWhile_ne
    (target : Version) :
    ∀ versions : List Version,
      (versions.takeWhile (· ≠ target)).length = versions.idxOf target
  | [] => rfl
  | v :: rest => by
      by_cases hv : v = target
      · subst hv
        simp
      · rw [List.takeWhile_cons_of_pos (by simpa using hv), List.length_cons,
          List.idxOf_cons_ne _ hv, length_takeWhile_ne target rest]

end Version

namespace Catalog

/-- In the given order of the catalog, `v` does not stand behind `w`. -/
def NotAfter
    (c : Catalog)
    (v w : Version) :
    CatalogOrder → Prop
  | .manifest => c.versions.idxOf v ≤ c.versions.idxOf w
  | .version => v ≤ w

/-- Of two beginnings of one list the shorter one begins the other. -/
theorem isPrefix_iff_length_le
    {s₁ s₂ versions : List Version}
    (h₁ : s₁ <+: versions)
    (h₂ : s₂ <+: versions) :
    s₁ <+: s₂ ↔ s₁.length ≤ s₂.length :=
  ⟨List.IsPrefix.length_le, List.prefix_of_prefix_length_le h₁ h₂⟩

/-- **A selection for a declared target begins the arranged catalog.** -/
theorem walkedBefore_concat_isPrefix
    (c : Catalog)
    (order : CatalogOrder)
    {target : Version}
    (hmem : target ∈ c.versions) :
    walkedBefore c.versions target order ++ [target] <+: (c.arranged order).versions := by
  obtain ⟨after, harranged⟩ := exists_arranged_eq_append c order hmem
  refine ⟨after, ?_⟩
  rw [harranged, List.append_assoc, List.singleton_append]

/-- **In structural order, what is walked grows with the target**, declared or not. -/
theorem walkedBefore_version_isPrefix
    (versions : List Version)
    {t₁ t₂ : Version}
    (hle : t₁ ≤ t₂) :
    walkedBefore versions t₁ .version <+: walkedBefore versions t₂ .version := by
  have hasc := Version.sort_ascending versions
  have hpre₁ := Version.filter_lt_isPrefix t₁ hasc
  have hpre₂ := Version.filter_lt_isPrefix t₂ hasc
  apply (isPrefix_iff_length_le hpre₁ hpre₂).mpr
  apply List.Sublist.length_le
  apply List.monotone_filter_right
  intro v hv
  have hlt : v < t₁ := by simpa using hv
  simpa using hlt.trans_le hle

/-- Which of two selections for declared targets begins the other is decided by where the
targets stand. -/
theorem walkedBefore_concat_isPrefix_iff
    (c : Catalog)
    (order : CatalogOrder)
    {t₁ t₂ : Version}
    (h₁ : t₁ ∈ c.versions)
    (h₂ : t₂ ∈ c.versions) :
    walkedBefore c.versions t₁ order ++ [t₁] <+: walkedBefore c.versions t₂ order ++ [t₂] ↔
      c.NotAfter t₁ t₂ order := by
  have hlength :=
    isPrefix_iff_length_le (walkedBefore_concat_isPrefix c order h₁)
      (walkedBefore_concat_isPrefix c order h₂)
  cases order with
  | manifest =>
      rw [hlength, List.length_append, List.length_append, List.length_singleton,
        List.length_singleton, Nat.add_le_add_iff_right]
      unfold walkedBefore NotAfter
      rw [Version.length_takeWhile_ne, Version.length_takeWhile_ne]
  | version =>
      constructor
      · intro hpre
        have hmem : t₁ ∈ walkedBefore c.versions t₂ .version ++ [t₂] :=
          hpre.subset (by simp)
        rcases List.mem_append.mp hmem with hmem | hmem
        · have hlt : t₁ < t₂ := by simpa using (List.mem_filter.mp hmem).2
          exact hlt.le
        · exact (List.mem_singleton.mp hmem).le
      · intro hle
        have hwalk := (walkedBefore_version_isPrefix c.versions hle).length_le
        rw [hlength, List.length_append, List.length_append, List.length_singleton,
          List.length_singleton]
        exact Nat.add_le_add_right hwalk 1

theorem notAfter_total
    (c : Catalog)
    (t₁ t₂ : Version)
    (order : CatalogOrder) :
    c.NotAfter t₁ t₂ order ∨ c.NotAfter t₂ t₁ order := by
  cases order with
  | manifest => exact Nat.le_total _ _
  | version => exact le_total _ _

/-- **Selections are cumulative.**  For two declared targets, one selection begins the
other: the first begins the second exactly if its target does not stand behind the other
one in the order of the catalog.  In structural order and for targets that need not be
declared, what is selected in front of a target begins the selection for every greater
one. -/
theorem select_cumulative
    (c : Catalog)
    (t₁ t₂ : Version) :
    (∀ (order : CatalogOrder) (membership₁ membership₂ : Membership),
      t₁ ∈ c.versions → t₂ ∈ c.versions →
        ∃ s₁ s₂,
          c.select t₁ ⟨membership₁, order⟩ = .ok s₁ ∧
          c.select t₂ ⟨membership₂, order⟩ = .ok s₂ ∧
          (s₁ <+: s₂ ∨ s₂ <+: s₁) ∧
          (s₁ <+: s₂ ↔ c.NotAfter t₁ t₂ order))
    ∧
    (t₁ ≤ t₂ →
      ∃ s₁ s₂,
        c.select t₁ ⟨.permissive, .version⟩ = .ok s₁ ∧
        c.select t₂ ⟨.permissive, .version⟩ = .ok s₂ ∧
        s₁.dropLast <+: s₂) := by
  constructor
  · intro order membership₁ membership₂ h₁ h₂
    refine
      ⟨_, _, (select_eq_ok_iff c t₁ _ _).mpr ⟨Or.inr h₁, rfl⟩,
        (select_eq_ok_iff c t₂ _ _).mpr ⟨Or.inr h₂, rfl⟩, ?_,
        walkedBefore_concat_isPrefix_iff c order h₁ h₂⟩
    exact (notAfter_total c t₁ t₂ order).imp
      (walkedBefore_concat_isPrefix_iff c order h₁ h₂).mpr
      (walkedBefore_concat_isPrefix_iff c order h₂ h₁).mpr
  · intro hle
    refine
      ⟨_, _, (select_eq_ok_iff c t₁ _ _).mpr ⟨Or.inl rfl, rfl⟩,
        (select_eq_ok_iff c t₂ _ _).mpr ⟨Or.inl rfl, rfl⟩, ?_⟩
    rw [List.dropLast_concat]
    exact (walkedBefore_version_isPrefix c.versions hle).trans (List.prefix_append _ _)

/-- The two orders of a catalog can disagree about which selection begins the other, and a
target between two declared ones, here another spelling, fits in by the structural order. -/
theorem select_cumulative_respelled :
    ∃ (c : Catalog) (t₁ t₂ between : Version) (s₁ s₂ r₁ r₂ u : List Version),
      c.names = ["v0-2", "v0-1", "v0-2", "v0-1"] ∧
      t₁.text = "v0-1" ∧ t₂.text = "v0-2" ∧ between.text = "v00-1" ∧
      c.select t₁ ⟨.strict, .version⟩ = .ok s₁ ∧
      c.select t₂ ⟨.strict, .version⟩ = .ok s₂ ∧ s₁ <+: s₂ ∧
      c.select t₁ ⟨.strict, .manifest⟩ = .ok r₁ ∧
      c.select t₂ ⟨.strict, .manifest⟩ = .ok r₂ ∧ ¬ r₁ <+: r₂ ∧ r₂ <+: r₁ ∧
      c.select between ⟨.permissive, .version⟩ = .ok u ∧ u.dropLast <+: s₂ := by
  let t₁ : Version := (Version.ofChars? ['v', '0', '-', '1']).get rfl
  let t₂ : Version := (Version.ofChars? ['v', '0', '-', '2']).get rfl
  let between : Version := (Version.ofChars? ['v', '0', '0', '-', '1']).get rfl
  let c : Catalog := ⟨[t₂, t₁, t₂, t₁]⟩
  have h₁ : t₁ ∈ c.versions := by decide
  have h₂ : t₂ ∈ c.versions := by decide
  obtain ⟨hdeclared, -⟩ := select_cumulative c t₁ t₂
  obtain ⟨s₁, s₂, hs₁, hs₂, -, hs⟩ := hdeclared .version .strict .strict h₁ h₂
  obtain ⟨r₁, r₂, hr₁, hr₂, hor, hr⟩ := hdeclared .manifest .strict .strict h₁ h₂
  obtain ⟨u, s₂', hu, hs₂', hpre⟩ := (select_cumulative c between t₂).2 (by decide)
  have hnot : ¬ r₁ <+: r₂ := by
    rw [hr]
    unfold NotAfter
    decide
  have hsame : s₂' = s₂ := by
    obtain ⟨-, rfl⟩ := (select_eq_ok_iff _ _ _ _).mp hs₂'
    obtain ⟨-, rfl⟩ := (select_eq_ok_iff _ _ _ _).mp hs₂
    rfl
  refine
    ⟨c, t₁, t₂, between, s₁, s₂, r₁, r₂, u, by decide, by decide, by decide, by decide,
      hs₁, hs₂, hs.mpr ?_, hr₁, hr₂, hnot, hor.resolve_left hnot, hu, hsame ▸ hpre⟩
  unfold NotAfter
  decide

end Catalog
end FeatureLadder
