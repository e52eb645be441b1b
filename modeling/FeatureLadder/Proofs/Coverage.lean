import FeatureLadder.Proofs.Selection
import Mathlib.Data.List.Perm.Subperm
import Mathlib.Order.MinMax

/-!
# Coverage is the range of a catalog

**Input**: a catalog, its versions in any order and with repetitions, and a target.

Whether a target is covered is found out from the least and the greatest declared version,
after a look whether the target is declared itself.  A selection for the target in
structural order takes another way: it sorts, drops what is above the target and walks up to
it.  Both depend on nothing but which declared versions are below the target and which are
not.

**Results.**
* `covers_iff`: a target is covered exactly if it lies between two declared versions.
* `erase_enabled_perm`: what a selection in structural order enables besides the target.
* `covers_iff_range`: coverage is the range of the catalog, and for a target that is not
  declared it says whether a selection enables some of the declared versions but not all.
-/

namespace FeatureLadder

namespace Version

instance : Std.LawfulOrderMax Version where
  max_eq_or v w := max_choice v w
  max_le_iff _ _ _ := max_le_iff

/-- A list that is not empty has a least and a greatest version. -/
theorem exists_min?_max?
    {versions : List Version}
    (hne : versions ≠ []) :
    ∃ least greatest,
      (versions.min? = some least ∧ least ∈ versions ∧ ∀ v ∈ versions, least ≤ v) ∧
      (versions.max? = some greatest ∧ greatest ∈ versions ∧ ∀ v ∈ versions, v ≤ greatest) := by
  obtain ⟨least, hleast⟩ := Option.isSome_iff_exists.mp (List.isSome_min?_of_ne_nil hne)
  obtain ⟨greatest, hgreatest⟩ := Option.isSome_iff_exists.mp (List.isSome_max?_of_ne_nil hne)
  exact
    ⟨least, greatest, ⟨hleast, List.min?_eq_some_iff.mp hleast⟩,
      ⟨hgreatest, List.max?_eq_some_iff.mp hgreatest⟩⟩

end Version

namespace Catalog

/-- **A target is covered exactly if it lies between two declared versions.** -/
theorem covers_iff
    (c : Catalog)
    (target : Version) :
    c.covers target = true ↔
      ∃ low ∈ c.versions, ∃ high ∈ c.versions, low ≤ target ∧ target ≤ high := by
  by_cases hempty : c.versions = []
  · simp [covers, contains, hempty]
  · obtain ⟨least, greatest, ⟨hmin, hleast, hbelow⟩, hmax, hgreatest, habove⟩ :=
      Version.exists_min?_max? hempty
    have hcovers : c.covers target = true ↔
        target ∈ c.versions ∨ least ≤ target ∧ target ≤ greatest := by
      simp [covers, hmin, hmax]
    rw [hcovers]
    constructor
    · rintro (hmem | ⟨hlow, hhigh⟩)
      · exact ⟨target, hmem, target, hmem, le_rfl, le_rfl⟩
      · exact ⟨least, hleast, greatest, hgreatest, hlow, hhigh⟩
    · rintro ⟨low, hlow, high, hhigh, hle, hge⟩
      exact Or.inr ⟨(hbelow low hlow).trans hle, hge.trans (habove high hhigh)⟩

/-- Besides the target, a selection in structural order enables the declared versions below
it, each as often as it is declared. -/
theorem erase_enabled_perm
    (c : Catalog)
    (target : Version) :
    ((c.enabled target .version).erase target).Perm (c.versions.filter (· < target)) := by
  have hnot := not_mem_walkedBefore c.versions target .version
  have herase :
      (c.enabled target .version).erase target = walkedBefore c.versions target .version := by
    rw [enabled_eq, List.erase_append_right _ hnot]
    simp
  obtain ⟨hperm, -⟩ := (leadsTo_iff c.versions target .version _).mpr herase
  exact hperm

/-- A target that is not declared lies in the range exactly if something is below it and
something is not. -/
theorem covers_iff_of_not_mem
    {c : Catalog}
    {target : Version}
    (hmem : target ∉ c.versions) :
    c.covers target = true ↔
      (∃ v ∈ c.versions, v < target) ∧ ∃ v ∈ c.versions, ¬ v < target := by
  have hne : ∀ v ∈ c.versions, v ≠ target := fun v hv => ne_of_mem_of_not_mem hv hmem
  rw [covers_iff]
  constructor
  · rintro ⟨low, hlow, high, hhigh, hle, hge⟩
    exact ⟨⟨low, hlow, lt_of_le_of_ne hle (hne low hlow)⟩, high, hhigh, not_lt.mpr hge⟩
  · rintro ⟨⟨low, hlow, hlt⟩, high, hhigh, hnlt⟩
    exact ⟨low, hlow, high, hhigh, hlt.le, not_lt.mp hnlt⟩

/-- **Coverage is the range of the catalog.**  A target is covered if and only if two
declared versions enclose it, one or both of which it may be itself.  If it is not declared
and need not be, a selection in structural order enables it together with part of the
declared versions, repetitions counted; it is covered if and only if this part is neither
empty nor everything. -/
theorem covers_iff_range
    (c : Catalog)
    (target : Version) :
    (c.covers target = true ↔
      ∃ low ∈ c.versions, ∃ high ∈ c.versions, low ≤ target ∧ target ≤ high) ∧
    (target ∉ c.versions →
      ∃ selected,
        c.select target ⟨.permissive, .version⟩ = .ok selected ∧
        (selected.erase target).Subperm c.versions ∧
        (c.covers target = true ↔
          0 < (selected.erase target).length ∧
          (selected.erase target).length < c.versions.length)) := by
  refine ⟨covers_iff c target, ?_⟩
  intro hmem
  have hperm := erase_enabled_perm c target
  refine ⟨_, select_permissive c target .version, ?_, ?_⟩
  · exact hperm.subperm.trans List.filter_sublist.subperm
  · rw [covers_iff_of_not_mem hmem, hperm.length_eq, List.length_filter_pos_iff,
      List.length_filter_lt_length_iff_exists]
    simp only [decide_eq_true_eq]

/-- A catalog out of order, with a repeated version and two spellings of one number: a
target between the spellings is covered, one above everything is not. -/
theorem covers_iff_range_between_spellings :
    ∃ (c : Catalog) (between top : Version) (selected all : List Version),
      c.names = ["v1-0", "v001-0", "v001-0"] ∧ between.text = "v01-0" ∧ top.text = "v1-0a" ∧
      c.select between ⟨.permissive, .version⟩ = .ok selected ∧
      c.covers between = true ∧
      0 < (selected.erase between).length ∧ (selected.erase between).length < 3 ∧
      c.select top ⟨.permissive, .version⟩ = .ok all ∧
      c.covers top = false ∧ (all.erase top).length = 3 := by
  let plain : Version := (Version.ofChars? ['v', '1', '-', '0']).get rfl
  let twice : Version := (Version.ofChars? ['v', '0', '0', '1', '-', '0']).get rfl
  let between : Version := (Version.ofChars? ['v', '0', '1', '-', '0']).get rfl
  let top : Version := (Version.ofChars? ['v', '1', '-', '0', 'a']).get rfl
  let c : Catalog := ⟨[plain, twice, twice]⟩
  obtain ⟨hrange, hselect⟩ := covers_iff_range c between
  obtain ⟨hrange', hselect'⟩ := covers_iff_range c top
  obtain ⟨selected, hok, -, hpart⟩ := hselect (by decide)
  obtain ⟨all, hok', -, -⟩ := hselect' (by decide)
  have hcovers : c.covers between = true := hrange.mpr (by decide)
  have hnot : ¬ c.covers top = true := mt hrange'.mp (by decide)
  have hall : all = c.enabled top .version := by
    rw [select_permissive] at hok'
    exact (Except.ok.inj hok').symm
  refine
    ⟨c, between, top, selected, all, by decide, by decide, by decide, hok, hcovers,
      (hpart.mp hcovers).1, (hpart.mp hcovers).2, hok', by simpa using hnot, ?_⟩
  rw [hall, (erase_enabled_perm c top).length_eq]
  decide

end Catalog
end FeatureLadder
