import FeatureLadder.Proofs.VersionOrder
import Mathlib.Data.List.Perm.Basic

/-!
# Sorting gives a normal form

**Input**: a list of versions, in any arrangement and with repetitions.

The structural order is linear, and only a version itself ties with a version: spellings of
one number such as `v1-0` and `v01-0` are different versions, and their names decide which
comes first.  So a list has one ascending arrangement.

* What is sorted is this arrangement, and a list that has the same versions has the same one.
* A version is known by its name, so the versions of a catalog may be counted by names.

**Results.**
* `sort_eq_sort_iff`: lists are sorted alike exactly if they are rearrangements of each other.
* `sorting_canonical`: sorting keeps the versions, ascends, and depends on nothing but how
  often each name occurs.
-/

namespace FeatureLadder

namespace Version

/-- Lists are sorted alike exactly if they are rearrangements of each other. -/
theorem sort_eq_sort_iff
    (versions others : List Version) :
    sort versions = sort others ↔ versions.Perm others := by
  rw [sort_eq_iff]
  constructor
  · rintro ⟨hperm, -⟩
    exact hperm.symm.trans (sort_perm others)
  · intro hperm
    exact ⟨(sort_perm others).trans hperm.symm, sort_ascending others⟩

/-- Different versions have different names. -/
theorem text_injective :
    Function.Injective text :=
  fun _ _ h => text_inj.mp h

end Version

namespace Catalog

/-- The versions of two catalogs are rearrangements of each other exactly if each name
occurs as often in one as in the other. -/
theorem versions_perm_iff_count_names
    (c d : Catalog) :
    c.versions.Perm d.versions ↔
      ∀ name : String, c.names.count name = d.names.count name := by
  unfold names
  rw [← List.perm_iff_count, List.map_perm_map_iff Version.text_injective]

theorem sorted_eq_sorted_iff
    (c d : Catalog) :
    c.sorted = d.sorted ↔ c.versions.Perm d.versions := by
  rw [← Version.sort_eq_sort_iff]
  unfold sorted
  rw [mk.injEq]

/-- **Sorting is canonical.**

* The sorted list is a rearrangement of the list and ascends.
* Every rearrangement is sorted to the same list.
* A catalog is sorted like its versions, and a sorted catalog stays as it is.
* Two catalogs have the same sorted copy exactly if they hold the same names, each as often
  in one as in the other. -/
theorem sorting_canonical
    (versions : List Version)
    (c d : Catalog) :
    (Version.sort versions).Perm versions ∧
    (Version.sort versions).Pairwise (· ≤ ·) ∧
    (∀ others : List Version, others.Perm versions →
      Version.sort others = Version.sort versions) ∧
    c.sorted.versions = Version.sort c.versions ∧
    c.sorted.sorted = c.sorted ∧
    (c.sorted = d.sorted ↔
      ∀ name : String, c.names.count name = d.names.count name) := by
  refine ⟨Version.sort_perm versions, Version.sort_ascending versions, ?_, rfl, ?_, ?_⟩
  · intro others hperm
    exact (Version.sort_eq_sort_iff others versions).mpr hperm
  · rw [sorted_eq_sorted_iff]
    exact Version.sort_perm c.versions
  · rw [sorted_eq_sorted_iff, versions_perm_iff_count_names]

/-- Three spellings of one number and a repeated version, in two arrangements: both are
sorted to the same names. -/
theorem sorting_canonical_respelled :
    ∃ (versions others : List Version),
      versions.map Version.text = ["v1-0", "v001-0", "v0-10", "v1-0", "v01-0"] ∧
      others.map Version.text = ["v01-0", "v1-0", "v1-0", "v001-0", "v0-10"] ∧
      others.Perm versions ∧
      Version.sort others = Version.sort versions ∧
      (Version.sort versions).map Version.text =
        ["v0-10", "v001-0", "v01-0", "v1-0", "v1-0"] := by
  let plain : Version := (Version.ofChars? ['v', '1', '-', '0']).get rfl
  let padded : Version := (Version.ofChars? ['v', '0', '1', '-', '0']).get rfl
  let twice : Version := (Version.ofChars? ['v', '0', '0', '1', '-', '0']).get rfl
  let low : Version := (Version.ofChars? ['v', '0', '-', '1', '0']).get rfl
  have hperm : [padded, plain, plain, twice, low].Perm [plain, twice, low, plain, padded] := by
    decide
  have hsort : Version.sort [plain, twice, low, plain, padded] =
      [low, twice, padded, plain, plain] :=
    (Version.sort_eq_iff _ _).mpr ⟨by decide, by decide⟩
  obtain ⟨-, -, hall, -⟩ :=
    sorting_canonical [plain, twice, low, plain, padded] {} {}
  refine
    ⟨[plain, twice, low, plain, padded], [padded, plain, plain, twice, low],
      by decide, by decide, hperm, hall _ hperm, ?_⟩
  rw [hsort]
  decide

end Catalog
end FeatureLadder
