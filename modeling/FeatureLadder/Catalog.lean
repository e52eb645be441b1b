import FeatureLadder.Json.Value
import FeatureLadder.Version.Order

/-!
# Catalogs of versions

A catalog holds the versions that a manifest declares, in the order of their
declaration.  A version may stand in it more than once.
-/

namespace FeatureLadder

/-- The declared versions, in declaration order. -/
structure Catalog where
  versions : List Version := []
  deriving DecidableEq

/-- The order in which a catalog is walked. -/
inductive CatalogOrder where
  /-- the order of declaration -/
  | manifest
  /-- the structural order of versions -/
  | version
  deriving DecidableEq

namespace Catalog

/-- The names of the declared versions. -/
def names (c : Catalog) : List String :=
  c.versions.map Version.text

def contains (c : Catalog) (v : Version) : Bool :=
  c.versions.contains v

/-- The same versions in structural order. -/
def sorted (c : Catalog) : Catalog :=
  ⟨Version.sort c.versions⟩

/-- The same versions in the given order. -/
def arranged (c : Catalog) : CatalogOrder → Catalog
  | .manifest => c
  | .version => c.sorted

/-- Whether a version is declared or lies between the least and the greatest declared
version. -/
def covers (c : Catalog) (v : Version) : Bool :=
  c.contains v ||
    match c.versions.min?, c.versions.max? with
    | some least, some greatest => least ≤ v && v ≤ greatest
    | _, _ => false

/-- The names on one line, for a message. -/
def listing (c : Catalog) : String :=
  if c.versions.isEmpty then "none" else ", ".intercalate c.names

/-- The names as a JSON list. -/
def toJson (c : Catalog) : Json :=
  .list (c.names.map Json.text)

@[simp] theorem contains_iff {c : Catalog} {v : Version} :
    c.contains v = true ↔ v ∈ c.versions := by
  simp [contains]

end Catalog
end FeatureLadder
