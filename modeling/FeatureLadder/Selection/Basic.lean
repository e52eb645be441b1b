import FeatureLadder.Catalog
import FeatureLadder.Log.Noted
import FeatureLadder.Selection.Cumulation

/-!
# Which versions are enabled for a target

**Input**: a catalog, a target, whether the target has to be declared, and the order
in which the catalog is walked.

**Algorithm**: in declaration order the whole catalog is walked; in structural order
only the versions not above the target are, in ascending order.  The walk is
cumulative: it ends at the target.

`selecting` gives the versions with what is noted on the way; `select` is its result.

**Results**: `select_strict` and `select_permissive` say when the selection is
refused, and that the answer depends on the membership rule in no other way.
-/

namespace FeatureLadder

/-- Whether a target has to be declared. -/
inductive Membership where
  /-- a target that is not declared is refused -/
  | strict
  /-- a target that is not declared is added to the versions before it -/
  | permissive
  deriving DecidableEq

/-- How the versions for a target are selected. -/
structure SelectionRule where
  membership : Membership := .strict
  order : CatalogOrder := .manifest
  deriving DecidableEq

/-- The parts of a version, by name. -/
def Version.parts (v : Version) : String :=
  let part (name : String) (value : List Char) : String :=
    name ++ ": " ++ String.ofList (Text.quoted value)
  "FeatureVersion \x7b " ++ ", ".intercalate [part "raw" v.chars, part "major" v.major,
    part "minor" v.minor, part "suffix" v.suffix] ++ " \x7d"

/-- The parts of a selection rule, by name. -/
def SelectionRule.parts (r : SelectionRule) : String :=
  let membership :=
    match r.membership with
    | .strict => "Strict"
    | .permissive => "Permissive"
  let order :=
    match r.order with
    | .manifest => "Manifest"
    | .version => "Version"
  "ResolveOptions \x7b policy: " ++ membership ++ ", order: " ++ order ++ " \x7d"

namespace Catalog

open Log (Entry Noted Span)

/-- The versions that are walked on the way to a target. -/
def candidates (c : Catalog) (target : Version) : CatalogOrder → List Version
  | .manifest => c.versions
  | .version => c.sorted.versions.filter fun v => v ≤ target

/-- The versions that are enabled for a target, however it is declared. -/
def enabled (c : Catalog) (target : Version) (order : CatalogOrder) : List Version :=
  (Cumulation.start (c.candidates target order) target).collect

/-- Refuses a target that is not declared but has to be. -/
def admitting (c : Catalog) (target : Version) (membership : Membership) : Noted Unit :=
  if c.contains target then pure ()
  else
    match membership with
    | .strict => do
      .note {
        level := .debug
        source := "vtest_core::resolve"
        message := "Target not declared in manifest"
        fields := [⟨"covered", .bool (c.covers target)⟩] }
      .ofExcept (.error (.undeclared target.text c.listing))
    | .permissive =>
      .note {
        level := .warn
        source := "vtest_core::resolve"
        message := target.text ++ " is not declared in the manifest; " ++
          "enabling all declared versions plus the target"
        fields := [⟨"covered", .bool (c.covers target)⟩] }

def selectSpan (c : Catalog) (target : Version) (rule : SelectionRule) : Span where
  name := "resolve_features"
  source := "vtest_core::resolve"
  fields := [⟨"target", .shown target.parts⟩, ⟨"options", .shown rule.parts⟩,
    ⟨"available", .number c.versions.length⟩]

/-- Finds the versions that are enabled for a target, or refuses it. -/
def selecting (c : Catalog) (target : Version) (rule : SelectionRule) : Noted (List Version) :=
  .within (c.selectSpan target rule) do
    c.admitting target rule.membership
    let features := c.enabled target rule.order
    .note {
      level := .debug
      source := "vtest_core::resolve"
      message := "Resolved " ++ toString features.length ++ " features for " ++ target.text }
    return features

/-- The versions that are enabled for a target, or the reason why it is refused. -/
def select (c : Catalog) (target : Version) (rule : SelectionRule) :
    Except Error (List Version) :=
  (c.selecting target rule).result

theorem select_eq (c : Catalog) (target : Version) (rule : SelectionRule) :
    c.select target rule =
      if c.contains target then .ok (c.enabled target rule.order)
      else
        match rule.membership with
        | .strict => .error (.undeclared target.text c.listing)
        | .permissive => .ok (c.enabled target rule.order) := by
  unfold select selecting admitting
  split
  · rfl
  · cases rule.membership <;> rfl

theorem select_permissive (c : Catalog) (target : Version) (order : CatalogOrder) :
    c.select target ⟨.permissive, order⟩ = .ok (c.enabled target order) := by
  simp [select_eq]

theorem select_strict (c : Catalog) (target : Version) (order : CatalogOrder) :
    c.select target ⟨.strict, order⟩ =
      if target ∈ c.versions then .ok (c.enabled target order)
      else .error (.undeclared target.text c.listing) := by
  simp [select_eq]

end Catalog
end FeatureLadder
