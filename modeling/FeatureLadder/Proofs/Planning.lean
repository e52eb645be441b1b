import FeatureLadder.Plan
import FeatureLadder.Proofs.Scanning
import FeatureLadder.Proofs.Selection

/-!
# How a plan is made

A plan is made in three steps: the target is read, the manifest is read, and the versions
for the target are selected.  Each step is described by the input it looks at, so that a
plan can be discussed case by case:

* a target that is no version name is refused before the manifest is looked at;
* a manifest that cannot be read is refused, and one that can be read never is, because
  scanning does not fail;
* with both at hand, the selection alone decides.

**Results.**
* `make_of_not_isName`, `make_of_unread`, `make_of_undeclared`, `make_of_admitted`: the
  cases, and the plan in the last of them.
* `make_eq_ok_iff`: when there is a plan.
* `command_of_make`: what the command of a plan enables, and where it runs.
-/

namespace FeatureLadder

namespace Version

/-- A text is a version name if it is the name of some version. -/
theorem isName_iff_exists_text
    (name : String) :
    isName name.toList = true ↔ ∃ v : Version, name = v.text := by
  unfold isName
  rw [Option.isSome_iff_exists]
  constructor
  · rintro ⟨v, hv⟩
    refine ⟨v, ?_⟩
    rw [text, chars_of_ofChars? hv, String.ofList_toList]
  · rintro ⟨v, rfl⟩
    exact ⟨v, by rw [text_toList, ofChars?_chars]⟩

@[simp] theorem isName_chars
    (v : Version) :
    isName v.chars = true := by
  rw [isName, ofChars?_chars, Option.isSome_some]

@[simp] theorem read_text
    (v : Version) :
    read v.text = .ok v := by
  rw [read, text_toList, readChars_chars]

theorem read_of_not_isName
    {name : String}
    (h : isName name.toList = false) :
    read name = .error (.invalidVersion name) := by
  have hnone : ofChars? name.toList = none := by
    simpa [isName] using h
  rw [read, readChars, hnone]
  simp

end Version

namespace Manifest

/-- The versions that a text declares. -/
def declaredIn (text : String) : Catalog :=
  ⟨(sectionVersions text.toList).map Version.cut⟩

/-- A manifest that can be read is understood. -/
theorem load_ok
    (path text : String) :
    load path (.ok text) = .ok (declaredIn text) := by
  rw [load_ok_eq, scan_eq_ok]
  rfl

end Manifest

namespace Catalog

/-- A version is declared exactly if its name is among the declared names. -/
theorem text_mem_names_iff
    (c : Catalog)
    (v : Version) :
    v.text ∈ c.names ↔ v ∈ c.versions := by
  constructor
  · intro h
    obtain ⟨w, hw, htext⟩ := List.mem_map.mp h
    rwa [← Version.text_inj.mp htext]
  · exact List.mem_map_of_mem

end Catalog

namespace Plan

variable (file : String → Except Failure String)
variable (o : Options)

/-- The plan for a target, given the text of the manifest. -/
def forTarget (target : Version) (text : String) : Plan :=
  ofFeatures target (Manifest.declaredIn text)
    (Catalog.walkedBefore (Manifest.declaredIn text).versions target o.rule.order ++ [target]) o

/-- A target that is no version name is refused, whatever the manifest holds, and nothing is
noted about it. -/
theorem making_of_not_isName
    {target : String}
    (h : Version.isName target.toList = false) :
    making file target o = .ofExcept (.error (.invalidVersion target)) := by
  rw [making, Version.read_of_not_isName h]
  rfl

theorem make_of_not_isName
    {target : String}
    (h : Version.isName target.toList = false) :
    make file target o = .error (.invalidVersion target) := by
  rw [make, making_of_not_isName file o h]
  rfl

/-- A manifest that cannot be read is refused, whatever version the target is. -/
theorem make_of_unread
    (v : Version)
    {cause : Failure}
    (h : file o.manifestPath = .error cause) :
    make file v.text o = .error (Error.ofRead o.manifestPath cause) := by
  rw [make_eq, Version.read_text, h, Manifest.load_error_eq]
  rfl

/-- With the target and the manifest at hand, the selection decides. -/
theorem make_of_read
    (v : Version)
    {text : String}
    (h : file o.manifestPath = .ok text) :
    make file v.text o =
      (((Manifest.declaredIn text).select v o.rule).map fun features =>
        ofFeatures v (Manifest.declaredIn text) features o) := by
  rw [make_eq, Version.read_text, h, Manifest.load_ok]
  change ((Manifest.declaredIn text).select v o.rule >>= fun features => _) = _
  cases (Manifest.declaredIn text).select v o.rule <;> rfl

theorem make_of_undeclared
    (v : Version)
    {text : String}
    (h : file o.manifestPath = .ok text)
    (hstrict : o.rule.membership = .strict)
    (hmem : v ∉ (Manifest.declaredIn text).versions) :
    make file v.text o =
      .error (.undeclared v.text (Manifest.declaredIn text).listing) := by
  have hselect :=
    (Catalog.select_eq_error_iff (Manifest.declaredIn text) v o.rule _).mpr
      ⟨hstrict, hmem, rfl⟩
  rw [make_of_read file o v h, hselect]
  rfl

theorem make_of_admitted
    (v : Version)
    {text : String}
    (h : file o.manifestPath = .ok text)
    (hmem : o.rule.membership = .permissive ∨ v ∈ (Manifest.declaredIn text).versions) :
    make file v.text o = .ok (forTarget o v text) := by
  have hselect :=
    (Catalog.select_eq_ok_iff (Manifest.declaredIn text) v o.rule _).mpr ⟨hmem, rfl⟩
  rw [make_of_read file o v h, hselect]
  rfl

/-- **When there is a plan**: the target is a version, the manifest was read, and the
target is declared in it or need not be. -/
theorem make_eq_ok_iff
    (target : String)
    (plan : Plan) :
    make file target o = .ok plan ↔
      ∃ (v : Version) (text : String),
        target = v.text ∧
        file o.manifestPath = .ok text ∧
        (o.rule.membership = .permissive ∨ v ∈ (Manifest.declaredIn text).versions) ∧
        plan = forTarget o v text := by
  constructor
  · intro hmake
    cases hname : Version.isName target.toList with
    | false =>
        rw [make_of_not_isName file o hname] at hmake
        cases hmake
    | true =>
        obtain ⟨v, rfl⟩ := (Version.isName_iff_exists_text target).mp hname
        cases hfile : file o.manifestPath with
        | error cause =>
            rw [make_of_unread file o v hfile] at hmake
            cases hmake
        | ok text =>
            by_cases hmem :
                o.rule.membership = .permissive ∨ v ∈ (Manifest.declaredIn text).versions
            · rw [make_of_admitted file o v hfile hmem] at hmake
              cases hmake
              exact ⟨v, text, rfl, rfl, hmem, rfl⟩
            · obtain ⟨hpermissive, hdeclared⟩ := not_or.mp hmem
              have hstrict : o.rule.membership = .strict := by
                cases hm : o.rule.membership with
                | strict => rfl
                | permissive => exact absurd hm hpermissive
              rw [make_of_undeclared file o v hfile hstrict hdeclared] at hmake
              cases hmake
  · rintro ⟨v, text, rfl, hfile, hmem, rfl⟩
    exact make_of_admitted file o v hfile hmem

/-- **The command of a plan** calls the tool of the options with the names of the planned
versions, in the directory of the manifest. -/
theorem command_of_make
    {target : String}
    {plan : Plan}
    (hmake : make file target o = .ok plan) :
    plan.command =
      { tool := o.tool
        features := plan.features.map Version.text
        workingDir := o.workingDir } := by
  obtain ⟨v, text, -, -, -, rfl⟩ := (make_eq_ok_iff file o target plan).mp hmake
  rfl

end Plan
end FeatureLadder
