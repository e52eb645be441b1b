import FeatureLadder.Program.Basic
import FeatureLadder.Proofs.JsonWriting
import FeatureLadder.Proofs.VersionOrder

/-!
# What the printed documents say

**Input**: the arguments of a run with JSON output, and the course that it takes.

The members of a document are named here as values of the grammar: `Plan.members` for
what a summary says of its plan, `Completion.members` for a result, and
`Course.document?` for the whole document, which only some courses have.  Captured output
is a member of a result if there was any, so that no output and empty output differ.

**Results.**
* `read?_report`: what is printed reads as the document of the course, and as nothing if
  the course has none.
* `Completion.members_injective`: a result is known from its members.
* `json_output_lossless`: both together, with the documents on one line.
-/

namespace FeatureLadder

/-- What a document says of versions: their names, in order. -/
def Datum.ofVersions (versions : List Version) : Datum :=
  .list (versions.map fun v => .text v.text)

/-- Versions are known from what a document says of them. -/
theorem Datum.ofVersions_inj
    {versions versions' : List Version} :
    Datum.ofVersions versions = Datum.ofVersions versions' ↔ versions = versions' := by
  rw [ofVersions, ofVersions, Datum.list.injEq]
  apply List.map_inj_right
  intro v w h
  exact Version.text_inj.mp (Datum.text.inj h)

/-- What a document says of a plan. -/
def Plan.members (plan : Plan) : List (String × Datum) :=
  [("target", .text plan.target.text),
    ("features", Datum.ofVersions plan.features),
    ("command", .text plan.command.line)]

/-- The printed part of a plan is known from its members. -/
theorem Plan.members_eq_iff
    (plan plan' : Plan) :
    plan.members = plan'.members ↔
      plan.target = plan'.target ∧ plan.features = plan'.features ∧
        plan.command.line = plan'.command.line := by
  simp [members, Version.text_inj, Datum.ofVersions_inj]

namespace Completion

def members (c : Completion) : List (String × Datum) :=
  [("code", .number c.code 0), ("success", .bool c.success)] ++
    (c.output.map fun text => ("output", Datum.text text)).toList

theorem datum_toJson
    (c : Completion) :
    c.toJson.datum = .object c.members := by
  obtain ⟨code, success, output, hsuccess⟩ := c
  cases output <;> simp [toJson, members, Json.datum]

/-- **A result is known from its members.** -/
theorem members_injective :
    Function.Injective members := by
  rintro ⟨code, success, output, hsuccess⟩ ⟨code', success', output', hsuccess'⟩ h
  cases output <;> cases output' <;> simp_all [members]

/-- The output is a member if and only if there was any. -/
theorem output_mem_members_iff
    (c : Completion)
    (value : Datum) :
    ("output", value) ∈ c.members ↔ ∃ text, c.output = some text ∧ value = .text text := by
  obtain ⟨code, success, output, hsuccess⟩ := c
  cases output <;> simp [members]

end Completion

theorem Catalog.datum_toJson
    (c : Catalog) :
    c.toJson.datum = Datum.ofVersions c.versions := by
  simp [toJson, Datum.ofVersions, names, Json.datum, Function.comp_def]

namespace Program

/-- What a summary says; a run that was only tried has no result. -/
theorem datum_summary
    (plan : Plan)
    (dryRun : Bool)
    (result : Option Completion) :
    (summary plan dryRun result).datum =
      .object (plan.members ++ ("dryRun", .bool dryRun) ::
        (result.map fun completion => ("result", Datum.object completion.members)).toList) := by
  cases result <;>
    simp [summary, Plan.members, Datum.ofVersions, Json.datum, Completion.datum_toJson,
      Function.comp_def]

/-- The document that a course prints with JSON output, if it prints one. -/
def Course.document? (a : Arguments) : Course → Option Datum
  | .listed (.ok catalog) =>
      some (.object [
        ("manifestPath", .text a.manifestPath),
        ("versions", Datum.ofVersions (catalog.arranged a.order).versions)])
  | .tried plan => some (.object (plan.members ++ [("dryRun", .bool true)]))
  | .ran plan execution =>
      match execution.answer with
      | .ok completion =>
          some (.object (plan.members ++
            [("dryRun", .bool false), ("result", .object completion.members)]))
      | .error _ => none
  | _ => none

/-- **What is printed reads as the document of the course**, and as nothing if the course
has none. -/
theorem read?_report
    {a : Arguments}
    (hjson : a.output = .json)
    (course : Course) :
    Datum.read? (course.report a) = course.document? a := by
  have hnothing : Datum.read? "" = none := by decide
  cases course with
  | listed catalog =>
      cases catalog with
      | ok catalog =>
          simp [Course.report, Course.document?, listing, hjson, Json.read?_toPretty, Json.datum,
            Catalog.datum_toJson]
      | error e => exact hnothing
  | idle => exact hnothing
  | unplanned e => exact hnothing
  | tried plan =>
      simp [Course.report, Course.document?, trial, hjson, Json.read?_toPretty, datum_summary]
  | ran plan execution =>
      rw [Course.report, Course.document?]
      cases execution.answer with
      | ok completion =>
          simp [outcome, hjson, Json.read?_toPretty, datum_summary]
      | error e => exact hnothing

/-- **JSON output loses nothing.**

* The reader takes a text if and only if it is well formed, and reads what it says.
* What a run or a listing prints reads as the document of its course.
* A catalog and a result on one line read as their names and as their members.
* The parts of these documents give back the target, the enabled versions and the
  command line of a plan, the versions of a catalog, and a result; the output is a member
  of a result if and only if it was captured. -/
theorem json_output_lossless
    (a : Arguments)
    (hjson : a.output = .json) :
    (∀ text d, Datum.read? text = some d ↔ Datum.WrittenAs d text.toList) ∧
    (∀ course : Course, Datum.read? (course.report a) = course.document? a) ∧
    (∀ c : Catalog, Datum.read? c.toJson.toCompact = some (Datum.ofVersions c.versions)) ∧
    (∀ c : Completion, Datum.read? c.toJson.toCompact = some (.object c.members)) ∧
    (∀ plan plan' : Plan,
      plan.members = plan'.members ↔
        plan.target = plan'.target ∧ plan.features = plan'.features ∧
          plan.command.line = plan'.command.line) ∧
    (∀ versions versions',
      Datum.ofVersions versions = Datum.ofVersions versions' ↔ versions = versions') ∧
    (∀ c c' : Completion, c.members = c'.members ↔ c = c') ∧
    ∀ (c : Completion) (value : Datum),
      ("output", value) ∈ c.members ↔ ∃ text, c.output = some text ∧ value = .text text := by
  refine
    ⟨fun _ _ => Datum.read?_eq_some_iff, read?_report hjson, ?_, ?_, Plan.members_eq_iff,
      fun _ _ => Datum.ofVersions_inj, fun _ _ => Completion.members_injective.eq_iff,
      Completion.output_mem_members_iff⟩
  · intro c
    rw [Json.read?_toCompact, Catalog.datum_toJson]
  · intro c
    rw [Json.read?_toCompact, Completion.datum_toJson]

/-- Quotes, backslashes, line feeds and U+0000 come back, and empty output is not the
same as no output. -/
theorem json_output_lossless_hostile :
    ∃ (a : Arguments) (plan : Plan),
      a.output = .json ∧ a.manifestPath = "\"\\\x00\n" ∧ plan.command.tool = "\x1b\"" ∧
      Datum.read? ((Course.listed (.ok {})).report a) =
        some (.object [("manifestPath", .text "\"\\\x00\n"), ("versions", .list [])]) ∧
      Datum.read? ((Course.ran plan { answer := .ok (.fromCode (-1) (some "")) }).report a) =
        some (.object (plan.members ++ [("dryRun", .bool false), ("result", .object
          [("code", .number (-1) 0), ("success", .bool false), ("output", .text "")])])) ∧
      Datum.read? ((Course.ran plan { answer := .ok (.fromCode (-1)) }).report a) =
        some (.object (plan.members ++ [("dryRun", .bool false), ("result", .object
          [("code", .number (-1) 0), ("success", .bool false)])])) := by
  let a : Arguments := { manifestPath := "\"\\\x00\n", output := .json }
  let v : Version := (Version.ofChars? ['v', '0', '-', '1']).get rfl
  let plan : Plan :=
    { target := v, available := {}, features := [v], command := .ofVersions "\x1b\"" [v] }
  obtain ⟨-, hreport, -⟩ := json_output_lossless a rfl
  exact ⟨a, plan, rfl, rfl, rfl, hreport _, hreport _, hreport _⟩

end Program
end FeatureLadder
