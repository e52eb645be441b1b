import FeatureLadder.Executor.Scripted
import FeatureLadder.Proofs.Courses
import FeatureLadder.Proofs.Pieces

/-!
# A listing and a plan agree

The program can list the versions of a manifest and it can plan the tests for one of
them.  The two take different ways: a listing arranges the whole catalog, while a plan
walks it, in structural order after all versions above the target were dropped.  They
meet in the arranged catalog.

* Each line of the listing is the name of a declared version, because no scanned name
  holds a line feed.
* In either order, the versions walked before a declared target are those that stand
  before it in the arranged catalog.

**Results.**
* `printedLines_listing`: the lines of a listing are the names of the arranged catalog.
* `plans_iff_listed`: exactly the listed lines can be planned for, and a plan enables the
  lines up to its own.
-/

namespace FeatureLadder

namespace Program

/-- The lines of a printed text: what stands in front of each line feed. -/
def printedLines (s : String) : List String :=
  (Text.pieces '\n' s.toList).dropLast.map String.ofList

/-- Names that are printed line by line are found again as lines. -/
theorem printedLines_join
    {names : List String}
    (h : ∀ name ∈ names, '\n' ∉ name.toList) :
    printedLines (String.join (names.map (· ++ "\n"))) = names := by
  have hsep : ∀ p ∈ names.map String.toList, '\n' ∉ p := by
    intro p hp
    obtain ⟨name, hname, rfl⟩ := List.mem_map.mp hp
    exact h name hname
  rw [printedLines, Text.toList_join_lines, Text.dropLast_pieces_terminated '\n' hsep,
    List.map_map]
  simp

section Listing

variable {σ : Type}
variable (host : Host σ)
variable (a : Arguments)
variable (s : σ)

/-- What a listing prints as text: the names of the arranged catalog, line by line. -/
theorem printed_listing
    (hlist : a.list = true)
    (hform : a.output = .text)
    {text : String}
    (hread : host.file a.manifestPath = .ok text) :
    (perform host a s).1.printed a =
      String.join
        (((Manifest.declaredIn text).arranged a.order).names.map (· ++ "\n")) := by
  rw [perform, proceed_of_list host a s hlist, hread, Manifest.load_ok]
  simp [Course.printed, Course.report, Course.diagnostic, Course.failure?, listing, hform]

/-- **The lines of a listing are the names of the arranged catalog.** -/
theorem printedLines_listing
    (hlist : a.list = true)
    (hform : a.output = .text)
    {text : String}
    (hread : host.file a.manifestPath = .ok text) :
    printedLines ((perform host a s).1.printed a) =
      ((Manifest.declaredIn text).arranged a.order).names := by
  rw [printed_listing host a s hlist hform hread]
  apply printedLines_join
  intro name hname
  obtain ⟨v, hv, rfl⟩ := List.mem_map.mp hname
  rw [Version.text_toList]
  exact Manifest.lf_not_mem_scanned (Manifest.scan_eq_ok text.toList) v
    ((Catalog.mem_arranged_iff _ _ v).mp hv)

/-- The output of a listing is its lines and nothing else. -/
theorem stdout_listing
    (hlist : a.list = true)
    (hform : a.output = .text)
    {text : String}
    (hread : host.file a.manifestPath = .ok text) :
    (perform host a s).1.stdout a =
      Utf8.encode
        (String.join
          ((printedLines ((perform host a s).1.printed a)).map (· ++ "\n"))).toList := by
  have hnothing : (perform host a s).1.inherited = [] := by
    rw [perform, proceed_of_list host a s hlist]
    rfl
  rw [printedLines_listing host a s hlist hform hread, Course.stdout, hnothing,
    printed_listing host a s hlist hform hread, List.nil_append]

end Listing

/-- **A listing and a plan agree.**  A listing prints its lines and nothing else.  Under
the strict rule and in the order of the listing, there is a plan for a target if and only
if the target is one of the listed lines, and the plan enables the listed lines up to and
including the first that equals the target. -/
theorem plans_iff_listed
    {σ : Type}
    (host : Host σ)
    (a : Arguments)
    (s : σ)
    (o : Options)
    (text target : String)
    (hlist : a.list = true)
    (hform : a.output = .text)
    (hread : host.file a.manifestPath = .ok text)
    (hsame : host.file o.manifestPath = .ok text)
    (hrule : o.rule = { membership := .strict, order := a.order }) :
    ((perform host a s).1.stdout a =
      Utf8.encode
        (String.join
          ((printedLines ((perform host a s).1.printed a)).map (· ++ "\n"))).toList)
    ∧
    ((∃ plan, Plan.make host.file target o = .ok plan) ↔
      target ∈ printedLines ((perform host a s).1.printed a))
    ∧
    (∀ plan, Plan.make host.file target o = .ok plan →
      ∃ before after,
        printedLines ((perform host a s).1.printed a) = before ++ target :: after ∧
        target ∉ before ∧
        plan.features.map Version.text = before ++ [target]) := by
  refine ⟨stdout_listing host a s hlist hform hread, ?_⟩
  rw [printedLines_listing host a s hlist hform hread]
  have hmake : ∀ plan, Plan.make host.file target o = .ok plan ↔
      ∃ v ∈ (Manifest.declaredIn text).versions,
        target = v.text ∧ plan = Plan.forTarget o v text := by
    intro plan
    rw [Plan.make_eq_ok_iff]
    constructor
    · rintro ⟨v, text', rfl, hfile, hmem, rfl⟩
      rw [hsame] at hfile
      cases hfile
      rw [hrule] at hmem
      rcases hmem with h | hmem
      · cases h
      · exact ⟨v, hmem, rfl, rfl⟩
    · rintro ⟨v, hmem, rfl, rfl⟩
      exact ⟨v, text, rfl, hsame, Or.inr hmem, rfl⟩
  constructor
  · constructor
    · rintro ⟨plan, hplan⟩
      obtain ⟨v, hmem, rfl, -⟩ := (hmake plan).mp hplan
      rw [Catalog.text_mem_names_iff]
      exact (Catalog.mem_arranged_iff _ _ v).mpr hmem
    · intro hline
      obtain ⟨v, hv, rfl⟩ := List.mem_map.mp hline
      have hmem := (Catalog.mem_arranged_iff _ _ v).mp hv
      exact ⟨_, (hmake _).mpr ⟨v, hmem, rfl, rfl⟩⟩
  · intro plan hplan
    obtain ⟨v, hmem, rfl, rfl⟩ := (hmake plan).mp hplan
    obtain ⟨after, harranged⟩ :=
      Catalog.exists_arranged_eq_append (Manifest.declaredIn text) a.order hmem
    refine
      ⟨(Catalog.walkedBefore (Manifest.declaredIn text).versions v a.order).map Version.text,
        after.map Version.text, ?_, ?_, ?_⟩
    · rw [Catalog.names, harranged]
      simp
    · intro h
      obtain ⟨w, hw, htext⟩ := List.mem_map.mp h
      rw [Version.text_inj.mp htext] at hw
      exact Catalog.not_mem_walkedBefore _ v a.order hw
    · simp [Plan.forTarget, Plan.ofFeatures, hrule]

/-- In the order of the manifest, a version above the target is enabled if it is declared
before it, another spelling counts as another version, and a name that is declared twice
is enabled once. -/
theorem plan_for_repeated_line :
    ∃ (host : Host Scripted.Tape) (a : Arguments) (plan : Plan),
      printedLines ((perform host a {}).1.printed a) = ["v0-2", "v00-1", "v0-1", "v0-1"] ∧
      Plan.make host.file "v0-1" {} = .ok plan ∧
      plan.features.map Version.text = ["v0-2", "v00-1", "v0-1"] := by
  let text := "[features]\nv0-2 = []\nv00-1 = []\nv0-1 = []\nv0-1 = []\n"
  let host : Host Scripted.Tape := { file := fun _ => .ok text, executor := Scripted.executor }
  let a : Arguments := { list := true }
  have hlines :
      printedLines ((perform host a {}).1.printed a) = ["v0-2", "v00-1", "v0-1", "v0-1"] := by
    rw [printedLines_listing host a {} rfl rfl rfl]
    decide +kernel
  obtain ⟨-, hiff, hfeatures⟩ :=
    plans_iff_listed host a {} {} text "v0-1" rfl rfl rfl rfl rfl
  obtain ⟨plan, hplan⟩ := hiff.mpr (by simp [hlines])
  obtain ⟨before, after, hcut, hnew, hplanned⟩ := hfeatures plan hplan
  refine ⟨host, a, plan, hlines, hplan, ?_⟩
  rw [hlines] at hcut
  rcases before with _ | ⟨x, _ | ⟨y, _ | ⟨z, rest⟩⟩⟩
  all_goals simp_all

end Program
end FeatureLadder
