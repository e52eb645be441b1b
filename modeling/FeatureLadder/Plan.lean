import FeatureLadder.Command
import FeatureLadder.Executor.Basic

/-!
# Test plans

**Input**: a target as the user wrote it, the options of the run, and what reading
files gives.

**Algorithm**: the target is read, then the manifest, then the versions for the target
are selected; the first step that fails is the answer.  The command that enables the
selected versions runs in the directory of the manifest.

`making` and `executing` give the plan and the end of its tests with what is noted on the
way; `make` and `execute` are their results.
-/

namespace FeatureLadder

/-- What is to be run for a target. -/
structure Plan where
  target : Version
  available : Catalog
  features : List Version
  command : Command
  deriving DecidableEq

namespace Plan

open Log (Noted Span)

/-- The plan for a target whose versions have been selected. -/
def ofFeatures (target : Version) (available : Catalog) (features : List Version)
    (o : Options) : Plan where
  target := target
  available := available
  features := features
  command := Command.ofVersions o.tool features o.workingDir

def span (target : String) (o : Options) : Span where
  name := "plan_tests"
  source := "vtest_core::plan"
  fields := [⟨"target", .quoted target⟩, ⟨"manifest", .shown o.manifestPath⟩]

/-- Makes the plan for a target. -/
def making (file : String → Except Failure String) (target : String) (o : Options) :
    Noted Plan :=
  .within (span target o) do
    let version ← .ofExcept (Version.read target)
    let available ← Manifest.loading o.manifestPath (file o.manifestPath)
    .note {
      level := .info
      source := "vtest_core::plan"
      message := "Available versions: " ++
        String.ofList (Text.quotedList (available.versions.map Version.chars)) }
    let features ← available.selecting version o.rule
    return ofFeatures version available features o

/-- The plan for a target. -/
def make (file : String → Except Failure String) (target : String) (o : Options) :
    Except Error Plan :=
  (making file target o).result

/-- Runs the tests of a plan. -/
def executing {σ : Type} (plan : Plan) (executor : Executor σ) (o : Options) (s : σ) :
    Execution × σ :=
  executor.running plan.command o.mode s

/-- How the tests of a plan end. -/
def execute {σ : Type} (plan : Plan) (executor : Executor σ) (o : Options) (s : σ) :
    Except Error Completion × σ :=
  executor.runTests plan.command o.mode s

theorem make_eq (file : String → Except Failure String) (target : String) (o : Options) :
    make file target o = (do
      let version ← Version.read target
      let available ← Manifest.load o.manifestPath (file o.manifestPath)
      let features ← available.select version o.rule
      return ofFeatures version available features o) := by
  unfold make making
  simp only [Noted.result_within, Noted.result_bind, Noted.result_ofExcept]
  rfl

section Executing

variable {σ : Type} (plan : Plan) (executor : Executor σ) (o : Options) (s : σ)

@[simp] theorem answer_executing :
    (plan.executing executor o s).1.answer =
      (executor.execute plan.command o.mode s).1.answer :=
  executor.answer_running plan.command o.mode s

@[simp] theorem stdout_executing :
    (plan.executing executor o s).1.stdout =
      (executor.execute plan.command o.mode s).1.stdout :=
  rfl

@[simp] theorem state_executing :
    (plan.executing executor o s).2 = (executor.execute plan.command o.mode s).2 :=
  rfl

theorem execute_eq :
    plan.execute executor o s =
      ((plan.executing executor o s).1.answer, (plan.executing executor o s).2) :=
  rfl

end Executing

end Plan
end FeatureLadder
