import FeatureLadder.Version.Order

/-!
# Cumulative selection, one version at a time

**Input**: a list of versions and a target.

**Algorithm**: the versions are yielded one after the other up to and including the
first that equals the target; if there is none, the target itself comes last.  What
stands behind the first occurrence of the target is never looked at.

**Results**: `Cumulation.collect_eq_next` says that collecting is stepping to the
end, and `Cumulation.collect_start` gives what is collected from the start.
-/

namespace FeatureLadder

/-- A cumulative selection under way. -/
structure Cumulation where
  /-- the versions that have not been looked at yet -/
  remaining : List Version
  target : Version
  /-- whether the target has been yielded -/
  finished : Bool := false

namespace Cumulation

/-- The selection of the versions up to `target`, before the first step. -/
def start (versions : List Version) (target : Version) : Cumulation :=
  { remaining := versions, target := target }

/-- One step: the next version, if there is one. -/
def next (s : Cumulation) : Option Version × Cumulation :=
  if s.finished then (none, s)
  else
    match s.remaining with
    | [] => (some s.target, { s with finished := true })
    | v :: rest =>
      (some v, { s with remaining := rest, finished := decide (v = s.target) })

/-- The versions up to and including the first that equals the target, or all of them
and then the target. -/
def upTo (target : Version) : List Version → List Version
  | [] => [target]
  | v :: rest => if v = target then [v] else v :: upTo target rest

/-- Everything that the steps still to come yield. -/
def collect (s : Cumulation) : List Version :=
  if s.finished then [] else upTo s.target s.remaining

/-- The answers of the first `n` steps, and where the selection stands after them. -/
def nexts : Nat → Cumulation → List (Option Version) × Cumulation
  | 0, s => ([], s)
  | n + 1, s =>
    let (v, t) := s.next
    let (vs, u) := nexts n t
    (v :: vs, u)

/-- Collecting is stepping until there is no next version. -/
theorem collect_eq_next (s : Cumulation) :
    s.collect =
      match s.next with
      | (some v, t) => v :: t.collect
      | (none, _) => [] := by
  cases hf : s.finished with
  | true => simp [collect, next, hf]
  | false =>
    cases hr : s.remaining with
    | nil => simp [collect, next, hf, hr, upTo]
    | cons v rest =>
      by_cases hv : v = s.target
      · simp [collect, next, hf, hr, upTo, hv]
      · simp [collect, next, hf, hr, upTo, hv]

@[simp] theorem collect_start (versions : List Version) (target : Version) :
    (start versions target).collect = upTo target versions := rfl

/-- The collected list ends with the target, and what stands before it are the
versions before the target's first occurrence. -/
theorem upTo_eq (target : Version) :
    ∀ versions : List Version,
      upTo target versions = versions.takeWhile (· ≠ target) ++ [target]
  | [] => rfl
  | v :: rest => by
      by_cases h : v = target
      · simp [upTo, h]
      · simp [upTo, h, upTo_eq target rest]

end Cumulation
end FeatureLadder
