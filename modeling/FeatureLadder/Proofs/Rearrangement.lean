import FeatureLadder.Proofs.LineSplitting
import Mathlib.Data.List.Forall2

/-!
# Order and spelling of the arguments

A command line is accepted with the record that meets its requests, and which requests are
made depends neither on the order of the groups nor on how an option is tied to its value.
So both may be changed freely, as long as each group stays together.  The reading itself is
not that indifferent: where an option stands decides when it is settled, and with it which
of two problems is found first.

**Results.**
* `exists_groups_of_parse`: an accepted command line without a lone `--` is made of groups.
* `rearranged_read_alike`: groups in another order and another spelling are read alike.
-/

namespace FeatureLadder
namespace Arguments

/-- A group and another way to write it. -/
inductive Group.Respelled : Group → Group → Prop
  | same
      (g : Group) :
      Respelled g g
  | join
      (s : Setting)
      (value : String)
      (plain : IsPlain value) :
      Respelled (.apart s value plain) (.joined s value)
  | part
      (s : Setting)
      (value : String)
      (plain : IsPlain value) :
      Respelled (.joined s value) (.apart s value plain)

theorem Group.Respelled.request_eq
    {g g' : Group}
    (h : g.Respelled g') :
    g.request = g'.request := by
  cases h <;> rfl

theorem map_request_of_respelled
    {gs gs' : List Group}
    (h : List.Forall₂ Group.Respelled gs gs') :
    gs.map Group.request = gs'.map Group.request := by
  induction h with
  | nil => rfl
  | cons hg _ ih => rw [List.map_cons, List.map_cons, hg.request_eq, ih]

theorem parse_groups_iff
    (gs : List Group)
    (a : Arguments) :
    parse (gs.flatMap Group.spelled) = .ok a ↔
      a.Meets (gs.map Group.request) ∧ a.contradictory = false := by
  have h := parse_spelled_iff ⟨gs, none⟩ a
  simpa only [Line.spelled, Line.requests, Line.escape, Option.getD_none, List.map_nil,
    List.append_nil] using h

theorem exists_groups_of_parse
    {arguments : List String}
    {a : Arguments}
    (h : parse arguments = .ok a)
    (hescape : "--" ∉ arguments) :
    ∃ gs : List Group, arguments = gs.flatMap Group.spelled := by
  obtain ⟨⟨gs, escaped⟩, rfl⟩ := exists_line_of_parse h
  cases escaped with
  | none => exact ⟨gs, List.append_nil _⟩
  | some rest => simp [Line.spelled, Line.escape] at hescape

/-- **Neither the order of the groups nor their spelling matters.**  An accepted command line
without a lone `--` is made of groups.  If they are put into another order, and options
are joined to their values or parted from them, the command line is accepted with the same
record, and the run has the same options. -/
theorem rearranged_read_alike :
    (∀ (arguments : List String) (a : Arguments),
      parse arguments = .ok a → "--" ∉ arguments →
        ∃ gs : List Group, arguments = gs.flatMap Group.spelled) ∧
    ∀ (gs permuted gs' : List Group) (a : Arguments),
      parse (gs.flatMap Group.spelled) = .ok a →
      gs.Perm permuted → List.Forall₂ Group.Respelled permuted gs' →
        parse (gs'.flatMap Group.spelled) = .ok a ∧
        (parse (gs'.flatMap Group.spelled)).map options = .ok a.options := by
  refine ⟨fun _ _ h hescape => exists_groups_of_parse h hescape, ?_⟩
  intro gs permuted gs' a h hperm hspelled
  obtain ⟨hmeets, hconsistent⟩ := (parse_groups_iff gs a).mp h
  have hrequests : (gs.map Group.request).Perm (gs'.map Group.request) := by
    rw [← map_request_of_respelled hspelled]
    exact hperm.map Group.request
  have hread := (parse_groups_iff gs' a).mpr ⟨hmeets.perm hrequests, hconsistent⟩
  exact ⟨hread, by rw [hread]; rfl⟩

/-- The groups in the opposite order, with one option joined to its value and the other parted
from it. -/
theorem rearranged_read_alike_reversed :
    ∃ a : Arguments,
      parse ["--tool", "x", "v0-1", "--capture", "--order=version"] = .ok a ∧
      parse ["--order", "version", "--capture", "v0-1", "--tool=x"] = .ok a := by
  let a : Arguments :=
    { target := some "v0-1", tool := "x", capture := true, order := .version }
  let gs : List Group :=
    [.apart .tool "x" (by decide), .positional "v0-1" (by decide), .flag (.switch .capture),
      .joined .order "version"]
  have h : parse (gs.flatMap Group.spelled) = .ok a := by decide
  have hspelled :
      List.Forall₂ Group.Respelled gs.reverse
        [.apart .order "version" (by decide), .flag (.switch .capture),
          .positional "v0-1" (by decide), .joined .tool "x"] :=
    .cons (.part _ _ _) (.cons (.same _) (.cons (.same _) (.cons (.join _ _ _) .nil)))
  have hread := rearranged_read_alike.2 gs gs.reverse _ a h (List.reverse_perm gs).symm hspelled
  exact ⟨a, h, hread.1⟩

end Arguments
end FeatureLadder
