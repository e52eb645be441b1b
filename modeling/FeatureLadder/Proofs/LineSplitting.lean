import FeatureLadder.Proofs.GroupReading

/-!
# Every accepted command line falls into groups

`Advances` says once, for every argument that is accepted, what it has to look like and
what becomes of the state.  An option without value waits for one, and only a plain argument
can be taken next; so an option and its value are read as one group.

**Results.**
* `step_advances`: what one accepted argument can do.
* `exists_line_of_parse`: every accepted command line falls into groups.
* `parse_eq_ok_iff`: the command lines that are accepted, and with which record.
-/

namespace FeatureLadder
namespace Arguments

section Splitting

variable {p q r : Progress}

/-- What one accepted argument can do, as long as not every argument is positional. -/
inductive Advances (p : Progress) : String → Progress → Prop
  | escape :
      Advances p "--" { p with positionalOnly := true }
  | joined
      {q r : Progress}
      {s : Setting}
      {value : String}
      (hsettle : p.settle = .ok q)
      (hsetting : q.setting s (some value) = .ok r) :
      Advances p ("--" ++ s.name ++ "=" ++ value) r
  | waiting
      {q : Progress}
      {s : Setting}
      (hsettle : p.settle = .ok q) :
      Advances p ("--" ++ s.name) { q with pending := some (s, none) }
  | switch
      {q r : Progress}
      {s : Switch}
      (hsettle : p.settle = .ok q)
      (hswitch : q.switch s = .ok r) :
      Advances p ("--" ++ s.name) r
  | value
      {s : Setting}
      {value : String}
      (hpending : p.pending = some (s, none))
      (hplain : IsPlain value) :
      Advances p value { p with pending := some (s, some value) }
  | positional
      {q : Progress}
      {value : String}
      (hpending : ∀ s, p.pending ≠ some (s, none))
      (hplain : IsPlain value)
      (hpositional : p.positional value = .ok q) :
      Advances p value q

theorem bind_eq_ok
    {x : Except Rejection Progress}
    {β : Type}
    {f : Progress → Except Rejection β}
    {b : β}
    (h : x >>= f = .ok b) :
    ∃ q, x = .ok q ∧ f q = .ok b := by
  cases x with
  | error e => cases h
  | ok q => exact ⟨q, rfl, h⟩

theorem named_advances
    {n : Name}
    {value : Option String}
    (h : p.named n value = .ok r) :
    Advances p ("--" ++ n.text ++ (value.map ("=" ++ ·)).getD "") r := by
  cases n with
  | setting s =>
      obtain ⟨q, hsettle, hq⟩ := bind_eq_ok h
      cases value with
      | none =>
          cases hq
          rw [Option.map_none, Option.getD_none, String.append_empty]
          exact .waiting hsettle
      | some value =>
          rw [Option.map_some, Option.getD_some, ← String.append_assoc]
          exact .joined hsettle hq
  | switch s =>
      cases value with
      | none =>
          obtain ⟨q, hsettle, hq⟩ := bind_eq_ok h
          rw [Option.map_none, Option.getD_none, String.append_empty]
          exact .switch hsettle hq
      | some value => cases h
  | help =>
      cases value with
      | none =>
          obtain ⟨q, -, hq⟩ := bind_eq_ok h
          cases hq
      | some value => cases h
  | version =>
      cases value with
      | none =>
          obtain ⟨q, -, hq⟩ := bind_eq_ok h
          cases hq
      | some value => cases h

/-- A hyphen and a letter are never accepted. -/
theorem letter_ne_ok
    (c : Char) :
    p.letter c ≠ .ok q := by
  intro h
  unfold Progress.letter at h
  split at h
  · obtain ⟨_, -, hq⟩ := bind_eq_ok h
    cases hq
  · split at h
    · obtain ⟨_, -, hq⟩ := bind_eq_ok h
      cases hq
    · cases h

/-- **What one accepted argument can do.** -/
theorem step_advances
    (honly : p.positionalOnly = false)
    {argument : String}
    (h : p.step argument = .ok q) :
    Advances p argument q := by
  rw [Progress.step, if_neg (by simp [honly])] at h
  split at h
  · next htoken =>
    cases h
    rw [ofChars_eq_escape_iff.mp htoken]
    exact .escape
  · next name value htoken =>
    rw [eq_of_ofChars_eq_long htoken]
    split at h
    · cases h
    · next n hname =>
      rw [(find?_name_eq_some_iff Name.ofText?_text).mp hname]
      exact named_advances h
  · exact absurd h (letter_ne_ok _)
  · next htoken =>
    have hplain := ofChars_eq_plain_iff.mp htoken
    split at h
    · next s hpending =>
      cases h
      exact .value hpending hplain
    · next hpending => exact .positional hpending hplain h

/-- An option that waits for its value cannot be settled. -/
theorem settle_of_waiting
    {s : Setting}
    (hpending : p.pending = some (s, none)) :
    p.settle = .error .invalidValue := by
  rw [Progress.settle, hpending]
  rfl

/-- A command line does not end with an option that waits for its value. -/
theorem finish_ne_ok_of_waiting
    {s : Setting}
    (hpending : p.pending = some (s, none))
    (a : Arguments) :
    p.finish ≠ .ok a := by
  intro h
  rw [Progress.finish, settle_of_waiting hpending] at h
  cases h

theorem frame_of_setting
    {s : Setting}
    {value : Option String}
    (h : p.setting s value = .ok q) :
    q.pending = p.pending ∧ q.positionalOnly = p.positionalOnly := by
  unfold Progress.setting at h
  split at h
  · cases h
  · split at h
    · cases h
    · split at h
      · cases h
      · cases h
        exact ⟨rfl, rfl⟩

/-- Only what does not wait can be settled, and then nothing is pending. -/
theorem frame_of_settle
    (h : p.settle = .ok q) :
    (∀ s, p.pending ≠ some (s, none)) ∧ q.pending = none ∧
      q.positionalOnly = p.positionalOnly := by
  refine ⟨?_, ?_⟩
  · intro s hpending
    rw [settle_of_waiting hpending] at h
    cases h
  · unfold Progress.settle at h
    split at h
    · next hnone =>
      cases h
      exact ⟨hnone, rfl⟩
    · exact frame_of_setting h

theorem frame_of_switch
    {s : Switch}
    (h : p.switch s = .ok q) :
    q.pending = p.pending ∧ q.positionalOnly = p.positionalOnly := by
  unfold Progress.switch at h
  split at h
  · cases h
  · cases h
    exact ⟨rfl, rfl⟩

theorem frame_of_positional
    {value : String}
    (h : p.positional value = .ok q) :
    q.pending = none ∧ q.positionalOnly = p.positionalOnly := by
  unfold Progress.positional at h
  split at h
  · cases h
  · obtain ⟨r, hsettle, hr⟩ := bind_eq_ok h
    cases hr
    exact (frame_of_settle hsettle).2

def Line.cons (g : Group) (l : Line) : Line :=
  { l with groups := g :: l.groups }

theorem Line.spelled_cons
    (g : Group)
    (l : Line) :
    (Line.cons g l).spelled = g.spelled ++ l.spelled := by
  simp [Line.spelled, Line.cons]

/-- Behind the lone `--`, an option can no longer get its value. -/
theorem not_accepted_of_waiting
    {s : Setting}
    (hpending : p.pending = some (s, none))
    (honly : p.positionalOnly = true)
    (arguments : List String)
    (a : Arguments) :
    arguments.foldlM Progress.step p >>= Progress.finish ≠ .ok a := by
  intro h
  cases arguments with
  | nil => exact finish_ne_ok_of_waiting hpending a h
  | cons value rest =>
      obtain ⟨q, hfold, -⟩ := bind_eq_ok h
      rw [List.foldlM_cons] at hfold
      obtain ⟨r, hstep, -⟩ := bind_eq_ok hfold
      rw [Progress.step, if_pos honly, Progress.positional, settle_of_waiting hpending] at hstep
      split at hstep <;> cases hstep

/-- What is left to be read falls into groups; if an option waits, its value comes first. -/
def Splits (p : Progress) (arguments : List String) : Prop :=
  (∀ s, p.pending = some (s, none) →
    ∃ value l, IsPlain value ∧ arguments = value :: Line.spelled l) ∧
  ((∀ s, p.pending ≠ some (s, none)) → ∃ l, arguments = Line.spelled l)

theorem splits_of_accepted
    (arguments : List String)
    {p : Progress}
    (honly : p.positionalOnly = false)
    {a : Arguments}
    (h : arguments.foldlM Progress.step p >>= Progress.finish = .ok a) :
    Splits p arguments := by
  induction arguments generalizing p with
  | nil =>
      refine ⟨?_, fun _ => ⟨⟨[], none⟩, rfl⟩⟩
      intro s hpending
      exact absurd h (finish_ne_ok_of_waiting hpending a)
  | cons argument rest ih =>
      obtain ⟨r, hfold, hfinish⟩ := bind_eq_ok h
      rw [List.foldlM_cons] at hfold
      obtain ⟨q, hstep, hrest⟩ := bind_eq_ok hfold
      have haccepted : rest.foldlM Progress.step q >>= Progress.finish = .ok a := by
        rw [hrest]
        exact hfinish
      have hsplits : q.positionalOnly = false → Splits q rest := fun hq => ih hq haccepted
      have hgroup : ∀ g : Group, g.spelled = [argument] →
          (∀ s, p.pending ≠ some (s, none)) → q.pending = none →
          q.positionalOnly = p.positionalOnly → Splits p (argument :: rest) := by
        intro g hg hready hnone hq
        obtain ⟨l, rfl⟩ := (hsplits (hq.trans honly)).2 (by simp [hnone])
        refine ⟨fun s hs => absurd hs (hready s), fun _ => ⟨l.cons g, ?_⟩⟩
        rw [Line.spelled_cons, hg]
        rfl
      cases step_advances honly hstep with
      | escape =>
          refine ⟨?_, fun _ => ⟨⟨[], some rest⟩, rfl⟩⟩
          intro s hpending
          have hnever :=
            not_accepted_of_waiting (p := { p with positionalOnly := true }) hpending rfl rest a
          exact absurd haccepted hnever
      | joined hsettle hsetting =>
          obtain ⟨hready, hnone, hq⟩ := frame_of_settle hsettle
          obtain ⟨hpending, hr⟩ := frame_of_setting hsetting
          exact hgroup (.joined _ _) rfl hready (hpending.trans hnone) (hr.trans hq)
      | @waiting _ s hsettle =>
          obtain ⟨hready, -, hq⟩ := frame_of_settle hsettle
          obtain ⟨value, l, hplain, rfl⟩ := (hsplits (hq.trans honly)).1 s rfl
          refine ⟨fun t ht => absurd ht (hready t), fun _ => ⟨l.cons (.apart s value hplain), ?_⟩⟩
          rw [Line.spelled_cons]
          rfl
      | @switch _ _ s hsettle hswitch =>
          obtain ⟨hready, hnone, hq⟩ := frame_of_settle hsettle
          obtain ⟨hpending, hr⟩ := frame_of_switch hswitch
          exact hgroup (.flag (.switch s)) rfl hready (hpending.trans hnone) (hr.trans hq)
      | @value s _ hpending hplain =>
          obtain ⟨l, rfl⟩ := (hsplits honly).2 (by simp)
          exact ⟨fun _ _ => ⟨argument, l, hplain, rfl⟩, fun hready => absurd hpending (hready s)⟩
      | positional hready hplain hpositional =>
          obtain ⟨hnone, hq⟩ := frame_of_positional hpositional
          exact hgroup (.positional argument hplain) rfl hready hnone hq

/-- **Every accepted command line falls into groups.** -/
theorem exists_line_of_parse
    {arguments : List String}
    {a : Arguments}
    (h : parse arguments = .ok a) :
    ∃ l : Line, arguments = l.spelled :=
  (splits_of_accepted arguments rfl h).2 (by simp)

/-- **The command lines that are accepted, and with which record.** -/
theorem parse_eq_ok_iff
    (arguments : List String)
    (a : Arguments) :
    parse arguments = .ok a ↔
      ∃ l : Line, arguments = l.spelled ∧ a.Meets l.requests ∧ a.contradictory = false := by
  constructor
  · intro h
    obtain ⟨l, rfl⟩ := exists_line_of_parse h
    exact ⟨l, rfl, (parse_spelled_iff l a).mp h⟩
  · rintro ⟨l, rfl, h⟩
    exact (parse_spelled_iff l a).mpr h

end Splitting

end Arguments
end FeatureLadder
