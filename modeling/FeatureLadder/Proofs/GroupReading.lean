import FeatureLadder.Proofs.CommandLines

/-!
# Reading a command line, group by group

The reading is followed group by group.  An option that stands apart from its value is not
settled before the next group, so a state of the reading has granted all requests so far,
or all but the last, which is then pending (`Follows`).  A step either leads to such a state
for one request more, or fails, and then no record meets the requests, whatever comes next
(`Reaches`).

**Results.**
* `Follows.group`, `Follows.groups`: what reading one group does, and what reading many does.
* `parse_spelled_iff`: a command line is accepted with a record exactly if the record meets
  its requests and is not contradictory.
-/

namespace FeatureLadder
namespace Arguments

/-- What one step of the reading leads to: a state with the property `P` for the requests
so far, or a failure, and then no record meets them. -/
def Reaches (P : Progress → List Request → Prop) (rs : List Request)
    (x : Except Rejection Progress) : Prop :=
  match x with
  | .ok p => P p rs
  | .error _ => Unmeetable rs

theorem Reaches.bind
    {P Q : Progress → List Request → Prop}
    {rs qs : List Request}
    {x : Except Rejection Progress}
    {f : Progress → Except Rejection Progress}
    (hx : Reaches P rs x)
    (hf : ∀ p, P p rs → Reaches Q (rs ++ qs) (f p)) :
    Reaches Q (rs ++ qs) (x >>= f) := by
  cases x with
  | error e => exact Unmeetable.append hx qs
  | ok p => exact hf p hx

theorem Reaches.mono
    {P Q : Progress → List Request → Prop}
    {rs : List Request}
    {x : Except Rejection Progress}
    (hx : Reaches P rs x)
    (h : ∀ p, P p rs → Q p rs) :
    Reaches Q rs x := by
  cases x with
  | error e => exact hx
  | ok p => exact h p hx

section Steps

variable {p : Progress}

theorem step_escape
    (honly : p.positionalOnly = false) :
    p.step "--" = .ok { p with positionalOnly := true } := by
  simp only [Progress.step, honly, ofChars_eq_escape_iff.mpr rfl, Bool.false_eq_true, if_false]

theorem step_long
    (honly : p.positionalOnly = false)
    (n : Name) :
    p.step ("--" ++ n.text) = p.named n none := by
  simp only [Progress.step, honly, ofChars_long n.text_toList_ne_nil n.equals_not_mem_text,
    Name.ofText?_text, Bool.false_eq_true, if_false]

theorem step_long_value
    (honly : p.positionalOnly = false)
    (n : Name)
    (value : String) :
    p.step ("--" ++ n.text ++ "=" ++ value) = p.named n (some value) := by
  simp only [Progress.step, honly, ofChars_long_value n.equals_not_mem_text, Name.ofText?_text,
    Bool.false_eq_true, if_false]

/-- A plain argument is the value of an option that waits for one. -/
theorem step_plain_of_waiting
    (honly : p.positionalOnly = false)
    {s : Setting}
    (hpending : p.pending = some (s, none))
    {value : String}
    (hplain : IsPlain value) :
    p.step value = .ok { p with pending := some (s, some value) } := by
  simp only [Progress.step, honly, ofChars_eq_plain_iff.mpr hplain, hpending,
    Bool.false_eq_true, if_false]

/-- A plain argument is positional if no option waits for its value. -/
theorem step_plain
    (honly : p.positionalOnly = false)
    (hpending : ∀ s, p.pending ≠ some (s, none))
    {value : String}
    (hplain : IsPlain value) :
    p.step value = p.positional value := by
  simp only [Progress.step, honly, ofChars_eq_plain_iff.mpr hplain, Bool.false_eq_true, if_false]

/-- Help and the version are not kept: what is pending is settled, and the reading ends. -/
theorem step_information
    (honly : p.positionalOnly = false)
    {f : Flag}
    (hf : (Group.flag f).request = .information) :
    ∃ e, p.step f.text = p.settle >>= fun _ => throw e := by
  have hshort : ∀ {argument : String} {c : Char},
      Token.ofChars argument.toList = .short c → p.step argument = p.letter c := by
    intro argument c htoken
    simp only [Progress.step, honly, htoken, Bool.false_eq_true, if_false]
  match f with
  | .switch s => cases hf
  | .help true => exact ⟨.help true, step_long honly .help⟩
  | .help false => exact ⟨.help false, hshort (c := 'h') rfl⟩
  | .version true => exact ⟨.version, step_long honly .version⟩
  | .version false => exact ⟨.version, hshort (c := 'V') rfl⟩

end Steps

/-- All requests so far have been granted, and nothing is pending. -/
structure Grants (only : Bool) (p : Progress) (rs : List Request) : Prop where
  meets : p.arguments.Meets rs
  mem_settled_iff : ∀ s, s ∈ p.settled ↔ Slot.setting s ∈ rs.map Request.slot
  pending_eq : p.pending = none
  only_eq : p.positionalOnly = only

/-- All requests so far have been granted, or all but the last, which is pending. -/
inductive Follows (only : Bool) : Progress → List Request → Prop
  | settled
      {p : Progress}
      {rs : List Request}
      (hgrants : Grants only p rs) :
      Follows only p rs
  | pending
      {p : Progress}
      {rs : List Request}
      {s : Setting}
      {value : String}
      (hgrants : Grants only p rs) :
      Follows only { p with pending := some (s, some value) } (rs ++ [.setting s value])

section Reading

variable {only : Bool}
variable {p : Progress}
variable {rs : List Request}

theorem grants_nil : Grants false {} [] where
  meets := meets_nil
  mem_settled_iff := by simp
  pending_eq := rfl
  only_eq := rfl

/-- A switch is on exactly if it was asked for. -/
theorem Grants.isOn_iff
    (h : Grants only p rs)
    (s : Switch) :
    p.arguments.isOn s = true ↔ Slot.switch s ∈ rs.map Request.slot := by
  have hslot : ∀ r : Request, r.slot = .switch s → r = .switch s := by
    rintro (_ | _ | _ | _) ⟨⟩
    rfl
  have hempty : ∀ r : Request, r.slot = .switch s → ¬ ({} : Arguments).Holds r := by
    intro r hr
    rw [hslot r hr]
    cases s <;> exact Bool.false_ne_true
  rw [h.meets.mem_slots_iff hempty]
  constructor
  · exact fun hon => ⟨.switch s, rfl, hon⟩
  · rintro ⟨r, hr, hholds⟩
    rwa [hslot r hr] at hholds

/-- There is a target exactly if one was asked for. -/
theorem Grants.target_isSome_iff
    (h : Grants only p rs) :
    p.arguments.target.isSome = true ↔ Slot.target ∈ rs.map Request.slot := by
  have hslot : ∀ r : Request, r.slot = .target → ∃ value, r = .target value := by
    rintro (_ | _ | value | _) ⟨⟩
    exact ⟨value, rfl⟩
  have hempty : ∀ r : Request, r.slot = .target → ¬ ({} : Arguments).Holds r := by
    intro r hr
    obtain ⟨value, rfl⟩ := hslot r hr
    exact Option.some_ne_none value ∘ Eq.symm
  rw [h.meets.mem_slots_iff hempty, Option.isSome_iff_exists]
  constructor
  · rintro ⟨value, hvalue⟩
    exact ⟨.target value, rfl, hvalue⟩
  · rintro ⟨r, hr, hholds⟩
    obtain ⟨value, rfl⟩ := hslot r hr
    exact ⟨value, hholds⟩

/-- One request more is granted if it is about a new place and its value is accepted. -/
theorem Grants.concat
    (h : Grants only p rs)
    {r : Request}
    (hslot : r.slot ∉ rs.map Request.slot)
    {b : Arguments}
    (hput : p.arguments.put r = some b)
    {settled : List Setting}
    (hsettled : ∀ s, s ∈ settled ↔ s ∈ p.settled ∨ Slot.setting s = r.slot) :
    Grants only { p with arguments := b, settled := settled } (rs ++ [r]) where
  meets := h.meets.concat hslot hput
  mem_settled_iff s := by
    rw [hsettled, h.mem_settled_iff, List.map_append, List.mem_append, List.map_singleton,
      List.mem_singleton]
  pending_eq := h.pending_eq
  only_eq := h.only_eq

/-- An option is settled as asked, unless it was before or its value is refused. -/
theorem Grants.setting
    (h : Grants only p rs)
    (s : Setting)
    (value : String) :
    Reaches (Grants only) (rs ++ [.setting s value]) (p.setting s (some value)) := by
  simp only [Progress.setting]
  by_cases hmem : s ∈ p.settled
  · rw [if_pos (List.contains_iff_mem.mpr hmem)]
    exact unmeetable_of_mem ((h.mem_settled_iff s).mp hmem)
  · rw [if_neg (by simpa using hmem)]
    cases hset : p.arguments.set s value with
    | none => exact unmeetable_of_put (r := .setting s value) hset
    | some b =>
        have hslot := (h.mem_settled_iff s).not.mp hmem
        apply h.concat (r := .setting s value) hslot hset
        intro t
        simp [Request.slot, or_comm]

/-- A switch is turned on as asked, unless it was before. -/
theorem Grants.switch
    (h : Grants only p rs)
    (s : Switch) :
    Reaches (Grants only) (rs ++ [.switch s]) (p.switch s) := by
  unfold Progress.switch
  by_cases hon : p.arguments.isOn s = true
  · rw [if_pos hon]
    exact unmeetable_of_mem ((h.isOn_iff s).mp hon)
  · rw [if_neg hon]
    have hslot := (h.isOn_iff s).not.mp hon
    exact h.concat (r := .switch s) hslot rfl (by simp [Request.slot])

/-- Settling what is pending grants all requests so far. -/
theorem Follows.settle
    (h : Follows only p rs) :
    Reaches (Grants only) rs p.settle := by
  cases h with
  | settled hgrants =>
      rw [Progress.settle, hgrants.pending_eq]
      exact hgrants
  | @pending p rs s value hgrants =>
      have hrestored : { p with pending := none } = p := by
        rw [← hgrants.pending_eq]
      change Reaches (Grants only) _ (Progress.setting { p with pending := none } s (some value))
      rw [hrestored]
      exact hgrants.setting s value

theorem Follows.target_isSome_iff
    (h : Follows only p rs) :
    p.arguments.target.isSome = true ↔ Slot.target ∈ rs.map Request.slot := by
  cases h with
  | settled hgrants => exact hgrants.target_isSome_iff
  | pending hgrants => simpa [Request.slot] using hgrants.target_isSome_iff

/-- A positional argument settles what is pending, and is refused if it is not the first. -/
theorem Follows.positional
    (h : Follows only p rs)
    (value : String) :
    Reaches (Grants only) (rs ++ [.target value]) (p.positional value) := by
  unfold Progress.positional
  by_cases htarget : p.arguments.target.isSome = true
  · rw [if_pos htarget]
    exact unmeetable_of_mem (h.target_isSome_iff.mp htarget)
  · rw [if_neg htarget]
    apply h.settle.bind
    intro q hq
    have hslot := h.target_isSome_iff.not.mp htarget
    exact hq.concat (r := .target value) hslot rfl (by simp [Request.slot])

theorem Follows.only_eq
    (h : Follows only p rs) :
    p.positionalOnly = only := by
  cases h with
  | settled hgrants => exact hgrants.only_eq
  | pending hgrants => exact hgrants.only_eq

theorem Follows.pending_ne
    (h : Follows only p rs)
    (s : Setting) :
    p.pending ≠ some (s, none) := by
  cases h with
  | settled hgrants => simp [hgrants.pending_eq]
  | pending hgrants => simp

/-- Reading a flag settles what is pending, and then the flag. -/
theorem Follows.flag
    (h : Follows false p rs)
    (f : Flag) :
    Reaches (Grants false) (rs ++ [(Group.flag f).request]) (p.step f.text) := by
  have hrefused : Unmeetable (rs ++ [.information]) := unmeetable_of_put (a := {}) rfl
  cases f with
  | switch s =>
      have hstep : p.step (Flag.switch s).text = p.named (.switch s) none :=
        step_long h.only_eq (.switch s)
      rw [hstep]
      exact h.settle.bind fun _ hq => hq.switch s
  | help long =>
      obtain ⟨e, hstep⟩ := step_information h.only_eq (f := .help long) rfl
      rw [hstep]
      exact h.settle.bind fun _ _ => hrefused
  | version long =>
      obtain ⟨e, hstep⟩ := step_information h.only_eq (f := .version long) rfl
      rw [hstep]
      exact h.settle.bind fun _ _ => hrefused

/-- **What reading one group does.** -/
theorem Follows.group
    (h : Follows false p rs)
    (g : Group) :
    Reaches (Follows false) (rs ++ [g.request]) (g.spelled.foldlM Progress.step p) := by
  cases g with
  | flag f =>
      simp only [Group.spelled, List.foldlM_cons, List.foldlM_nil, bind_pure]
      exact (h.flag f).mono fun _ => .settled
  | joined s value =>
      simp only [Group.spelled, List.foldlM_cons, List.foldlM_nil, bind_pure]
      have hstep : p.step ("--" ++ s.name ++ "=" ++ value) = p.named (.setting s) (some value) :=
        step_long_value h.only_eq (.setting s) value
      have hreaches :
          Reaches (Grants false) (rs ++ [.setting s value]) (p.named (.setting s) (some value)) :=
        h.settle.bind fun _ hq => hq.setting s value
      rw [hstep]
      exact hreaches.mono fun _ => .settled
  | apart s value plain =>
      simp only [Group.spelled, List.foldlM_cons, List.foldlM_nil, bind_pure]
      have hstep :
          p.step ("--" ++ s.name) =
            p.settle >>= fun q => .ok { q with pending := some (s, none) } :=
        step_long h.only_eq (.setting s)
      rw [hstep, bind_assoc]
      apply h.settle.bind
      intro q hq
      have hvalue :=
        step_plain_of_waiting (p := { q with pending := some (s, none) }) hq.only_eq rfl plain
      change Reaches _ _ (Progress.step { q with pending := some (s, none) } value)
      rw [hvalue]
      exact Follows.pending (p := q) hq
  | positional value plain =>
      simp only [Group.spelled, List.foldlM_cons, List.foldlM_nil, bind_pure]
      rw [step_plain h.only_eq h.pending_ne plain]
      exact (h.positional value).mono fun _ => .settled

/-- What reading groups does. -/
theorem Follows.groups
    (h : Follows false p rs)
    (gs : List Group) :
    Reaches (Follows false) (rs ++ gs.map Group.request)
      ((gs.flatMap Group.spelled).foldlM Progress.step p) := by
  induction gs generalizing p rs with
  | nil =>
      rw [List.map_nil, List.append_nil]
      exact h
  | cons g gs ih =>
      rw [List.flatMap_cons, List.foldlM_append, List.map_cons, List.append_cons]
      exact (h.group g).bind fun q hq => ih hq

/-- Behind the lone `--`, every argument is positional. -/
theorem Follows.escaped
    (h : Follows true p rs)
    (rest : List String) :
    Reaches (Follows true) (rs ++ rest.map Request.target)
      (rest.foldlM Progress.step p) := by
  induction rest generalizing p rs with
  | nil =>
      rw [List.map_nil, List.append_nil]
      exact h
  | cons value rest ih =>
      have hstep : p.step value = p.positional value := by
        rw [Progress.step, if_pos h.only_eq]
      rw [List.foldlM_cons, hstep, List.map_cons, List.append_cons]
      exact Reaches.bind (h.positional value) fun q hq => ih (.settled hq)

/-- The lone `--` changes nothing but how the rest is read. -/
theorem Follows.escape
    (h : Follows false p rs) :
    Follows true { p with positionalOnly := true } rs := by
  have hescape : ∀ {q : Progress} {qs : List Request}, Grants false q qs →
      Grants true { q with positionalOnly := true } qs := fun hq =>
    ⟨hq.meets, hq.mem_settled_iff, hq.pending_eq, rfl⟩
  cases h with
  | settled hgrants => exact .settled (hescape hgrants)
  | @pending p rs s value hgrants =>
      exact Follows.pending (p := { p with positionalOnly := true }) (hescape hgrants)

/-- The end of the reading gives the record that meets the requests, if it is not
contradictory. -/
theorem Follows.finish_eq_ok_iff
    (h : Follows only p rs)
    (a : Arguments) :
    p.finish = .ok a ↔ a.Meets rs ∧ a.contradictory = false := by
  have hsettle := h.settle
  unfold Progress.finish
  cases hp : p.settle with
  | error e =>
      rw [hp] at hsettle
      simp [bind, Except.bind, hsettle.not_meets]
  | ok q =>
      rw [hp] at hsettle
      have hunique : a.Meets rs ↔ q.arguments = a :=
        ⟨hsettle.meets.unique, fun e => e ▸ hsettle.meets⟩
      rw [hunique]
      cases hcontradictory : q.arguments.contradictory with
      | true =>
          simp only [bind, Except.bind, hcontradictory, if_true]
          constructor
          · intro hthrow
            cases hthrow
          · rintro ⟨rfl, hfalse⟩
            cases hcontradictory.symm.trans hfalse
      | false =>
          simp only [bind, Except.bind, hcontradictory, Bool.false_eq_true, if_false]
          constructor
          · intro hreturn
            cases hreturn
            exact ⟨rfl, hcontradictory⟩
          · rintro ⟨rfl, -⟩
            rfl

/-- What reading a whole command line does. -/
theorem follows_spelled
    (l : Line) :
    Reaches (fun p rs => ∃ only, Follows only p rs) l.requests
      (l.spelled.foldlM Progress.step {}) := by
  have hgroups := Follows.groups (.settled grants_nil) l.groups
  rw [List.nil_append] at hgroups
  obtain ⟨groups, escaped⟩ := l
  rw [Line.spelled, List.foldlM_append]
  apply hgroups.bind
  intro p hp
  cases escaped with
  | none =>
      rw [Line.escape, List.foldlM_nil, Option.getD_none, List.map_nil, List.append_nil]
      exact ⟨false, hp⟩
  | some rest =>
      rw [Line.escape, List.foldlM_cons, step_escape hp.only_eq]
      exact (hp.escape.escaped rest).mono fun _ hq => ⟨true, hq⟩

end Reading

/-- **A command line is accepted with the record that meets its requests**, if there is one
and it is not contradictory. -/
theorem parse_spelled_iff
    (l : Line)
    (a : Arguments) :
    parse l.spelled = .ok a ↔ a.Meets l.requests ∧ a.contradictory = false := by
  have hreaches := follows_spelled l
  unfold parse
  cases hfold : l.spelled.foldlM Progress.step {} with
  | error e =>
      rw [hfold] at hreaches
      simp [bind, Except.bind, hreaches.not_meets]
  | ok p =>
      rw [hfold] at hreaches
      obtain ⟨only, hp⟩ := hreaches
      exact hp.finish_eq_ok_iff a

end Arguments
end FeatureLadder
