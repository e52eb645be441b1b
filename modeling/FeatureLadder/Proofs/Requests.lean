import FeatureLadder.Arguments.Parse
import Mathlib.Data.List.Nodup

/-!
# What a command line asks for

A record of arguments has places that a command line can fill: a setting, a switch, the
target.  A *request* says what is to stand in one place.  Help and the version can be
asked for too, but no record holds them.

A record *meets* a list of requests if they are about different places, it holds each of
them, and it is as without arguments in all other places.  This does not depend on the
order of the requests, and it leaves no choice: a record is determined by what it holds.

Requests that are granted one by one, from the empty record on, are met as long as each of
them can be granted.  One that cannot be granted makes the list, and whatever it is
continued with, impossible to meet.

**Results.**
* `eq_of_holds`: a record is determined by what it holds.
* `holds_put_iff`: to grant a request changes its place and no other.
* `Meets.concat`, `unmeetable_of_mem`, `unmeetable_of_put`: granting one request more.
* `Meets.perm`: the order of the requests does not matter.
-/

namespace FeatureLadder

section Names

variable {α : Type}
variable {all : List α}
variable {name : α → String}

/-- If every item of a list is found under its own name, a name finds the item it belongs
to and nothing else. -/
theorem find?_name_eq_some_iff
    (hfound : ∀ x, all.find? (name · == name x) = some x)
    {s : String}
    {x : α} :
    all.find? (name · == s) = some x ↔ s = name x := by
  constructor
  · intro h
    have hname := List.find?_some h
    exact (beq_iff_eq.mp hname).symm
  · rintro rfl
    exact hfound x

theorem name_injective_of_found
    (hfound : ∀ x, all.find? (name · == name x) = some x) :
    Function.Injective name := by
  intro x y h
  have hx := hfound x
  rw [h, hfound y] at hx
  exact (Option.some.inj hx).symm

theorem CatalogOrder.ofName?_name
    (o : CatalogOrder) :
    ofName? o.name = some o := by
  cases o <;> decide

theorem OutputFormat.ofName?_name
    (f : OutputFormat) :
    ofName? f.name = some f := by
  cases f <;> decide

theorem Log.Format.ofName?_name
    (f : Log.Format) :
    ofName? f.name = some f := by
  cases f <;> decide

theorem Arguments.Name.ofText?_text
    (n : Arguments.Name) :
    ofText? n.text = some n := by
  cases n with
  | setting s => cases s <;> decide
  | switch s => cases s <;> decide
  | help => decide
  | version => decide

end Names

namespace Arguments

/-- The places of a record that a command line can fill. -/
inductive Slot where
  | setting (s : Setting)
  | switch (s : Switch)
  | target
  /-- help and version, which have no place in a record -/
  | information
  deriving DecidableEq

/-- What a command line asks for. -/
inductive Request where
  | setting (s : Setting) (value : String)
  | switch (s : Switch)
  | target (value : String)
  | information
  deriving DecidableEq

def Request.slot : Request → Slot
  | .setting s _ => .setting s
  | .switch s => .switch s
  | .target _ => .target
  | .information => .information

/-- The text that a setting is written with, if the setting has been made. -/
def value? (a : Arguments) : Setting → Option String
  | .manifestPath => some a.manifestPath
  | .tool => some a.tool
  | .order => some a.order.name
  | .output => some a.output.name
  | .logFormat => a.logFormat.map Log.Format.name
  | .logLevel => some a.logLevel.name

/-- Whether a record is as a request asks. -/
def Holds (a : Arguments) : Request → Prop
  | .setting s value => a.value? s = some value
  | .switch s => a.isOn s = true
  | .target value => a.target = some value
  | .information => False

/-- The record with one request granted, if it can be. -/
def put (a : Arguments) : Request → Option Arguments
  | .setting s value => a.set s value
  | .switch s => some (a.turnOn s)
  | .target value => some { a with target := some value }
  | .information => none

section Records

variable {a b : Arguments}

/-- **A record is determined by what it holds.** -/
theorem eq_of_holds
    (h : ∀ r, a.Holds r ↔ b.Holds r) :
    a = b := by
  have hvalue : ∀ s, a.value? s = b.value? s := fun s =>
    Option.ext fun value => h (.setting s value)
  have hon : ∀ s, a.isOn s = b.isOn s := fun s =>
    Bool.eq_iff_iff.mpr (h (.switch s))
  have htarget : a.target = b.target := Option.ext fun value => h (.target value)
  have hpath : a.manifestPath = b.manifestPath := Option.some.inj (hvalue .manifestPath)
  have htool : a.tool = b.tool := Option.some.inj (hvalue .tool)
  have horder : a.order = b.order :=
    name_injective_of_found CatalogOrder.ofName?_name (Option.some.inj (hvalue .order))
  have houtput : a.output = b.output :=
    name_injective_of_found OutputFormat.ofName?_name (Option.some.inj (hvalue .output))
  have hformat : a.logFormat = b.logFormat :=
    Option.map_injective (name_injective_of_found Log.Format.ofName?_name)
      (hvalue .logFormat)
  have hlevel : a.logLevel = b.logLevel :=
    name_injective_of_found Log.Level.ofName?_name (Option.some.inj (hvalue .logLevel))
  have hunlisted : a.allowUnlisted = b.allowUnlisted := hon .allowUnlisted
  have hcapture : a.capture = b.capture := hon .capture
  have hdry : a.dryRun = b.dryRun := hon .dryRun
  have hlist : a.list = b.list := hon .list
  cases a
  cases b
  simp_all only

/-- A setting that is made is written with the value that was accepted, and nothing else
changes. -/
theorem frame_of_set
    {s : Setting}
    {value : String}
    (h : a.set s value = some b) :
    (∀ t, b.value? t = if t = s then some value else a.value? t) ∧
    (∀ w, b.isOn w = a.isOn w) ∧
    b.target = a.target := by
  cases s with
  | manifestPath =>
      obtain ⟨-, ⟨rfl⟩⟩ := Option.ite_none_left_eq_some.mp h
      exact ⟨by rintro ⟨⟩ <;> rfl, by rintro ⟨⟩ <;> rfl, rfl⟩
  | tool =>
      cases h
      exact ⟨by rintro ⟨⟩ <;> rfl, by rintro ⟨⟩ <;> rfl, rfl⟩
  | order =>
      obtain ⟨o, ho, rfl⟩ := Option.map_eq_some_iff.mp h
      obtain rfl := (find?_name_eq_some_iff CatalogOrder.ofName?_name).mp ho
      exact ⟨by rintro ⟨⟩ <;> rfl, by rintro ⟨⟩ <;> rfl, rfl⟩
  | output =>
      obtain ⟨f, hf, rfl⟩ := Option.map_eq_some_iff.mp h
      obtain rfl := (find?_name_eq_some_iff OutputFormat.ofName?_name).mp hf
      exact ⟨by rintro ⟨⟩ <;> rfl, by rintro ⟨⟩ <;> rfl, rfl⟩
  | logFormat =>
      obtain ⟨f, hf, rfl⟩ := Option.map_eq_some_iff.mp h
      obtain rfl := (find?_name_eq_some_iff Log.Format.ofName?_name).mp hf
      exact ⟨by rintro ⟨⟩ <;> rfl, by rintro ⟨⟩ <;> rfl, rfl⟩
  | logLevel =>
      obtain ⟨l, hl, rfl⟩ := Option.map_eq_some_iff.mp h
      obtain rfl := (find?_name_eq_some_iff Log.Level.ofName?_name).mp hl
      exact ⟨by rintro ⟨⟩ <;> rfl, by rintro ⟨⟩ <;> rfl, rfl⟩

/-- **To grant a request changes its place and no other.** -/
theorem holds_put_iff
    {r : Request}
    (h : a.put r = some b)
    (q : Request) :
    b.Holds q ↔ q = r ∨ q.slot ≠ r.slot ∧ a.Holds q := by
  cases r with
  | setting s value =>
      obtain ⟨hvalue, hon, htarget⟩ := frame_of_set h
      cases q with
      | setting t value' =>
          by_cases ht : t = s
          · simp [Holds, hvalue, Request.slot, ht, eq_comm]
          · simp [Holds, hvalue, Request.slot, ht]
      | switch t => simp [Holds, hon, Request.slot]
      | target value' => simp [Holds, htarget, Request.slot]
      | information => simp [Holds]
  | switch s =>
      cases h
      cases q with
      | setting t value => cases s <;> cases t <;> simp [turnOn, Holds, value?, Request.slot]
      | switch t => cases s <;> cases t <;> simp [turnOn, Holds, isOn, Request.slot]
      | target value => cases s <;> simp [turnOn, Holds, Request.slot]
      | information => simp [Holds]
  | target value =>
      cases h
      cases q with
      | setting t value' => cases t <;> simp [Holds, value?, Request.slot]
      | switch t => cases t <;> simp [Holds, isOn, Request.slot]
      | target value' => simp [Holds, Request.slot, eq_comm]
      | information => simp [Holds]
  | information => cases h

/-- A request that some record with a manifest path holds can be granted. -/
theorem exists_put
    (a : Arguments)
    {r : Request}
    (hpath : b.manifestPath ≠ "")
    (hholds : b.Holds r) :
    ∃ c, a.put r = some c := by
  cases r with
  | setting s value =>
      cases s with
      | manifestPath =>
          obtain rfl := Option.some.inj hholds
          exact ⟨_, if_neg (by simpa using hpath)⟩
      | tool => exact ⟨_, rfl⟩
      | order =>
          obtain rfl := Option.some.inj hholds
          exact ⟨_, Option.map_eq_some_iff.mpr ⟨_, CatalogOrder.ofName?_name b.order, rfl⟩⟩
      | output =>
          obtain rfl := Option.some.inj hholds
          exact ⟨_, Option.map_eq_some_iff.mpr ⟨_, OutputFormat.ofName?_name b.output, rfl⟩⟩
      | logFormat =>
          obtain ⟨f, -, rfl⟩ := Option.map_eq_some_iff.mp hholds
          exact ⟨_, Option.map_eq_some_iff.mpr ⟨_, Log.Format.ofName?_name f, rfl⟩⟩
      | logLevel =>
          obtain rfl := Option.some.inj hholds
          exact ⟨_, Option.map_eq_some_iff.mpr ⟨_, Log.Level.ofName?_name b.logLevel, rfl⟩⟩
  | switch s => exact ⟨_, rfl⟩
  | target value => exact ⟨_, rfl⟩
  | information => exact hholds.elim

/-- No path is replaced by an empty one. -/
theorem manifestPath_ne_of_put
    {r : Request}
    (h : a.put r = some b)
    (hpath : a.manifestPath ≠ "") :
    b.manifestPath ≠ "" := by
  intro hempty
  have hholds : b.Holds (.setting .manifestPath "") := congrArg some hempty
  rcases (holds_put_iff h _).mp hholds with rfl | ⟨-, hheld⟩
  · cases h
  · exact hpath (Option.some.inj hheld)

end Records

/-- A record meets a list of requests: they are about different places, it holds them, and
the other places are as in the empty record. -/
structure Meets (a : Arguments) (rs : List Request) : Prop where
  holds_iff : ∀ r, a.Holds r ↔
    r ∈ rs ∨ r.slot ∉ rs.map Request.slot ∧ ({} : Arguments).Holds r
  distinct : (rs.map Request.slot).Nodup
  path_ne : a.manifestPath ≠ ""

/-- No record meets these requests, whatever they are continued with. -/
def Unmeetable (rs : List Request) : Prop :=
  ∀ (more : List Request) (a : Arguments), ¬ a.Meets (rs ++ more)

section Meeting

variable {a b : Arguments}
variable {rs qs : List Request}
variable {r : Request}

theorem meets_nil : ({} : Arguments).Meets [] where
  holds_iff := by simp
  distinct := List.nodup_nil
  path_ne := by decide

/-- The order of the requests does not matter. -/
theorem Meets.perm
    (h : a.Meets rs)
    (hperm : rs.Perm qs) :
    a.Meets qs where
  holds_iff q := by
    rw [h.holds_iff, hperm.mem_iff, (hperm.map Request.slot).mem_iff]
  distinct := (hperm.map Request.slot).nodup_iff.mp h.distinct
  path_ne := h.path_ne

/-- One record at most meets a list of requests. -/
theorem Meets.unique
    (ha : a.Meets rs)
    (hb : b.Meets rs) :
    a = b :=
  eq_of_holds fun r => (ha.holds_iff r).trans (hb.holds_iff r).symm

/-- A place that is empty in the empty record is filled exactly if a request is about it. -/
theorem Meets.mem_slots_iff
    (h : a.Meets rs)
    {slot : Slot}
    (hempty : ∀ r : Request, r.slot = slot → ¬ ({} : Arguments).Holds r) :
    slot ∈ rs.map Request.slot ↔ ∃ r : Request, r.slot = slot ∧ a.Holds r := by
  constructor
  · intro hmem
    obtain ⟨r, hr, hslot⟩ := List.mem_map.mp hmem
    exact ⟨r, hslot, (h.holds_iff r).mpr (Or.inl hr)⟩
  · rintro ⟨r, hslot, hholds⟩
    rcases (h.holds_iff r).mp hholds with hr | ⟨-, hdefault⟩
    · exact hslot ▸ List.mem_map_of_mem hr
    · exact absurd hdefault (hempty r hslot)

/-- Another request is met once it has been granted. -/
theorem Meets.concat
    (h : a.Meets rs)
    (hslot : r.slot ∉ rs.map Request.slot)
    (hput : a.put r = some b) :
    b.Meets (rs ++ [r]) where
  holds_iff q := by
    have hmem : q ∈ rs → q.slot ≠ r.slot := by
      rintro hq heq
      exact hslot (heq ▸ List.mem_map_of_mem hq)
    rw [holds_put_iff hput, h.holds_iff]
    simp only [List.mem_append, List.mem_singleton, List.map_append, List.map_cons,
      List.map_nil, not_or]
    tauto
  distinct := by
    rw [List.map_append, List.map_singleton, List.nodup_append]
    refine ⟨h.distinct, List.nodup_singleton _, ?_⟩
    intro slot hmem other hother
    obtain rfl := List.mem_singleton.mp hother
    exact ne_of_mem_of_not_mem hmem hslot
  path_ne := manifestPath_ne_of_put hput h.path_ne

theorem Unmeetable.append
    (h : Unmeetable rs)
    (qs : List Request) :
    Unmeetable (rs ++ qs) := by
  intro more a
  rw [List.append_assoc]
  exact h (qs ++ more) a

theorem Unmeetable.not_meets
    (h : Unmeetable rs) :
    ¬ a.Meets rs := by
  simpa using h [] a

/-- A second request about one place cannot be met. -/
theorem unmeetable_of_mem
    (hslot : r.slot ∈ rs.map Request.slot) :
    Unmeetable (rs ++ [r]) := by
  intro more a h
  have hdistinct := h.distinct
  rw [List.append_assoc, List.map_append, List.nodup_append] at hdistinct
  exact hdistinct.2.2 r.slot hslot r.slot (by simp) rfl

/-- A request that is refused cannot be met. -/
theorem unmeetable_of_put
    (hput : a.put r = none) :
    Unmeetable (rs ++ [r]) := by
  intro more b h
  have hholds : b.Holds r := (h.holds_iff r).mpr (Or.inl (by simp))
  obtain ⟨c, hc⟩ := exists_put a h.path_ne hholds
  rw [hput] at hc
  cases hc

end Meeting
end Arguments
end FeatureLadder
