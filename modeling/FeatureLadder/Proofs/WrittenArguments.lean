import FeatureLadder.Proofs.LineSplitting
import Mathlib.Data.List.Perm.Basic

/-!
# Arguments that are written out

**Input**: a record of arguments, with any texts in it.

Every setting of a record can be written as an option with its value behind an equals sign,
every switch that is on as a flag, and the target behind a lone `--`.  Texts need not be
quoted or checked: what stands behind the first equals sign is taken as it is, and so is
what stands behind `--`.

What is written asks for exactly what the record holds (`mem_requests_written_iff`), so the
record meets it.  Two records cannot be had: one without a manifest path, and one that asks
for a listing and for something only a run can do.

**Results.**
* `meets_written`: a record meets what is written for it.
* `written_read_back`: what is written for a record is read as that record, and only records
  that can be written are read.
-/

namespace FeatureLadder
namespace Arguments

/-- A record that can be asked for. -/
structure Expressible (a : Arguments) : Prop where
  path_ne : a.manifestPath ≠ ""
  consistent :
    a.list = true → a.dryRun = false ∧ a.capture = false ∧ a.allowUnlisted = false

/-- The switches in the order in which they are written. -/
def Switch.all : List Switch :=
  [.allowUnlisted, .capture, .dryRun, .list]

/-- The options and flags that a record is written with. -/
def writtenOptions (a : Arguments) : List String :=
  ["--manifest-path=" ++ a.manifestPath, "--tool=" ++ a.tool, "--order=" ++ a.order.name,
    "--output=" ++ a.output.name, "--log-level=" ++ a.logLevel.name] ++
  (match a.logFormat with
    | none => []
    | some format => ["--log-format=" ++ format.name]) ++
  (Switch.all.filter a.isOn).map fun s => "--" ++ s.name

def writtenTarget (a : Arguments) : List String :=
  match a.target with
  | none => []
  | some target => ["--", target]

/-- The settings in the order in which they are written. -/
def Setting.all : List Setting :=
  [.manifestPath, .tool, .order, .output, .logLevel, .logFormat]

def writtenGroups (a : Arguments) : List Group :=
  (Setting.all.filterMap fun s => (a.value? s).map (Group.joined s)) ++
    (Switch.all.filter a.isOn).map fun s => Group.flag (.switch s)

/-- The command line that a record is written with. -/
def writtenLine (a : Arguments) : Line where
  groups := a.writtenGroups
  escaped := a.target.map ([·])

variable {a : Arguments}

theorem contradictory_eq_false_iff :
    a.contradictory = false ↔
      (a.list = true → a.dryRun = false ∧ a.capture = false ∧ a.allowUnlisted = false) := by
  cases hlist : a.list <;> simp [contradictory, hlist, and_assoc]

theorem Setting.mem_all
    (s : Setting) :
    s ∈ Setting.all := by
  cases s <;> decide

theorem Switch.mem_all
    (s : Switch) :
    s ∈ Switch.all := by
  cases s <;> decide

theorem requests_writtenLine :
    a.writtenLine.requests =
      (Setting.all.filterMap fun s => (a.value? s).map (Request.setting s)) ++
        (Switch.all.filter a.isOn).map Request.switch ++
        a.target.toList.map Request.target := by
  have htarget : ((a.target.map ([·])).getD []) = a.target.toList := by
    cases a.target <;> rfl
  rw [Line.requests, writtenLine, htarget, writtenGroups, List.map_append, List.map_filterMap,
    List.map_map]
  simp only [Option.map_map]
  rfl

/-- **What is written for a record asks for exactly what the record holds.** -/
theorem mem_requests_written_iff
    (r : Request) :
    r ∈ a.writtenLine.requests ↔ a.Holds r := by
  rw [requests_writtenLine]
  cases r with
  | setting s value => simp [Holds, Setting.mem_all]
  | switch s => simp [Holds, Switch.mem_all]
  | target value => simp [Holds]
  | information => simp [Holds]

/-- A record holds one request at most about each place. -/
theorem Holds.eq_of_slot
    {r q : Request}
    (hr : a.Holds r)
    (hq : a.Holds q)
    (hslot : r.slot = q.slot) :
    r = q := by
  cases r <;> cases q <;> simp_all [Holds, Request.slot]

/-- A place that is filled without arguments is filled in every record. -/
theorem exists_holds_of_default
    (a : Arguments)
    {r : Request}
    (h : ({} : Arguments).Holds r) :
    ∃ q : Request, q.slot = r.slot ∧ a.Holds q := by
  cases r with
  | setting s value =>
      cases hvalue : a.value? s with
      | some value' => exact ⟨.setting s value', rfl, hvalue⟩
      | none =>
          cases s with
          | logFormat => cases h
          | manifestPath | tool | order | output | logLevel => cases hvalue
  | switch s => cases s <;> cases h
  | target value => cases h
  | information => exact h.elim

theorem nodup_requests_written :
    a.writtenLine.requests.Nodup := by
  have hsettings :
      (Setting.all.filterMap fun s => (a.value? s).map (Request.setting s)).Nodup := by
    refine List.Nodup.filterMap ?_ (by decide)
    intro s t r hs ht
    obtain ⟨_, -, rfl⟩ := Option.map_eq_some_iff.mp hs
    obtain ⟨_, -, h⟩ := Option.map_eq_some_iff.mp ht
    exact (Request.setting.inj h).1.symm
  have hswitches : ((Switch.all.filter a.isOn).map Request.switch).Nodup :=
    List.Nodup.map (fun s t h => Request.switch.inj h) (List.Nodup.filter _ (by decide))
  have htarget : (a.target.toList.map Request.target).Nodup := by
    cases a.target <;> simp
  have hapart :
      List.Disjoint (Setting.all.filterMap fun s => (a.value? s).map (Request.setting s))
        ((Switch.all.filter a.isOn).map Request.switch) := by
    intro r hsetting hswitch
    obtain ⟨s, -, hs⟩ := List.mem_filterMap.mp hsetting
    obtain ⟨_, -, rfl⟩ := Option.map_eq_some_iff.mp hs
    simp at hswitch
  rw [requests_writtenLine]
  refine List.Nodup.append (List.Nodup.append hsettings hswitches hapart) htarget ?_
  intro r hr htarget
  obtain ⟨value, -, rfl⟩ := List.mem_map.mp htarget
  simp at hr

theorem meets_written
    (hpath : a.manifestPath ≠ "") :
    a.Meets a.writtenLine.requests where
  holds_iff r := by
    rw [mem_requests_written_iff]
    constructor
    · exact Or.inl
    · rintro (hholds | ⟨hslot, hdefault⟩)
      · exact hholds
      · obtain ⟨q, hq, hholds⟩ := exists_holds_of_default a hdefault
        refine absurd ?_ hslot
        rw [← hq]
        exact List.mem_map_of_mem ((mem_requests_written_iff q).mpr hholds)
  distinct := by
    refine List.Nodup.map_on ?_ nodup_requests_written
    intro r hr q hq hslot
    rw [mem_requests_written_iff] at hr hq
    exact hr.eq_of_slot hq hslot
  path_ne := hpath

def Group.token : Group → String
  | .flag f => f.text
  | .joined s value => "--" ++ s.name ++ "=" ++ value
  | .apart s _ _ => "--" ++ s.name
  | .positional value _ => value

theorem flatMap_spelled_of_single
    {gs : List Group}
    (h : ∀ g ∈ gs, g.spelled = [g.token]) :
    gs.flatMap Group.spelled = gs.map Group.token := by
  rw [List.map_eq_flatMap]
  exact List.flatMap_congr h

theorem single_of_mem_writtenGroups
    {g : Group}
    (hg : g ∈ a.writtenGroups) :
    g.spelled = [g.token] := by
  rcases List.mem_append.mp hg with hg | hg
  · obtain ⟨s, -, hs⟩ := List.mem_filterMap.mp hg
    obtain ⟨value, -, rfl⟩ := Option.map_eq_some_iff.mp hs
    rfl
  · obtain ⟨s, -, rfl⟩ := List.mem_map.mp hg
    rfl

theorem map_token_writtenGroups :
    a.writtenGroups.map Group.token = a.writtenOptions := by
  rw [writtenGroups, writtenOptions, List.map_append, List.map_map]
  congr 1
  have hjoined : ∀ s value, Group.token (.joined s value) = "--" ++ s.name ++ "=" ++ value :=
    fun _ _ => rfl
  cases hformat : a.logFormat with
  | none => simp [Setting.all, value?, hformat, hjoined, Setting.name]
  | some format => simp [Setting.all, value?, hformat, hjoined, Setting.name]

theorem escape_writtenLine :
    Line.escape a.writtenLine.escaped = a.writtenTarget := by
  rw [writtenLine, writtenTarget]
  cases a.target <;> rfl

/-- The order of the options does not matter. -/
theorem parse_written
    (h : a.Expressible)
    {options : List String}
    (hperm : options.Perm a.writtenOptions) :
    parse (options ++ a.writtenTarget) = .ok a := by
  have hcomp :
      Relation.Comp (· = List.map Group.token ·) (List.Perm · ·) options a.writtenGroups := by
    rw [List.eq_map_comp_perm]
    simpa only [map_token_writtenGroups] using hperm
  obtain ⟨gs, rfl, hgs⟩ := hcomp
  have hsingle : ∀ g ∈ gs, g.spelled = [g.token] := fun g hg =>
    single_of_mem_writtenGroups (hgs.mem_iff.mp hg)
  have hspelled :
      Line.spelled ⟨gs, a.writtenLine.escaped⟩ = gs.map Group.token ++ a.writtenTarget := by
    rw [Line.spelled, flatMap_spelled_of_single hsingle, escape_writtenLine]
  have hrequests :
      (Line.requests a.writtenLine).Perm (Line.requests ⟨gs, a.writtenLine.escaped⟩) :=
    (hgs.symm.map Group.request).append_right _
  rw [← hspelled, parse_spelled_iff]
  exact ⟨(meets_written h.path_ne).perm hrequests, contradictory_eq_false_iff.mpr h.consistent⟩

theorem expressible_of_parse
    {arguments : List String}
    (h : parse arguments = .ok a) :
    a.Expressible := by
  obtain ⟨l, -, hmeets, hconsistent⟩ := (parse_eq_ok_iff arguments a).mp h
  exact ⟨hmeets.path_ne, contradictory_eq_false_iff.mp hconsistent⟩

/-- **What is written for a record is read as that record**, with the options in the given
order or in any other, and no record is read that cannot be written. -/
theorem written_read_back
    (a : Arguments) :
    (a.Expressible →
      ∀ options, options.Perm a.writtenOptions →
        parse (options ++ a.writtenTarget) = .ok a) ∧
    ∀ arguments, parse arguments = .ok a → a.Expressible :=
  ⟨fun h _ hperm => parse_written h hperm, fun _ h => expressible_of_parse h⟩

/-- A path that looks like an option, an empty tool and a target that looks like a flag, with
the flags in front; and a record that cannot be had. -/
theorem written_read_back_hostile :
    ∃ a : Arguments,
      a.manifestPath = "--tool=x" ∧ a.tool = "" ∧ a.target = some "--list" ∧ a.list = false ∧
      a.Expressible ∧
      parse (["--allow-unlisted", "--capture"] ++
          ["--manifest-path=--tool=x", "--tool=", "--order=version", "--output=json",
            "--log-level=trace", "--log-format=text"] ++ ["--", "--list"]) = .ok a ∧
      ∀ arguments, parse arguments ≠ .ok { manifestPath := "" } := by
  let a : Arguments :=
    { target := some "--list", manifestPath := "--tool=x", tool := "", allowUnlisted := true,
      order := .version, capture := true, output := .json, logFormat := some .text,
      logLevel := .trace }
  have hexpressible : a.Expressible := ⟨by decide, by decide⟩
  have hwritten :
      a.writtenOptions =
        ["--manifest-path=--tool=x", "--tool=", "--order=version", "--output=json",
          "--log-level=trace", "--log-format=text"] ++ ["--allow-unlisted", "--capture"] := by
    decide
  have htarget : a.writtenTarget = ["--", "--list"] := rfl
  have hread := (written_read_back a).1 hexpressible
  rw [hwritten, htarget] at hread
  refine ⟨a, rfl, rfl, rfl, rfl, hexpressible, hread _ List.perm_append_comm, ?_⟩
  intro arguments h
  exact ((written_read_back _).2 arguments h).path_ne rfl

end Arguments
end FeatureLadder
