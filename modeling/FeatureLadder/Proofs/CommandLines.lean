import FeatureLadder.Proofs.Requests
import Mathlib.Data.List.TakeWhile

/-!
# Command lines, group by group

A command line falls into groups: a flag, an option joined to its value by an equals sign,
an option followed by its value, or a positional argument.  A lone `--` may follow them, and
behind it every argument is positional.  Each group makes one request (`Group.request`).

Which of these an argument belongs to is seen from its first characters alone, and what is
written for a group is seen as such.

**Results.**
* `ofChars_long`, `ofChars_long_value`, `eq_of_ofChars_eq_long`: the arguments that are read
  as a long name.
* `ofChars_eq_plain_iff`, `ofChars_eq_escape_iff`: the arguments that are read as values or
  positional, and the one that is read as the end of the options.
-/

namespace FeatureLadder
namespace Arguments

/-- An argument that is not taken for an option: it starts with no hyphen, or is nothing
but a hyphen. -/
def IsPlain (s : String) : Prop :=
  s.toList.head? ≠ some '-' ∨ s = "-"

instance (s : String) : Decidable (IsPlain s) :=
  inferInstanceAs (Decidable (_ ∨ _))

/-- An option without a value; help and version have a long and a short form. -/
inductive Flag where
  | switch (s : Switch)
  | help (long : Bool)
  | version (long : Bool)
  deriving DecidableEq

def Flag.text : Flag → String
  | .switch s => "--" ++ s.name
  | .help true => "--help"
  | .help false => "-h"
  | .version true => "--version"
  | .version false => "-V"

/-- Arguments that belong together. -/
inductive Group where
  | flag (f : Flag)
  /-- an option and its value, with an equals sign between them -/
  | joined (s : Setting) (value : String)
  /-- an option and its value as an argument of its own -/
  | apart (s : Setting) (value : String) (plain : IsPlain value)
  | positional (value : String) (plain : IsPlain value)

namespace Group

def spelled : Group → List String
  | .flag f => [f.text]
  | .joined s value => ["--" ++ s.name ++ "=" ++ value]
  | .apart s value _ => ["--" ++ s.name, value]
  | .positional value _ => [value]

/-- What a group asks for. -/
def request : Group → Request
  | .flag (.switch s) => .switch s
  | .flag _ => .information
  | .joined s value => .setting s value
  | .apart s value _ => .setting s value
  | .positional value _ => .target value

end Group

/-- A command line: groups, and what stands behind a lone `--` if there is one. -/
structure Line where
  groups : List Group
  escaped : Option (List String) := none

namespace Line

/-- The arguments behind the lone `--`, with the mark itself. -/
def escape : Option (List String) → List String
  | none => []
  | some rest => "--" :: rest

/-- The arguments of a command line. -/
def spelled (l : Line) : List String :=
  l.groups.flatMap Group.spelled ++ escape l.escaped

def requests (l : Line) : List Request :=
  l.groups.map Group.request ++ (l.escaped.getD []).map Request.target

end Line

section Tokens

theorem Name.text_toList_ne_nil
    (n : Name) :
    n.text.toList ≠ [] := by
  cases n with
  | setting s => cases s <;> decide
  | switch s => cases s <;> decide
  | help => decide
  | version => decide

theorem Name.equals_not_mem_text
    (n : Name) :
    '=' ∉ n.text.toList := by
  cases n with
  | setting s => cases s <;> decide
  | switch s => cases s <;> decide
  | help => decide
  | version => decide

/-- Two hyphens and something behind them are a long name, with a value if there is an
equals sign. -/
theorem ofChars_eq_long_iff
    {s : List Char}
    {name : String}
    {value : Option String} :
    Token.ofChars s = .long name value ↔
      ∃ rest, rest ≠ [] ∧ s = '-' :: '-' :: rest ∧
        name = String.ofList (rest.takeWhile (· ≠ '=')) ∧
        value = (rest.dropWhile (· ≠ '=')).tail?.map String.ofList := by
  constructor
  · intro h
    unfold Token.ofChars at h
    split at h
    · cases h
    · next rest hne =>
      obtain ⟨hname, hvalue⟩ := Token.long.inj h
      refine ⟨rest, hne, rfl, hname.symm, hvalue.symm.trans ?_⟩
      cases rest.dropWhile (· ≠ '=') <;> rfl
    · cases h
    · cases h
  · rintro ⟨rest, hne, rfl, rfl, rfl⟩
    rw [Token.ofChars]
    · cases rest.dropWhile (· ≠ '=') <;> rfl
    · exact hne

theorem ne_equals_of_mem
    {name : String}
    (hequals : '=' ∉ name.toList) :
    ∀ c ∈ name.toList, decide (c ≠ '=') = true := by
  intro c hc
  simpa using ne_of_mem_of_not_mem hc hequals

/-- A long name without equals sign has no value. -/
theorem ofChars_long
    {name : String}
    (hne : name.toList ≠ [])
    (hequals : '=' ∉ name.toList) :
    Token.ofChars ("--" ++ name).toList = .long name none := by
  rw [ofChars_eq_long_iff]
  refine ⟨name.toList, hne, by simp, ?_, ?_⟩
  · rw [List.takeWhile_eq_self_iff.mpr (ne_equals_of_mem hequals), String.ofList_toList]
  · rw [List.dropWhile_eq_nil_iff.mpr (ne_equals_of_mem hequals)]
    rfl

/-- The value of a long name starts behind the first equals sign. -/
theorem ofChars_long_value
    {name : String}
    (hequals : '=' ∉ name.toList)
    (value : String) :
    Token.ofChars ("--" ++ name ++ "=" ++ value).toList = .long name (some value) := by
  rw [ofChars_eq_long_iff]
  refine ⟨name.toList ++ '=' :: value.toList, by simp, by simp, ?_, ?_⟩
  · rw [List.takeWhile_append_of_pos (ne_equals_of_mem hequals)]
    simp
  · rw [List.dropWhile_append_of_pos (ne_equals_of_mem hequals)]
    simp

/-- A long name is written with two hyphens, and its value behind an equals sign. -/
theorem eq_of_ofChars_eq_long
    {s name : String}
    {value : Option String}
    (h : Token.ofChars s.toList = .long name value) :
    s = "--" ++ name ++ (value.map ("=" ++ ·)).getD "" := by
  obtain ⟨rest, -, hs, rfl, rfl⟩ := ofChars_eq_long_iff.mp h
  have hrest : rest = rest.takeWhile (· ≠ '=') ++ rest.dropWhile (· ≠ '=') :=
    List.takeWhile_append_dropWhile.symm
  rw [← String.toList_inj, hs]
  cases hdrop : rest.dropWhile (· ≠ '=') with
  | nil =>
      rw [hdrop] at hrest
      simpa using hrest
  | cons c value =>
      have hc := List.head?_dropWhile_not (· ≠ '=') rest
      rw [hdrop] at hrest hc
      obtain rfl : c = '=' := by simpa using hc
      simpa using hrest

theorem ofChars_eq_escape_iff
    {s : String} :
    Token.ofChars s.toList = .escape ↔ s = "--" := by
  rw [← String.toList_inj]
  unfold Token.ofChars
  split
  all_goals simp_all

theorem ofChars_eq_plain_iff
    {s : String} :
    Token.ofChars s.toList = .plain ↔ IsPlain s := by
  have hhyphen : s = "-" ↔ s.toList = ['-'] := by
    rw [← String.toList_inj]
    rfl
  rw [IsPlain, hhyphen]
  unfold Token.ofChars
  split
  · simp_all
  · simp_all
  · simp_all
  · next hletter =>
    match hs : s.toList with
    | [] => simp
    | [c] => simp [em']
    | c :: d :: rest =>
        have hc : c ≠ '-' := fun hc => hletter d rest (by rw [hs, hc])
        simp [hc]

end Tokens

end Arguments
end FeatureLadder
