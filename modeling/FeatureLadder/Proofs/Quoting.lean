import FeatureLadder.Command
import FeatureLadder.Proofs.Pieces

/-!
# What a shell makes of a command line

A command line is read character by character.  Between single quotes every character
stands for itself; a backslash outside of them makes the next character stand for
itself; blanks outside of quotes end words.  A character outside of quotes that would
start an operator, an expansion, a pattern or a comment is refused, so that a line which
is read at all is read without any of these.

A single quote inside a quoted text cannot stand for itself, so it is written as three
steps: the quotes are closed, the single quote follows behind a backslash, and the quotes
are opened again.  The word stays open all the while, which is the invariant of
`run_escaped`.

**Results.**
* `words_arguments`: the part of a command line behind the tool is read as three words.
* `wrapped_quote`: however a text is quoted, as long as it is quoted faithfully, the
  same text comes out.
* `line_delivers_features`: the features arrive as one word, and when they can be told
  apart in it.
-/

namespace FeatureLadder
namespace Posix

/-- How the next character of a command line is taken. -/
inductive Mode where
  | plain
  /-- between single quotes -/
  | quoted
  /-- behind a backslash -/
  | escaped
  deriving DecidableEq

/-- A command line, as far as it has been read. -/
structure Reading where
  /-- the words that have ended -/
  ended : List (List Char) := []
  /-- the word that is open, if one is -/
  current : Option (List Char) := none
  mode : Mode := .plain
  deriving DecidableEq

/-- The characters that stand for themselves only if they are quoted, besides blanks,
the quote and the backslash. -/
def isActive (c : Char) : Bool :=
  ['|', '&', ';', '<', '>', '(', ')', '$', '\x60', '"', '*', '?', '[', ']', '#', '~', '=', '%',
    '!', '^', '\x7b', '\x7d', '\n'].contains c

/-- The characters that stand for themselves only if they are quoted. -/
def isSpecial (c : Char) : Bool :=
  c = ' ' || c = '\t' || c = '\x27' || c = '\\' || isActive c

namespace Reading

/-- Opens a word unless one is open. -/
def opened (r : Reading) : Reading :=
  { r with current := some (r.current.getD []) }

def put (r : Reading) (c : Char) : Reading :=
  { r with current := some (r.current.getD [] ++ [c]) }

def closed (r : Reading) : Reading :=
  { r with ended := r.ended ++ r.current.toList, current := none }

/-- One character outside of quotes. -/
def stepPlain (r : Reading) (c : Char) : Option Reading :=
  if c = '\x27' then some { r.opened with mode := .quoted }
  else if c = '\\' then some { r with mode := .escaped }
  else if c = ' ' || c = '\t' then some r.closed
  else if isActive c then none
  else some (r.put c)

/-- One character; a line feed behind a backslash continues the line. -/
def step (r : Reading) (c : Char) : Option Reading :=
  match r.mode with
  | .plain => r.stepPlain c
  | .quoted => some (if c = '\x27' then { r with mode := .plain } else r.put c)
  | .escaped =>
    some (if c = '\n' then { r with mode := .plain } else { r.put c with mode := .plain })

def run (r : Reading) (s : List Char) : Option Reading :=
  s.foldlM step r

/-- The words, if the line may end here. -/
def finish (r : Reading) : Option (List (List Char)) :=
  if r.mode = .plain then some r.closed.ended else none

end Reading

/-- The words of a command line, if nothing in it is left to be expanded. -/
def words (s : List Char) : Option (List (List Char)) :=
  (Reading.run {} s).bind Reading.finish

namespace Reading

@[simp] theorem run_nil
    (r : Reading) :
    r.run [] = some r := rfl

@[simp] theorem run_cons
    (r : Reading)
    (c : Char)
    (s : List Char) :
    r.run (c :: s) = (r.step c).bind (fun t => t.run s) := rfl

theorem run_append
    (r : Reading)
    (s t : List Char) :
    r.run (s ++ t) = (r.run s).bind (fun u => u.run t) :=
  List.foldlM_append

theorem step_ordinary
    (r : Reading)
    (hr : r.mode = .plain)
    {c : Char}
    (hc : isSpecial c = false) :
    r.step c = some (r.put c) := by
  simp only [isSpecial, Bool.or_eq_false_iff, decide_eq_false_iff_not] at hc
  obtain ⟨⟨⟨⟨hspace, htab⟩, hquote⟩, hback⟩, hactive⟩ := hc
  simp [step, stepPlain, hr, hspace, htab, hquote, hback, hactive]

/-- Characters without a meaning of their own join the open word, or open one. -/
theorem run_ordinary
    (s : List Char) :
    ∀ (r : Reading) (c : Char), r.mode = .plain →
      (∀ d ∈ c :: s, isSpecial d = false) →
      r.run (c :: s) = some { r with current := some (r.current.getD [] ++ c :: s) } := by
  induction s with
  | nil =>
      intro r c hr hs
      rw [run_cons, step_ordinary r hr (hs c (by simp))]
      rfl
  | cons d s ih =>
      intro r c hr hs
      have hrest := ih (r.put c) d hr (fun e he => hs e (List.mem_cons_of_mem _ he))
      rw [run_cons, step_ordinary r hr (hs c (by simp)), Option.bind_some, hrest]
      simp [put]

/-- A word without special characters, up to the blank behind it. -/
theorem run_ordinary_blank
    (ended : List (List Char))
    {word : List Char}
    (hne : word ≠ [])
    (hword : ∀ c ∈ word, isSpecial c = false) :
    ({ ended := ended } : Reading).run (word ++ [' ']) =
      some { ended := ended ++ [word] } := by
  obtain ⟨c, s, rfl⟩ := List.exists_cons_of_ne_nil hne
  rw [run_append, run_ordinary s _ c rfl hword]
  rfl

/-- Between quotes, what is written for a character adds this character to the open
word, and the quotes are open again. -/
theorem run_escape
    (r : Reading)
    (word : List Char)
    (c : Char) :
    ({ r with current := some word, mode := .quoted }).run (escapeSingle c) =
      some { r with current := some (word ++ [c]), mode := .quoted } := by
  unfold escapeSingle
  split
  · next hc =>
    subst hc
    simp [step, stepPlain, put, opened]
  · next hc =>
    simp [step, put, hc]

/-- Between quotes, what is written for a text adds this text to the open word. -/
theorem run_escaped
    (r : Reading)
    (s : List Char) :
    ∀ word : List Char,
      ({ r with current := some word, mode := .quoted }).run (s.flatMap escapeSingle) =
        some { r with current := some (word ++ s), mode := .quoted } := by
  induction s with
  | nil =>
      intro word
      simp
  | cons c s ih =>
      intro word
      rw [List.flatMap_cons, run_append, run_escape, Option.bind_some, ih]
      simp

/-- **A quoted text is one word**, or goes on with the word that is open. -/
theorem run_singleQuoted
    (r : Reading)
    (hr : r.mode = .plain)
    (s : List Char) :
    r.run (singleQuoted s) =
      some { r with current := some (r.current.getD [] ++ s) } := by
  have hquoted : singleQuoted s = '\x27' :: (s.flatMap escapeSingle ++ ['\x27']) := rfl
  have hopen :
      r.step '\x27' =
        some { r with current := some (r.current.getD []), mode := .quoted } := by
    simp [step, stepPlain, opened, hr]
  rw [hquoted, run_cons, hopen, Option.bind_some, run_append, run_escaped, Option.bind_some]
  simp [step, hr]

end Reading

/-- The part of a command line behind the tool. -/
def argumentsText (quoted : List Char) : List Char :=
  "test --features ".toList ++ quoted

/-- **The part behind the tool is read as three words.** -/
theorem words_arguments
    (s : List Char) :
    words (argumentsText (singleQuoted s)) =
      some ["test".toList, "--features".toList, s] := by
  have hsplit :
      argumentsText (singleQuoted s) =
        ("test".toList ++ [' ']) ++ (("--features".toList ++ [' ']) ++ singleQuoted s) := rfl
  have htest :
      Reading.run {} ("test".toList ++ [' ']) = some { ended := ["test".toList] } :=
    Reading.run_ordinary_blank [] (by decide) (by simp [isSpecial, isActive])
  have hoption :
      Reading.run { ended := ["test".toList] } ("--features".toList ++ [' ']) =
        some { ended := ["test".toList, "--features".toList] } :=
    Reading.run_ordinary_blank ["test".toList] (by decide) (by simp [isSpecial, isActive])
  rw [words, hsplit, Reading.run_append, htest, Option.bind_some, Reading.run_append, hoption,
    Option.bind_some, Reading.run_singleQuoted _ rfl]
  rfl

/-- What a quoting library answers: the text as it was given, or a text of its own. -/
inductive Answer where
  | borrowed (s : List Char)
  | owned (s : List Char)

/-- A text as one quoted word: a text that came back as it was given is put between
quotes, one that the library wrote stays as it is. -/
def Answer.wrapped : Answer → List Char
  | .borrowed s => '\x27' :: s ++ ['\x27']
  | .owned s => s

/-- What is relied on when a text is quoted: it comes back unchanged only if it holds no
single quote, whatever else is special to the library, and otherwise between single
quotes. -/
structure Faithful (quote : List Char → Answer) : Prop where
  of_borrowed : ∀ s t : List Char, quote s = .borrowed t → t = s ∧ '\x27' ∉ s
  of_owned : ∀ s t : List Char, quote s = .owned t → t = singleQuoted s

/-- A text without single quotes stands between the quotes as it is. -/
theorem singleQuoted_of_not_mem
    {s : List Char}
    (hs : '\x27' ∉ s) :
    singleQuoted s = '\x27' :: s ++ ['\x27'] := by
  have hescape : s.flatMap escapeSingle = s := by
    induction s with
    | nil => rfl
    | cons c s ih =>
        have hc : c ≠ '\x27' := fun h => hs (by simp [h])
        have hrest : '\x27' ∉ s := fun h => hs (List.mem_cons_of_mem _ h)
        rw [List.flatMap_cons, ih hrest]
        simp [escapeSingle, hc]
  rw [singleQuoted, hescape]

/-- Either answer of a faithful library leads to the same quoted word. -/
theorem wrapped_quote
    {quote : List Char → Answer}
    (hquote : Faithful quote)
    (s : List Char) :
    (quote s).wrapped = singleQuoted s := by
  cases h : quote s with
  | borrowed t =>
      obtain ⟨rfl, hmem⟩ := hquote.of_borrowed s t h
      exact (singleQuoted_of_not_mem hmem).symm
  | owned t =>
      exact hquote.of_owned s t h

/-- Quotes a text only if it is empty or something in it is special. -/
def minimalQuote (s : List Char) : Answer :=
  if s.isEmpty || s.any isSpecial then .owned (singleQuoted s) else .borrowed s

theorem faithful_minimalQuote : Faithful minimalQuote where
  of_borrowed s t h := by
    unfold minimalQuote at h
    split at h
    · cases h
    · next hplain =>
      cases h
      refine ⟨rfl, fun hquote => hplain ?_⟩
      rw [Bool.or_eq_true]
      exact Or.inr (List.any_eq_true.mpr ⟨_, hquote, by decide⟩)
  of_owned s t h := by
    unfold minimalQuote at h
    split at h
    · cases h
      rfl
    · cases h

end Posix

namespace Command

theorem featuresArg_toList
    (c : Command) :
    c.featuresArg.toList = [' '].intercalate (c.features.map String.toList) :=
  String.toList_intercalate

/-- The features can be told apart in their argument if there are any and none of them
holds a blank. -/
theorem pieces_featuresArg_iff
    (c : Command) :
    (Text.pieces ' ' c.featuresArg.toList).map String.ofList = c.features ↔
      c.features ≠ [] ∧ ∀ f ∈ c.features, ' ' ∉ f.toList := by
  have hback :
      (Text.pieces ' ' c.featuresArg.toList).map String.ofList = c.features ↔
        Text.pieces ' ' c.featuresArg.toList = c.features.map String.toList := by
    constructor
    · intro h
      rw [← h, List.map_map]
      simp
    · intro h
      rw [h, List.map_map]
      simp
  rw [hback, featuresArg_toList, Text.pieces_intercalate_iff]
  simp

/-- A command line is the tool, a blank, and the part behind the tool. -/
theorem line_toList
    (c : Command) :
    c.line.toList =
      c.tool.toList ++ ' ' :: Posix.argumentsText (singleQuoted c.featuresArg.toList) := by
  have hquoted :
      (String.ofList (singleQuoted c.featuresArg.toList)).toList =
        singleQuoted c.featuresArg.toList :=
    String.toList_ofList
  rw [line, String.toList_append, String.toList_append, hquoted, List.append_assoc]
  rfl

/-- **A command line delivers its features.**  Whatever the tool and the features are, the
line is the tool, a blank, and a text that a shell reads as exactly three words, the last
of which is the argument with all features; cutting this argument at its blanks gives the
features back if and only if there are any and none of them holds a blank.  The answer of
the library that quotes the argument is taken as it comes, as long as it is faithful. -/
theorem line_delivers_features
    (quote : List Char → Posix.Answer)
    (hquote : Posix.Faithful quote)
    (c : Command) :
    (c.line.toList =
      c.tool.toList ++
        ' ' :: Posix.argumentsText (quote c.featuresArg.toList).wrapped)
    ∧
    (Posix.words (Posix.argumentsText (quote c.featuresArg.toList).wrapped) =
      some ["test".toList, "--features".toList, c.featuresArg.toList])
    ∧
    ((Text.pieces ' ' c.featuresArg.toList).map String.ofList = c.features ↔
      c.features ≠ [] ∧ ∀ f ∈ c.features, ' ' ∉ f.toList) := by
  rw [Posix.wrapped_quote hquote]
  refine ⟨?_, Posix.words_arguments _, pieces_featuresArg_iff c⟩
  exact line_toList c

/-- Features that try to leave their quotes arrive like all others. -/
theorem line_delivers_hostile_features :
    Posix.Faithful Posix.minimalQuote ∧
    ∃ c : Command, c.features = ["v1-0';$(x)", "v2-0\\\n"] ∧
      Posix.words
          (Posix.argumentsText (Posix.minimalQuote c.featuresArg.toList).wrapped) =
        some ["test".toList, "--features".toList, c.featuresArg.toList] ∧
      (Text.pieces ' ' c.featuresArg.toList).map String.ofList = c.features := by
  obtain ⟨-, hwords, hpieces⟩ :=
    line_delivers_features Posix.minimalQuote Posix.faithful_minimalQuote
      { tool := "cargo", features := ["v1-0';$(x)", "v2-0\\\n"] }
  exact ⟨Posix.faithful_minimalQuote, _, rfl, hwords, hpieces.mpr (by decide)⟩

end Command
end FeatureLadder
