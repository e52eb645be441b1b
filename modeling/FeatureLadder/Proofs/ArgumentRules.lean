import FeatureLadder.Command

/-!
# What a program makes of double quotes

A program that is started from `cmd` splits its command line into arguments by itself.  The
line is read character by character.  A double quote opens and closes quotes; blanks outside of
quotes end arguments.  A backslash stands for itself unless a double quote follows: of the
backslashes right in front of a double quote every second one is dropped, and if their number
is odd, the double quote stands for itself.

A double quote in a text is therefore written behind a backslash.  This is not enough when the
text itself has backslashes there: they are read as one run with the written one, or with none
before the closing quote.  What carries the proof that nothing makes up for this is a weight,
two for a backslash and one for a double quote.  Reading a backslash adds two to the weight,
reading a double quote takes one away for each backslash right in front of it, and nothing else
changes it:

* the weight of what is read, and what the backslashes of the text lose in front of double
  quotes, are together the weight of the text;
* so the text comes back only if nothing is lost, and then it does.

**Results.**
* `weight_quote`, `weight_run_escape`: what a double quote, and what is written for one
  character, does to the weight.
* `weight_arguments`: what the weight of a written text becomes.
* `arguments_doubleQuoted_iff`: which texts are read back as one argument.
* `double_quotes_deliver_iff`: which features are delivered as one argument.
* `double_quotes_swallow_backslash`: not all are.
-/

namespace FeatureLadder
namespace Cmd

/-- A command line, as far as it has been read. -/
structure Reading where
  /-- the arguments that have ended -/
  ended : List (List Char) := []
  /-- the argument that is open, if one is -/
  current : Option (List Char) := none
  quoted : Bool := false
  /-- the number of backslashes right in front of the next character -/
  backslashes : Nat := 0
  deriving DecidableEq

namespace Reading

/-- Adds a text to the open argument, or opens one. -/
def put (r : Reading) (text : List Char) : Reading :=
  { r with current := some (r.current.getD [] ++ text) }

def closed (r : Reading) : Reading :=
  { r with ended := r.ended ++ r.current.toList, current := none }

/-- The backslashes stand for themselves: no double quote follows. -/
def settled (r : Reading) : Reading :=
  if r.backslashes = 0 then r
  else { r.put (List.replicate r.backslashes '\\') with backslashes := 0 }

/-- A double quote: half of the backslashes stay; behind an even number of them it opens or
closes quotes, behind an odd number it stands for itself. -/
def quote (r : Reading) : Reading :=
  let halved := { r.put (List.replicate (r.backslashes / 2) '\\') with backslashes := 0 }
  if r.backslashes % 2 = 0 then { halved with quoted := !r.quoted } else halved.put ['"']

/-- A character that is neither a backslash nor a double quote. -/
def plain (r : Reading) (c : Char) : Reading :=
  if (c = ' ' ∨ c = '\t') ∧ r.quoted = false then r.closed else r.put [c]

def step (r : Reading) (c : Char) : Reading :=
  if c = '\\' then { r with backslashes := r.backslashes + 1 }
  else if c = '"' then r.quote
  else r.settled.plain c

def run (r : Reading) (s : List Char) : Reading :=
  s.foldl step r

end Reading

/-- The arguments of a command line. -/
def arguments (s : List Char) : List (List Char) :=
  (Reading.run {} s).settled.closed.ended

theorem doubleQuoted_eq
    (s : List Char) :
    doubleQuoted s = '"' :: (s.flatMap escapeDouble ++ ['"']) := rfl

/-- The backslashes right in front of what follows a character, of which `n` stand in front of the
character itself. -/
def following (n : Nat) (c : Char) : Nat :=
  if c = '\\' then n + 1 else 0

/-- What `n` backslashes lose in front of a character when they are written and read. -/
def lost (n : Nat) (c : Char) : Nat :=
  if c = '"' then n else 0

/-- What a text behind `n` backslashes loses when it is written and read: one for each
backslash in front of a double quote, the closing one included. -/
def loss : Nat → List Char → Nat
  | n, [] => n
  | n, c :: s => lost n c + loss (following n c) s

/-- Two for a backslash, one for a double quote. -/
def weight (s : List Char) : Nat :=
  2 * s.count '\\' + s.count '"'

theorem weight_append
    (s t : List Char) :
    weight (s ++ t) = weight s + weight t := by
  simp only [weight, List.count_append]
  omega

theorem weight_cons
    (c : Char)
    (s : List Char) :
    weight (c :: s) = weight [c] + weight s :=
  weight_append [c] s

theorem weight_replicate
    (n : Nat) :
    weight (List.replicate n '\\') = 2 * n := by
  simp [weight, List.count_replicate]

theorem weight_singleton
    {c : Char}
    (hback : c ≠ '\\')
    (hquote : c ≠ '"') :
    weight [c] = 0 := by
  simp [weight, hback, hquote]

namespace Reading

/-- The weight of what has been read, its last backslashes counted as if they were to stand for
themselves. -/
def weight (r : Reading) : Nat :=
  Cmd.weight (r.ended.flatten ++ r.current.getD []) + 2 * r.backslashes

theorem weight_put
    (r : Reading)
    (text : List Char) :
    (r.put text).weight = r.weight + Cmd.weight text := by
  simp only [weight, put, Option.getD_some, ← List.append_assoc, weight_append]
  omega

theorem weight_closed
    (r : Reading) :
    r.closed.weight = r.weight := by
  cases hcurrent : r.current <;> simp [weight, closed, hcurrent]

theorem weight_settled
    (r : Reading) :
    r.settled.weight = r.weight := by
  unfold settled
  split
  · rfl
  · have hput := weight_put { r with backslashes := 0 } (List.replicate r.backslashes '\\')
    rw [weight_replicate] at hput
    exact hput

theorem backslashes_quote
    (r : Reading) :
    r.quote.backslashes = 0 := by
  unfold quote
  dsimp only
  split <;> rfl

theorem backslashes_settled
    (r : Reading) :
    r.settled.backslashes = 0 := by
  unfold settled
  split
  · assumption
  · rfl

theorem backslashes_settled_plain
    (r : Reading)
    (c : Char) :
    (r.settled.plain c).backslashes = 0 := by
  unfold plain
  split <;> exact backslashes_settled r

/-- At the end of a line, all that was read is in the arguments. -/
theorem weight_ended
    (r : Reading) :
    Cmd.weight r.settled.closed.ended.flatten = r.weight := by
  have hclosed : r.settled.closed.weight = Cmd.weight r.settled.closed.ended.flatten := by
    simp [weight, closed, backslashes_settled]
  rw [← hclosed, weight_closed, weight_settled]

/-- A backslash counts as one that stands for itself. -/
theorem weight_backslash
    (r : Reading) :
    ({ r with backslashes := r.backslashes + 1 } : Reading).weight = r.weight + 2 := by
  simp only [weight]
  omega

/-- **A double quote takes one away for each backslash in front of it**, whether their number is
even or odd. -/
theorem weight_quote
    (r : Reading) :
    r.quote.weight + r.backslashes = r.weight := by
  have hhalved :=
    weight_put { r with backslashes := 0 } (List.replicate (r.backslashes / 2) '\\')
  have hbare : r.weight = ({ r with backslashes := 0 } : Reading).weight + 2 * r.backslashes := by
    simp [weight]
  rw [weight_replicate] at hhalved
  unfold quote
  dsimp only
  split
  · next heven =>
    change ({ r with backslashes := 0 }.put _).weight + _ = _
    rw [hhalved]
    omega
  · next hodd =>
    rw [weight_put]
    change ({ r with backslashes := 0 }.put _).weight + _ + _ = _
    rw [hhalved]
    have hself : Cmd.weight ['"'] = 1 := rfl
    omega

theorem weight_settled_plain
    (r : Reading)
    {c : Char}
    (hback : c ≠ '\\')
    (hquote : c ≠ '"') :
    (r.settled.plain c).weight = r.weight := by
  unfold plain
  split
  · rw [weight_closed, weight_settled]
  · rw [weight_put, weight_settled, weight_singleton hback hquote, Nat.add_zero]

theorem run_append
    (r : Reading)
    (s t : List Char) :
    r.run (s ++ t) = (r.run s).run t :=
  List.foldl_append

/-- What is written for a character: a backslash goes on counting, a double quote comes behind a
backslash more, and anything else lets the backslashes stand. -/
theorem run_escape_cases
    (r : Reading)
    (c : Char) :
    (c = '\\' ∧ r.run (escapeDouble c) = { r with backslashes := r.backslashes + 1 }) ∨
    (c = '"' ∧ r.run (escapeDouble c) = quote { r with backslashes := r.backslashes + 1 }) ∨
    (c ≠ '\\' ∧ c ≠ '"' ∧ r.run (escapeDouble c) = r.settled.plain c) := by
  by_cases hback : c = '\\'
  · subst hback
    exact .inl ⟨rfl, rfl⟩
  · by_cases hquote : c = '"'
    · subst hquote
      exact .inr (.inl ⟨rfl, rfl⟩)
    · refine .inr (.inr ⟨hback, hquote, ?_⟩)
      simp [escapeDouble, run, step, hback, hquote]

theorem backslashes_run_escape
    (r : Reading)
    (c : Char) :
    (r.run (escapeDouble c)).backslashes = following r.backslashes c := by
  obtain ⟨rfl, hrun⟩ | ⟨rfl, hrun⟩ | ⟨hback, -, hrun⟩ := run_escape_cases r c
  · rw [hrun]
    rfl
  · rw [hrun, backslashes_quote]
    rfl
  · rw [hrun, backslashes_settled_plain, following, if_neg hback]

/-- **What is written for a character adds its weight, less what is lost in front of it.** -/
theorem weight_run_escape
    (r : Reading)
    (c : Char) :
    (r.run (escapeDouble c)).weight + lost r.backslashes c = r.weight + Cmd.weight [c] := by
  obtain ⟨rfl, hrun⟩ | ⟨rfl, hrun⟩ | ⟨hback, hquote, hrun⟩ := run_escape_cases r c
  · rw [hrun, weight_backslash]
    rfl
  · -- the backslash that is written in front counts two, and the double quote takes it away
    -- together with those of the text
    have hwritten := weight_quote { r with backslashes := r.backslashes + 1 }
    have hlost : lost r.backslashes '"' = r.backslashes := rfl
    have hone : Cmd.weight ['"'] = 1 := rfl
    rw [weight_backslash] at hwritten
    dsimp only at hwritten
    rw [hrun, hlost, hone]
    omega
  · rw [hrun, weight_settled_plain r hback hquote, weight_singleton hback hquote, lost,
      if_neg hquote]

/-- What is read of a written text, up to the closing quote, and what is lost are together the
text. -/
theorem weight_run_escaped
    (s : List Char) :
    ∀ r : Reading,
      (r.run (s.flatMap escapeDouble ++ ['"'])).weight + loss r.backslashes s =
        r.weight + Cmd.weight s := by
  induction s with
  | nil =>
      intro r
      exact weight_quote r
  | cons c s ih =>
      intro r
      have hfirst := weight_run_escape r c
      have hrest := ih (r.run (escapeDouble c))
      rw [backslashes_run_escape] at hrest
      rw [weight_cons c s, List.flatMap_cons, List.append_assoc, run_append, loss]
      omega

/-- Within quotes, with `word` read of the open argument and `n` backslashes behind it. -/
def inside (r : Reading) (word : List Char) (n : Nat) : Reading :=
  { r with current := some word, quoted := true, backslashes := n }

/-- If nothing is lost in front of a character, then what is written for it adds it to the open
argument, where the backslashes in front may still be waiting. -/
theorem run_escape_inside
    (r : Reading)
    (word : List Char)
    {n : Nat}
    {c : Char}
    (hlost : lost n c = 0) :
    ∃ front : List Char,
      (r.inside word n).run (escapeDouble c) = r.inside front (following n c) ∧
      front ++ List.replicate (following n c) '\\' = word ++ (List.replicate n '\\' ++ [c]) := by
  obtain ⟨rfl, hrun⟩ | ⟨rfl, hrun⟩ | ⟨hback, hquote, hrun⟩ := run_escape_cases (r.inside word n) c
  · exact ⟨word, hrun, by rw [← List.replicate_succ']; rfl⟩
  · obtain rfl : n = 0 := hlost
    refine ⟨word ++ ['"'], ?_, by simp [following]⟩
    rw [hrun]
    simp [inside, quote, put, following]
  · refine ⟨word ++ (List.replicate n '\\' ++ [c]), ?_, by simp [following, hback]⟩
    rw [hrun]
    cases n <;> simp [inside, settled, plain, put, following, hback]

/-- If nothing is lost, what is written for a text adds this text to the open argument and
closes the quotes. -/
theorem run_escaped
    (r : Reading)
    (s : List Char) :
    ∀ (word : List Char) (n : Nat), loss n s = 0 →
      (r.inside word n).run (s.flatMap escapeDouble ++ ['"']) =
        { r with
          current := some (word ++ (List.replicate n '\\' ++ s))
          quoted := false
          backslashes := 0 } := by
  induction s with
  | nil =>
      intro word n hloss
      obtain rfl : n = 0 := hloss
      simp [inside, run, step, quote, put]
  | cons c s ih =>
      intro word n hloss
      obtain ⟨hlost, hrest⟩ := Nat.add_eq_zero_iff.mp hloss
      obtain ⟨front, hrun, hfront⟩ := run_escape_inside r word hlost
      have htext :
          front ++ (List.replicate (following n c) '\\' ++ s) =
            word ++ (List.replicate n '\\' ++ c :: s) := by
        rw [← List.append_assoc, hfront]
        simp
      rw [List.flatMap_cons, List.append_assoc, run_append, hrun, ih front _ hrest, htext]

end Reading

/-- **What is read of a written text weighs what the text weighs, less what is lost.** -/
theorem weight_arguments
    (s : List Char) :
    weight (arguments (doubleQuoted s)).flatten + loss 0 s = weight s := by
  have hrun := Reading.weight_run_escaped s (Reading.quote {})
  have hopen : (Reading.quote {}).weight = 0 := rfl
  rw [Reading.backslashes_quote, hopen, Nat.zero_add] at hrun
  rw [arguments, doubleQuoted_eq, Reading.weight_ended]
  exact hrun

/-- Nothing is lost exactly if no backslash stands right in front of a double quote, be it one
of the text or the closing one. -/
theorem loss_eq_zero_iff
    (s : List Char) :
    ∀ n : Nat,
      loss n s = 0 ↔
        (n = 0 ∨ (s ++ ['"']).head? ≠ some '"') ∧ ¬ ['\\', '"'] <:+: s ++ ['"'] := by
  induction s with
  | nil =>
      intro n
      have hinfix : ¬ ['\\', '"'] <:+: ['"'] := by decide
      simp [loss, hinfix]
  | cons c s ih =>
      intro n
      rw [List.cons_append, List.infix_cons_iff, List.cons_prefix_cons]
      by_cases hback : c = '\\'
      · subst hback
        have hprefix : ['"'] <+: s ++ ['"'] ↔ (s ++ ['"']).head? = some '"' := by
          cases s <;> simp [eq_comm]
        simp [loss, lost, following, ih, hprefix]
      · by_cases hquote : c = '"'
        · subst hquote
          simp [loss, lost, following, ih]
        · simp [loss, lost, following, ih, hback, hquote, Ne.symm hback]

/-- The closing quote comes behind a backslash if the text ends with one. -/
theorem infix_closing_iff
    (s : List Char) :
    ['\\', '"'] <:+: s ++ ['"'] ↔ ['\\', '"'] <:+: s ∨ ['\\'] <:+ s := by
  rw [List.infix_concat_iff, List.suffix_concat_iff, or_comm]
  apply or_congr_right
  constructor
  · rintro (hnil | ⟨front, hfront, hsuffix⟩)
    · cases hnil
    · have hsame : ['\\'] ++ ['"'] = front ++ ['"'] := hfront
      rwa [List.append_cancel_right hsame]
  · intro hsuffix
    exact .inr ⟨['\\'], rfl, hsuffix⟩

/-- **A written text is read back as one argument** exactly if it holds no backslash right in
front of a double quote and does not end with a backslash. -/
theorem arguments_doubleQuoted_iff
    (s : List Char) :
    arguments (doubleQuoted s) = [s] ↔
      ¬ ['\\', '"'] <:+: s ∧ ¬ ['\\'] <:+ s := by
  have hclean : loss 0 s = 0 ↔ ¬ ['\\', '"'] <:+: s ∧ ¬ ['\\'] <:+ s := by
    rw [loss_eq_zero_iff, infix_closing_iff, not_or]
    simp
  rw [← hclean]
  constructor
  · intro hread
    have hweight := weight_arguments s
    rw [hread, List.flatten_singleton] at hweight
    omega
  · intro hloss
    have hrun := Reading.run_escaped {} s [] 0 hloss
    have hopen : Reading.run {} (doubleQuoted s) =
        (Reading.inside {} [] 0).run (s.flatMap escapeDouble ++ ['"']) := rfl
    rw [arguments, hopen, hrun]
    rfl

/-- Otherwise it may come apart: behind a backslash and a double quote of the text, a blank
stands outside of quotes. -/
example :
    arguments (doubleQuoted ['a', '\\', '"', ' ', 'b']) = [['a', '\\'], ['b']] := by
  decide

end Cmd

namespace Command

/-- A command line is the tool, the words in front of the features, and the features between
double quotes. -/
theorem doubleQuotedLine_toList
    (c : Command) :
    c.doubleQuotedLine.toList =
      c.tool.toList ++ " test --features ".toList ++ doubleQuoted c.featuresArg.toList := by
  have hquoted :
      (String.ofList (doubleQuoted c.featuresArg.toList)).toList =
        doubleQuoted c.featuresArg.toList :=
    String.toList_ofList
  rw [doubleQuotedLine, String.toList_append, String.toList_append, hquoted]

/-- **When double quotes deliver the features.**  Whatever the tool and the features are, the part
of the line behind the tool and the option is read as exactly one argument, the one with all
features, if and only if in this argument no backslash stands right in front of a double quote
or at the end. -/
theorem double_quotes_deliver_iff
    (c : Command) :
    ∃ written : List Char,
      c.doubleQuotedLine.toList =
        c.tool.toList ++ " test --features ".toList ++ written ∧
      (Cmd.arguments written = [c.featuresArg.toList] ↔
        ¬ ['\\', '"'] <:+: c.featuresArg.toList ∧ ¬ ['\\'] <:+ c.featuresArg.toList) :=
  ⟨_, doubleQuotedLine_toList c, Cmd.arguments_doubleQuoted_iff _⟩

/-- **Double quotes do not deliver all features**: a backslash at the end is read together with
the closing quote, which then stands for itself. -/
theorem double_quotes_swallow_backslash :
    ∃ (c : Command) (written : List Char),
      c.features = ["v0-1\\"] ∧
      c.doubleQuotedLine.toList =
        c.tool.toList ++ " test --features ".toList ++ written ∧
      written = ['"', 'v', '0', '-', '1', '\\', '"'] ∧
      Cmd.arguments written = [['v', '0', '-', '1', '"']] ∧
      Cmd.arguments written ≠ [c.featuresArg.toList] := by
  let c : Command := { tool := "cargo", features := ["v0-1\\"] }
  have hwritten : doubleQuoted c.featuresArg.toList = ['"', 'v', '0', '-', '1', '\\', '"'] := by
    decide +kernel
  have hread :
      Cmd.arguments ['"', 'v', '0', '-', '1', '\\', '"'] = [['v', '0', '-', '1', '"']] := by
    decide
  refine ⟨c, _, rfl, doubleQuotedLine_toList c, hwritten, ?_, ?_⟩
  · rw [hwritten, hread]
  · rw [hwritten, hread]
    decide +kernel

end Command
end FeatureLadder
