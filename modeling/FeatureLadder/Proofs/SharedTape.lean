import FeatureLadder.Executor.Scripted

/-!
# Scripted executors and their clones

A scripted executor can be cloned, and calls may then go to any of the clones in any
order.  All of them share one tape, and each has a default response that was copied from
its origin, so it makes no difference which of them a call goes to.

`Performs` says once what a single call does, whichever executor it is issued to, and
`Runs` what calls do one after the other.  Along a run of calls two things are followed:

* the responses that were taken from the queue, read off from the queue before and after
  each call; together with what is still queued they are what was pushed, in order;
* the command lines, one for each run.

**Results.**
* `perform_performs`: what a call does, and that it is answered.
* `performAll_runs`: calls to executors that are there are answered, one by one.
* `performAll_eq_toOrigin`: the answers are those that the first executor would give.
* `Runs.taken_append_queued`, `Runs.history_eq`: what a run of calls leaves on the tape.
* `clones_share_one_tape`: all of it, for any calls and whatever is called next.
-/

namespace FeatureLadder
namespace Scripted

/-- An operation, and the place of the executor that it is issued to. -/
structure Call where
  place : Nat
  op : Operation
  deriving DecidableEq

/-- The same operation, issued to the executor that all others were cloned from. -/
def Call.toOrigin (call : Call) : Call :=
  { call with place := 0 }

/-- The response that an operation adds to the queue. -/
def Operation.pushed? : Operation → Option Response
  | .push r => some r
  | _ => none

/-- The command line that an operation hands over. -/
def Operation.line? : Operation → Option String
  | .run command _ => some command.line
  | _ => none

/-- How many executors an operation adds. -/
def Operation.added : Operation → Nat
  | .clone => 1
  | _ => 0

def pushedIn (calls : List Call) : List Response :=
  calls.filterMap fun call => call.op.pushed?

def linesIn (calls : List Call) : List String :=
  calls.filterMap fun call => call.op.line?

def addedIn : List Call → Nat
  | [] => 0
  | call :: rest => call.op.added + addedIn rest

/-- Each call goes to an executor that is there by then, given how many there are before
the first call. -/
def Addressed : Nat → List Call → Prop
  | _, [] => True
  | n, call :: rest => call.place < n ∧ Addressed (n + call.op.added) rest

namespace Group

def performAll : Group → List Call → Option (List Answer × Group)
  | g, [] => some ([], g)
  | g, call :: rest => do
    let (answer, h) ← g.perform call.place call.op
    let (answers, k) ← h.performAll rest
    return (answer :: answers, k)

/-- The responses that are missing from the front of the queue after a call. -/
def takenBetween (g h : Group) : List Response :=
  g.tape.queued.take (g.tape.queued.length - h.tape.queued.length)

/-- The responses that are taken from the queue along some calls, in order. -/
def takenIn : Group → List Call → List Response
  | _, [] => []
  | g, call :: rest =>
    match g.perform call.place call.op with
    | none => []
    | some (_, h) => takenBetween g h ++ takenIn h rest

/-- There are `n` executors, and all of them have the same default response. -/
def Uniform (default : Response) (n : Nat) (g : Group) : Prop :=
  g.defaults = List.replicate n default

theorem uniform_single
    (default : Response) :
    Uniform default 1 (single default) := rfl

section Step

/-- What one call does to a group whose executors have one default response. -/
inductive Performs (default : Response) (g : Group) : Operation → Answer → Group → Prop
  | push
      (r : Response) :
      Performs default g (.push r) .pushed
        { g with tape := { g.tape with queued := g.tape.queued ++ [r] } }
  | runQueued
      {r : Response}
      {rest : List Response}
      (hqueued : g.tape.queued = r :: rest)
      (command : Command)
      (mode : OutputMode) :
      Performs default g (.run command mode) (.ran (r.completion mode))
        { g with tape := { queued := rest, history := g.tape.history ++ [command.line] } }
  | runEmpty
      (hqueued : g.tape.queued = [])
      (command : Command)
      (mode : OutputMode) :
      Performs default g (.run command mode) (.ran (default.completion mode))
        { g with tape := { queued := [], history := g.tape.history ++ [command.line] } }
  | history :
      Performs default g .history (.lines g.tape.history) g
  | clone :
      Performs default g .clone (.cloned g.defaults.length)
        { g with defaults := g.defaults ++ [default] }

variable {default : Response}
variable {n : Nat}
variable {g h : Group}
variable {op : Operation}
variable {answer : Answer}

/-- An executor is found at each place, with the common default response. -/
theorem Uniform.getElem?_eq
    (hg : Uniform default n g)
    {place : Nat}
    (hplace : place < n) :
    g.defaults[place]? = some default := by
  rw [hg, List.getElem?_replicate, if_pos hplace]

/-- **What a call does does not depend on the executor it is issued to.** -/
theorem Uniform.perform_eq
    (hg : Uniform default n g)
    {place : Nat}
    (hplace : place < n)
    (op : Operation) :
    g.perform place op = g.perform 0 op := by
  have hzero : 0 < n := Nat.zero_lt_of_lt hplace
  unfold perform
  rw [hg.getElem?_eq hplace, hg.getElem?_eq hzero]

/-- **Every call is answered**, and does what is said of it. -/
theorem perform_performs
    (hg : Uniform default n g)
    {place : Nat}
    (hplace : place < n)
    (op : Operation) :
    ∃ answer h, g.perform place op = some (answer, h) ∧ Performs default g op answer h := by
  have hplaced := hg.getElem?_eq hplace
  cases op with
  | push r => exact ⟨_, _, by simp [perform, hplaced]; rfl, .push r⟩
  | run command mode =>
      cases hqueued : g.tape.queued with
      | nil =>
          exact ⟨_, _, by simp [perform, hplaced, Tape.execute, hqueued],
            .runEmpty hqueued command mode⟩
      | cons r rest =>
          exact ⟨_, _, by simp [perform, hplaced, Tape.execute, hqueued],
            .runQueued hqueued command mode⟩
  | history => exact ⟨_, _, by simp [perform, hplaced], .history⟩
  | clone => exact ⟨_, _, by simp [perform, hplaced], .clone⟩

/-- A call keeps the executors alike. -/
theorem Performs.uniform
    (hp : Performs default g op answer h)
    (hg : Uniform default n g) :
    Uniform default (n + op.added) h := by
  unfold Uniform at hg ⊢
  cases hp with
  | clone =>
      change g.defaults ++ [default] = List.replicate (n + 1) default
      rw [hg, ← List.replicate_succ']
  | push | runQueued | runEmpty | history => exact hg

/-- What a call takes from the queue and what it leaves there is what was queued and what
the call pushes. -/
theorem Performs.taken_append_queued
    (hp : Performs default g op answer h) :
    takenBetween g h ++ h.tape.queued = g.tape.queued ++ op.pushed?.toList := by
  cases hp with
  | push r => simp [takenBetween, Operation.pushed?]
  | runQueued hqueued command mode => simp [takenBetween, Operation.pushed?, hqueued]
  | runEmpty hqueued command mode => simp [takenBetween, Operation.pushed?, hqueued]
  | history | clone => simp [takenBetween, Operation.pushed?]

/-- A call adds its command line, if it has one, and keeps the others. -/
theorem Performs.history_eq
    (hp : Performs default g op answer h) :
    h.tape.history = g.tape.history ++ op.line?.toList := by
  cases hp <;> simp [Operation.line?]

end Step

section Run

/-- Calls are performed one after the other, each as it is said of a single one. -/
inductive Runs (default : Response) : Group → List Call → List Answer → Group → Prop
  | nil
      (g : Group) :
      Runs default g [] [] g
  | cons
      {g h k : Group}
      {call : Call}
      {rest : List Call}
      {answer : Answer}
      {answers : List Answer}
      (hcall : g.perform call.place call.op = some (answer, h))
      (hp : Performs default g call.op answer h)
      (hrest : Runs default h rest answers k) :
      Runs default g (call :: rest) (answer :: answers) k

variable {default : Response}
variable {n : Nat}
variable {g h : Group}
variable {calls : List Call}
variable {answers : List Answer}

theorem performAll_cons
    {call : Call}
    {answer : Answer}
    (hcall : g.perform call.place call.op = some (answer, h))
    (rest : List Call) :
    g.performAll (call :: rest) =
      (h.performAll rest).map fun p => (answer :: p.1, p.2) := by
  cases hrest : h.performAll rest <;> simp [performAll, hcall, hrest]

theorem takenIn_cons
    {call : Call}
    {answer : Answer}
    (hcall : g.perform call.place call.op = some (answer, h))
    (rest : List Call) :
    takenIn g (call :: rest) = takenBetween g h ++ takenIn h rest := by
  simp [takenIn, hcall]

/-- **Calls to executors that are there are answered**, and leave the executors alike. -/
theorem performAll_runs
    (hg : Uniform default n g)
    (hcalls : Addressed n calls) :
    ∃ answers h,
      g.performAll calls = some (answers, h) ∧
      Runs default g calls answers h ∧
      Uniform default (n + addedIn calls) h := by
  induction calls generalizing n g with
  | nil => exact ⟨[], g, rfl, .nil g, hg⟩
  | cons call rest ih =>
      obtain ⟨hplace, hrest⟩ := hcalls
      obtain ⟨answer, h, hcall, hp⟩ := perform_performs hg hplace call.op
      obtain ⟨answers, k, hall, hruns, hk⟩ := ih (hp.uniform hg) hrest
      refine ⟨answer :: answers, k, ?_, .cons hcall hp hruns, ?_⟩
      · rw [performAll_cons hcall, hall]
        rfl
      · rwa [addedIn, ← Nat.add_assoc]

/-- **The first executor would have given the same answers.** -/
theorem performAll_eq_toOrigin
    (hg : Uniform default n g)
    (hcalls : Addressed n calls) :
    g.performAll (calls.map Call.toOrigin) = g.performAll calls := by
  induction calls generalizing n g with
  | nil => rfl
  | cons call rest ih =>
      obtain ⟨hplace, hrest⟩ := hcalls
      obtain ⟨answer, h, hcall, hp⟩ := perform_performs hg hplace call.op
      have horigin : g.perform call.toOrigin.place call.toOrigin.op = some (answer, h) :=
        (hg.perform_eq hplace call.op).symm.trans hcall
      rw [List.map_cons, performAll_cons horigin, performAll_cons hcall,
        ih (hp.uniform hg) hrest]

/-- **Nothing is lost, doubled or brought out of order**: what was taken and what is still
queued is what was queued at first and what was pushed since. -/
theorem Runs.taken_append_queued
    (hruns : Runs default g calls answers h) :
    takenIn g calls ++ h.tape.queued = g.tape.queued ++ pushedIn calls := by
  induction hruns with
  | nil g => simp [takenIn, pushedIn]
  | @cons g h k call rest answer answers hcall hp hrest ih =>
      have hpushed : pushedIn (call :: rest) = call.op.pushed?.toList ++ pushedIn rest := by
        cases hpush : call.op.pushed? <;> simp [pushedIn, hpush]
      rw [takenIn_cons hcall, hpushed, List.append_assoc, ih, ← List.append_assoc,
        hp.taken_append_queued, List.append_assoc]

/-- **The command lines of all runs are kept**, in order. -/
theorem Runs.history_eq
    (hruns : Runs default g calls answers h) :
    h.tape.history = g.tape.history ++ linesIn calls := by
  induction hruns with
  | nil g => simp [linesIn]
  | @cons g h k call rest answer answers hcall hp hrest ih =>
      have hlines : linesIn (call :: rest) = call.op.line?.toList ++ linesIn rest := by
        cases hline : call.op.line? <;> simp [linesIn, hline]
      rw [hlines, ih, hp.history_eq, List.append_assoc]

/-- Each call has one answer. -/
theorem Runs.length_eq
    (hruns : Runs default g calls answers h) :
    answers.length = calls.length := by
  induction hruns with
  | nil g => rfl
  | cons hcall hp hrest ih => rw [List.length_cons, List.length_cons, ih]

/-- What is taken along calls and one more. -/
theorem Runs.takenIn_concat
    (hruns : Runs default g calls answers h)
    {call : Call}
    {answer : Answer}
    {k : Group}
    (hcall : h.perform call.place call.op = some (answer, k)) :
    takenIn g (calls ++ [call]) = takenIn g calls ++ takenBetween h k := by
  induction hruns with
  | nil g => simp [takenIn, hcall]
  | cons hfirst hp hrest ih =>
      rw [List.cons_append, takenIn_cons hfirst, takenIn_cons hfirst, ih hcall,
        List.append_assoc]

/-- How the answer to a run comes about: from the oldest queued response, which is taken,
or from the default response if none is queued. -/
theorem Performs.run_cases
    {command : Command}
    {mode : OutputMode}
    {answer : Answer}
    (hp : Performs default g (.run command mode) answer h) :
    ∃ r : Response,
      answer = .ran (r.completion mode) ∧
      ((g.tape.queued = r :: h.tape.queued ∧ takenBetween g h = [r]) ∨
        (g.tape.queued = [] ∧ h.tape.queued = [] ∧ takenBetween g h = [] ∧ r = default)) := by
  cases hp with
  | @runQueued r rest hqueued =>
      refine ⟨r, rfl, Or.inl ⟨hqueued, ?_⟩⟩
      simp [takenBetween, hqueued]
  | runEmpty hqueued =>
      refine ⟨default, rfl, Or.inr ⟨hqueued, rfl, ?_, rfl⟩⟩
      simp [takenBetween, hqueued]

/-- A run on a tape is a run of the executor that has this tape as its state. -/
theorem runTests_of_performs
    {command : Command}
    {mode : OutputMode}
    {result : Completion}
    (hp : Performs default g (.run command mode) (.ran result) h) :
    (executor default).runTests command mode g.tape = (.ok result, h.tape) := by
  cases hp with
  | runQueued hqueued =>
      simp [Executor.runTests_eq, executor, Tape.execute, hqueued]
  | runEmpty hqueued =>
      simp [Executor.runTests_eq, executor, Tape.execute, hqueued]

end Run

/-- **Clones share one tape.**  Calls are issued to an executor and its clones, in any
order, as long as each goes to an executor that is there by then.  Then each of them is
answered, and as if all of them had been issued to the first executor, and:

* the responses taken so far, followed by those still queued, are those pushed so far;
* a run that is issued next takes the oldest queued response, or takes none and uses the
  default response if none is queued; its result has the code of the response, is a success
  exactly if this code is zero, and has an output exactly if the output is captured;
* whichever executor is asked for it next, the history holds the command lines of all runs
  so far. -/
theorem clones_share_one_tape
    (default : Response)
    (calls : List Call)
    (hcalls : Addressed 1 calls) :
    ∃ answers g,
      (single default).performAll calls = some (answers, g) ∧
      (single default).performAll (calls.map Call.toOrigin) = some (answers, g) ∧
      answers.length = calls.length ∧
      takenIn (single default) calls ++ g.tape.queued = pushedIn calls ∧
      (∀ (place : Nat) (command : Command) (mode : OutputMode), place < 1 + addedIn calls →
        ∃ (r : Response) (result : Completion) (h : Group),
          g.perform place (.run command mode) = some (.ran result, h) ∧
          (executor default).runTests command mode g.tape = (.ok result, h.tape) ∧
          ((g.tape.queued = r :: h.tape.queued ∧
              takenIn (single default) (calls ++ [⟨place, .run command mode⟩]) =
                takenIn (single default) calls ++ [r]) ∨
            (g.tape.queued = [] ∧ h.tape.queued = [] ∧ r = default ∧
              takenIn (single default) (calls ++ [⟨place, .run command mode⟩]) =
                takenIn (single default) calls)) ∧
          result.code = r.code ∧
          (result.success = true ↔ r.code = 0) ∧
          (mode = .inherit → result.output = none) ∧
          (mode = .capture → result.output = some (r.output.getD ""))) ∧
      (∀ place, place < 1 + addedIn calls →
        g.perform place .history = some (.lines (linesIn calls), g)) := by
  obtain ⟨answers, g, hall, hruns, hg⟩ := performAll_runs (uniform_single default) hcalls
  refine ⟨answers, g, hall, ?_, ?_, hruns.taken_append_queued, ?_, ?_⟩
  · rw [performAll_eq_toOrigin (uniform_single default) hcalls, hall]
  · exact hruns.length_eq
  · intro place command mode hplace
    obtain ⟨answer, h, hrun, hp⟩ := perform_performs hg hplace (.run command mode)
    have htaken :
        takenIn (single default) (calls ++ [⟨place, .run command mode⟩]) =
          takenIn (single default) calls ++ takenBetween g h :=
      hruns.takenIn_concat hrun
    obtain ⟨r, rfl, hcases⟩ := hp.run_cases
    refine ⟨r, r.completion mode, h, hrun, runTests_of_performs hp, ?_, ?_⟩
    · rcases hcases with ⟨hqueued, hone⟩ | ⟨hqueued, hleft, hnone, hr⟩
      · exact Or.inl ⟨hqueued, by rw [htaken, hone]⟩
      · exact Or.inr ⟨hqueued, hleft, hr, by rw [htaken, hnone, List.append_nil]⟩
    · cases mode <;> simp [Response.completion, Completion.fromCode]
  · intro place hplace
    obtain ⟨answer, h, hask, hp⟩ := perform_performs hg hplace .history
    cases hp
    rw [hask, hruns.history_eq]
    rfl

/-- The queue runs empty while a clone runs a command, and is filled again by its origin. -/
theorem clones_share_refilled_tape :
    ∃ (command : Command) (calls : List Call) (answers : List Answer) (g : Group),
      calls =
        [⟨0, .clone⟩, ⟨1, .push { code := 3 }⟩, ⟨0, .run command .inherit⟩,
          ⟨1, .run command .capture⟩, ⟨0, .push { code := 5 }⟩] ∧
      Addressed 1 calls ∧
      (single { code := 1 }).performAll calls = some (answers, g) ∧
      (single { code := 1 }).performAll (calls.map Call.toOrigin) = some (answers, g) ∧
      answers =
        [.cloned 1, .pushed, .ran (.fromCode 3), .ran (.fromCode 1 (some "")), .pushed] ∧
      takenIn (single { code := 1 }) calls ++ g.tape.queued = [{ code := 3 }, { code := 5 }] ∧
      g.perform 1 .history = some (.lines [command.line, command.line], g) := by
  let command : Command := { tool := "cargo", features := ["v0-1"] }
  let calls : List Call :=
    [⟨0, .clone⟩, ⟨1, .push { code := 3 }⟩, ⟨0, .run command .inherit⟩,
      ⟨1, .run command .capture⟩, ⟨0, .push { code := 5 }⟩]
  have hcalls : Addressed 1 calls := by
    refine ⟨?_, ?_, ?_, ?_, ?_, trivial⟩ <;> decide
  obtain ⟨answers, g, hall, horigin, -, htaken, -, hhistory⟩ :=
    clones_share_one_tape { code := 1 } calls hcalls
  refine
    ⟨command, calls, answers, g, rfl, hcalls, hall, horigin, ?_, htaken,
      hhistory 1 (by decide)⟩
  cases hall
  rfl

end Group
end Scripted
end FeatureLadder
