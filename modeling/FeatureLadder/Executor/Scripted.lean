import FeatureLadder.Executor.Basic

/-!
# Scripted executors

A scripted executor runs nothing.  It answers with responses that were queued for it,
oldest first, and with a default response when the queue is empty, and it keeps the
command lines it was given.  A clone shares queue and command lines with its origin.
-/

namespace FeatureLadder
namespace Scripted

/-- A prepared answer. -/
structure Response where
  code : Int := 0
  output : Option String := none
  deriving DecidableEq

/-- The result that a response stands for: output is reported only if it is captured,
and then there always is some. -/
def Response.completion (r : Response) : OutputMode → Completion
  | .inherit => .fromCode r.code
  | .capture => .fromCode r.code (some (r.output.getD ""))

/-- What an executor and its clones share. -/
structure Tape where
  queued : List Response := []
  history : List String := []
  deriving DecidableEq

/-- Adds a response at the end of the queue. -/
def Tape.push (t : Tape) (r : Response) : Tape :=
  { t with queued := t.queued ++ [r] }

/-- Records a command and takes the oldest response, or the default one. -/
def Tape.execute (t : Tape) (default : Response) (command : Command) (mode : OutputMode) :
    Completion × Tape :=
  let history := t.history ++ [command.line]
  match t.queued with
  | [] => (default.completion mode, { queued := [], history := history })
  | r :: rest => (r.completion mode, { queued := rest, history := history })

def entry (command : Command) : Log.Entry where
  level := .debug
  source := "vtest_core::runner::mock"
  message := "Mock executing: " ++ command.line

/-- The executor whose state is a tape. -/
def executor (default : Response := {}) : Executor Tape where
  execute command mode t :=
    let (completion, u) := t.execute default command mode
    ({ answer := .ok completion, notices := [.entry (entry command)] }, u)

/-- An executor and its clones: what they share, and the default response of each. -/
structure Group where
  tape : Tape := {}
  defaults : List Response
  deriving DecidableEq

/-- What can be asked of an executor. -/
inductive Operation where
  | push (r : Response)
  | run (command : Command) (mode : OutputMode)
  | history
  | clone
  deriving DecidableEq

/-- What an operation answers. -/
inductive Answer where
  | pushed
  | ran (result : Completion)
  | lines (history : List String)
  /-- the place of the new executor among the clones -/
  | cloned (place : Nat)
  deriving DecidableEq

namespace Group

/-- One executor that has not been used yet. -/
def single (default : Response := {}) : Group :=
  { defaults := [default] }

/-- Performs an operation on the executor at a place; there has to be one. -/
def perform (g : Group) (place : Nat) (op : Operation) : Option (Answer × Group) :=
  match g.defaults[place]? with
  | none => none
  | some default =>
    match op with
    | .push r => some (.pushed, { g with tape := g.tape.push r })
    | .run command mode =>
      let (completion, tape) := g.tape.execute default command mode
      some (.ran completion, { g with tape := tape })
    | .history => some (.lines g.tape.history, g)
    | .clone => some (.cloned g.defaults.length, { g with defaults := g.defaults ++ [default] })

end Group
end Scripted
end FeatureLadder
