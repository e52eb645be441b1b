import FeatureLadder.Error
import FeatureLadder.Log.Entry

/-!
# Work that is noted

Each part of the program notes what it does.  Noted work gives its result together with
its notices, so that both come from the same case splits; the result alone is what the
rest of the program goes by.  Work that fails keeps the notices up to its failure.

**Results**: `result_bind`, `result_note`, `result_within` and `result_ofExcept` say that
the result of noted work is the result of the same work without notices.
-/

namespace FeatureLadder
namespace Log

/-- Something that goes to the standard error. -/
inductive Notice where
  | line (s : String)
  | entry (e : Entry)
  /-- what a command wrote itself -/
  | raw (bytes : List UInt8)

/-- A notice that happened in a span, around the spans it has already. -/
def Notice.within (span : Span) : Notice → Notice
  | .entry e => .entry { e with spans := span :: e.spans }
  | notice => notice

/-- The result of some work, and what was noted on the way to it. -/
structure Noted (α : Type) where
  result : Except Error α
  notices : List Notice := []

namespace Noted

variable {α β : Type}

/-- Work that notes nothing. -/
def ofExcept (x : Except Error α) : Noted α :=
  { result := x }

def note (e : Entry) : Noted Unit :=
  { result := .ok (), notices := [.entry e] }

/-- Work that goes on with a result, unless there is none. -/
def bind (x : Noted α) (f : α → Noted β) : Noted β :=
  match x.result with
  | .error e => { result := .error e, notices := x.notices }
  | .ok a => { result := (f a).result, notices := x.notices ++ (f a).notices }

instance : Monad Noted where
  pure a := ofExcept (.ok a)
  bind := bind

/-- Work that happens in a span. -/
def within (span : Span) (x : Noted α) : Noted α :=
  { x with notices := x.notices.map (Notice.within span) }

@[simp] theorem result_ofExcept (x : Except Error α) : (ofExcept x).result = x := rfl

@[simp] theorem result_note (e : Entry) : (note e).result = .ok () := rfl

@[simp] theorem result_pure (a : α) : (pure a : Noted α).result = .ok a := rfl

@[simp] theorem result_within (span : Span) (x : Noted α) :
    (within span x).result = x.result := rfl

@[simp] theorem result_bind (x : Noted α) (f : α → Noted β) :
    (x >>= f).result = x.result >>= fun a => (f a).result := by
  change (bind x f).result = _
  unfold bind
  cases x.result <;> rfl

end Noted
end Log
end FeatureLadder
