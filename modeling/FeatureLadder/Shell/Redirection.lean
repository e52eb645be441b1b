import FeatureLadder.Shell.Expand
import FeatureLadder.Shell.Running

/-!
# Redirections

**Input**: the redirections of a command.

**Algorithm**: first the words of all of them are expanded, then the files are opened one
after the other.  When the command has ended, its descriptors lead again to where they
led before.

**Results**: `withRedirections` runs an action whose descriptors are redirected.
-/

namespace FeatureLadder
namespace Shell

open FeatureLadder.Shell.Action

/-- What is to be done to a descriptor. -/
inductive Change where
  | fromFile (descriptor : Nat) (path : List Char)
  | toFile (descriptor : Nat) (writing : Writing) (path : List Char)
  | copy (descriptor source : Nat)
  | close (descriptor : Nat)
  | here (descriptor : Nat) (body : Word)

def Change.descriptor : Change → Nat
  | .fromFile d _ | .toFile d .. | .copy d _ | .close d | .here d _ => d

/-- The stream of a device.  Some devices stand for what a descriptor leads to. -/
def openDevice (name : String) : Action (Except Failure Nat) := do
  let copied (descriptor : Nat) : Action (Except Failure Nat) := do
    match (← process).descriptors.lookup descriptor with
    | some place => return .ok place
    | none => return .error (.other "No such device or address")
  match name with
  | "stdin" => copied 0
  | "stdout" => copied 1
  | "stderr" => copied 2
  | "tty" => return .error (.other "No such device or address")
  | _ => return .ok (← addStream (.device name))

def openInput (path : List Char) : Action (Except Failure Nat) := do
  let t ← tree
  match t.locate (toText path) with
  | .error e => return .error e
  | .ok location =>
    match t.root.get? location with
    | some (.file ..) => return .ok (← addStream (.file location 0 true false false))
    | some (.directory _) => return .ok (← addStream .directory)
    | some (.device name) => openDevice name
    | some _ => return .ok (← addStream (.source []))
    | none => return .error .noSuchFile

/-- Opens a file for writing; a file that does not exist is made. -/
def openOutput (writing : Writing) (path : List Char) : Action (Except Failure Nat) := do
  let t ← tree
  match t.locateNew (toText path) with
  | .error e => return .error e
  | .ok location =>
    let stream : Stream := .file location 0 (writing == .update) true (writing == .append)
    match t.root.get? location with
    | none =>
      setTree (t.putAt location (.file [] false))
      return .ok (← addStream stream)
    | some (.file _ executable) =>
      if writing == .fresh && (← hasFlag 'C') then return .error .alreadyThere
      if writing == .fresh || writing == .overwrite then
        setTree (t.putAt location (.file [] executable))
      return .ok (← addStream stream)
    | some (.directory _) => return .error .isDirectory
    | some (.device name) => openDevice name
    | some _ => return .error (.other "Text file busy")

/-- Why a file could not be opened for reading. -/
def inputReason : Failure → String
  | .noSuchFile | .notDirectory => "No such file"
  | e => e.reason

/-- Why a file could not be opened for writing. -/
def outputReason : Failure → String
  | .noSuchFile | .notDirectory => "Directory nonexistent"
  | e => e.reason

/-- The change that a redirection calls for. -/
def change (ev : Evaluator) : Redirect → Action Change
  | .fromFile d w => return .fromFile d (← Expansion.text (capture ev) w)
  | .toFile d writing w => return .toFile d writing (← Expansion.text (capture ev) w)
  | .copy d w => do
    match ← Expansion.text (capture ev) w with
    | ['-'] => return .close d
    | [c] => if c.isDigit then return .copy d (c.toNat - 0x30) else bad
    | _ => bad
  | .here d body => return .here d body
where
  /-- Ends the script because a descriptor is not a number. -/
  bad : Action Change := failText "Syntax error: Bad fd number"

def perform (ev : Evaluator) : Change → Action PUnit
  | .fromFile d path => do
    match ← openInput path with
    | .ok place => setDescriptor d (some place)
    | .error e => fail (ofText "cannot open " ++ path ++ ofText (": " ++ inputReason e))
  | .toFile d writing path => do
    match ← openOutput writing path with
    | .ok place => setDescriptor d (some place)
    | .error e => fail (ofText "cannot create " ++ path ++ ofText (": " ++ outputReason e))
  | .copy d source => do
    match (← process).descriptors.lookup source with
    | some place => setDescriptor d (some place)
    | none => failText (toString source ++ ": Bad file descriptor")
  | .close d => setDescriptor d none
  | .here d body => do
    let chunks ← Expansion.parts (capture ev) { fields := false, tilde := false } body
    setDescriptor d (some (← addStream (.source (Glyph.chars (joinChunks chunks)))))

/-- Makes some changes and says whether all of them could be made.  What was written
before goes to where the descriptors led. -/
def performAll (ev : Evaluator) (changes : List Change) : Action Bool := do
  if !changes.isEmpty then flush
  match ← attempt (changes.forM (perform ev)) with
  | .ok _ => return true
  | .error .error => return false
  | .error halt => throw halt

/-- Lets descriptors lead to where they led before some changes. -/
def restore (before : List (Nat × Nat)) (changes : List Change) : Action PUnit := do
  if !changes.isEmpty then flush
  changes.forM fun c => setDescriptor c.descriptor (before.lookup c.descriptor)

/-- Runs an action whose descriptors are redirected; if they cannot be, the action is not
run. -/
def withRedirections (ev : Evaluator) (redirects : List Redirect) (act : Action Nat) :
    Action Nat := do
  let changes ← redirects.mapM (change ev)
  let before := (← process).descriptors
  andThen (do if ← performAll ev changes then act else return 2) (restore before changes)

end Shell
end FeatureLadder
