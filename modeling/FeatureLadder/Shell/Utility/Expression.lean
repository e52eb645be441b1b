import FeatureLadder.Shell.Regex
import FeatureLadder.Shell.Utility.Basic

/-!
# Expressions of arguments

`expr` reads its arguments as an expression by recursive descent and shows its value.
-/

namespace FeatureLadder
namespace Shell
namespace Utility
namespace Expression

/-- Why arguments have no value. -/
inductive Fault where
  | missingAfter (argument : List Char)
  | unexpected (argument : List Char)
  | unexpectedClosing
  | missingClosing (argument : List Char)
  | notInteger
  | divisionByZero
  | malformed (m : Regex.Malformation)

/-- What is said about arguments without a value. -/
def Fault.message : Fault → List Char
  | .missingAfter a => ofText "syntax error: missing argument after " ++ inQuotes a
  | .unexpected a => ofText "syntax error: unexpected argument " ++ inQuotes a
  | .unexpectedClosing => ofText "syntax error: unexpected ')'"
  | .missingClosing a => ofText "syntax error: expecting ')' after " ++ inQuotes a
  | .notInteger => ofText "non-integer argument"
  | .divisionByZero => ofText "division by zero"
  | .malformed m => ofText m.message

/-- The arguments that are left, and the one before them. -/
structure Progress where
  rest : List (List Char)
  before : List Char := []

/-- Computing while reading. -/
abbrev Compute := StateT Progress (Except Fault)

/-- The integer that a value writes. -/
def integer? (text : List Char) : Option Int :=
  match text with
  | '-' :: rest => (digits? rest).map fun n => -Int.ofNat n
  | _ => (digits? text).map Int.ofNat

/-- Whether a value counts as false. -/
def isNull (text : List Char) : Bool :=
  match text with
  | [] => true
  | '-' :: rest => !rest.isEmpty && rest.all (· == '0')
  | _ => text.all (· == '0')

/-- The next argument, if it is one of some. -/
def operator? (known : List String) : Compute (Option String) := do
  match (← get).rest with
  | a :: rest =>
    if known.contains (toText a) then
      set ({ rest := rest, before := a } : Progress)
      return some (toText a)
    else return none
  | [] => return none

def next : Compute (List Char) := do
  let p ← get
  match p.rest with
  | a :: rest =>
    set ({ rest := rest, before := a } : Progress)
    return a
  | [] => throw (.missingAfter p.before)

/-- What a regular expression matches at the start of a text: its first group, or the number
of characters. -/
def matchStart (text pattern : List Char) : Compute (List Char) := do
  match Regex.read false pattern with
  | .error m => throw (.malformed m)
  | .ok r =>
    let hasGroup := (String.ofList pattern).toList.zip (pattern.drop 1) |>.contains ('\\', '(')
    match (Regex.both .start r).search false text with
    | some m =>
      if hasGroup then return (m.text? text 1).getD []
      else return ofNumber (m.finish - m.start)
    | none => return if hasGroup then [] else ['0']

/-- Applies an operator on two values. -/
def apply (op : String) (a b : List Char) : Compute (List Char) := do
  let truth (t : Bool) : List Char := if t then ['1'] else ['0']
  let compareWith (f : Ordering → Bool) : List Char :=
    match integer? a, integer? b with
    | some m, some n => truth (f (compare m n))
    | _, _ => truth (f (compare a b))
  let numbers (f : Int → Int → Compute Int) : Compute (List Char) := do
    match integer? a, integer? b with
    | some m, some n => return ofNumber (← f m n)
    | _, _ => throw .notInteger
  match op with
  | "+" => numbers fun m n => return m + n
  | "-" => numbers fun m n => return m - n
  | "*" => numbers fun m n => return m * n
  | "/" => numbers fun m n => if n = 0 then throw .divisionByZero else return m.tdiv n
  | "%" => numbers fun m n => if n = 0 then throw .divisionByZero else return m.tmod n
  | "<" => return compareWith (· == .lt)
  | "<=" => return compareWith (· != .gt)
  | "=" | "==" => return compareWith (· == .eq)
  | "!=" => return compareWith (· != .eq)
  | ">=" => return compareWith (· != .lt)
  | ">" => return compareWith (· == .gt)
  | ":" => matchStart a b
  | "&" => return if isNull a || isNull b then ['0'] else a
  | "|" => return if !isNull a then a else if !isNull b then b else ['0']
  | _ => throw (.unexpected op.toList)

/-- The operators, those that bind least first. -/
def levels : List (List String) :=
  [["|"], ["&"], ["<", "<=", "=", "==", "!=", ">=", ">"], ["+", "-"], ["*", "/", "%"], [":"]]

mutual

/-- A chain of operators from some level on. -/
def chain : Nat → List (List String) → Compute (List Char)
  | 0, _ => throw .notInteger
  | n + 1, ls => do
    match ls with
    | [] => single n
    | known :: tighter =>
      let first ← chain n tighter
      more n known tighter first

/-- The rest of a chain of operators. -/
def more : Nat → List String → List (List String) → List Char → Compute (List Char)
  | 0, _, _, _ => throw .notInteger
  | n + 1, known, tighter, left => do
    match ← operator? known with
    | none => return left
    | some op =>
      let right ← chain n tighter
      more n known tighter (← apply op left right)

/-- A value, a function of values, or an expression in parentheses. -/
def single : Nat → Compute (List Char)
  | 0 => throw .notInteger
  | n + 1 => do
    let a ← next
    let arguments := !(← get).rest.isEmpty
    match toText a with
    | "(" =>
      let value ← chain n levels
      match ← operator? [")"] with
      | some _ => return value
      | none =>
        match (← get).rest with
        | [] => throw (.missingClosing (← get).before)
        | other :: _ => throw (.unexpected other)
    | ")" => throw .unexpectedClosing
    | "length" =>
      if !arguments then throw (.missingAfter a)
      return ofNumber (← single n).length
    | "index" =>
      let text ← single n
      let set' ← single n
      return ofNumber ((text.findIdx? set'.contains).map (Int.ofNat <| · + 1) |>.getD 0)
    | "substr" =>
      let text ← single n
      let start ← single n
      let size ← single n
      match integer? start, integer? size with
      | some s, some l =>
        if s ≤ 0 || l ≤ 0 then return [] else return (text.drop (s.toNat - 1)).take l.toNat
      | _, _ => return []
    | "match" =>
      let text ← single n
      matchStart text (← single n)
    | "+" => next
    | _ => return a

end

end Expression

open Expression in
/-- Shows the value of an expression. -/
def expr (args : List (List Char)) : Action Nat := do
  let args := if args.head? = some ['-', '-'] then args.drop 1 else args
  if args.isEmpty then return ← refuse "expr" 2 (ofText "missing operand")
  match (chain (40 * args.length + 40) levels).run { rest := args } with
  | .error fault =>
    complain "expr" fault.message
    return match fault with
      | .malformed _ => 3
      | _ => 2
  | .ok (value, p) =>
    match p.rest with
    | a :: _ =>
      complain "expr" (Fault.unexpected a).message
      return 2
    | [] =>
      emit (value ++ ['\n'])
      return if isNull value then 1 else 0

end Utility
end Shell
end FeatureLadder
