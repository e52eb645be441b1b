import FeatureLadder.Shell.Builtin.Condition
import FeatureLadder.Shell.Utility.Basic

/-!
# Conditions as a utility

**Input**: the arguments of the programs `test` and `[`.

**Algorithm**: up to four arguments are told apart by their number; more of them are read
as alternatives of conjunctions.

**Results**: `predicate` gives the status of a condition.
-/

namespace FeatureLadder
namespace Shell
namespace Utility
namespace Predicate

/-- Reading arguments, with what is said about those that are no condition. -/
abbrev Reading := StateT (List (List Char)) (ExceptT (List Char) Action)

/-- Refuses the arguments. -/
def bad {α : Type} (text : List Char) : Reading α :=
  throw text

/-- Does something outside. -/
def outside {α : Type} (act : Action α) : Reading α :=
  StateT.lift (ExceptT.lift act)

/-- Refuses arguments that end too early.  The last of all arguments is named. -/
def beyond {α : Type} (last : List Char) : Reading α :=
  bad (ofText "missing argument after " ++ inQuotes last)

def next (last : List Char) : Reading (List Char) := do
  match ← get with
  | a :: rest =>
    set rest
    return a
  | [] => beyond last

/-- Whether an argument is an operator between two others. -/
def isBinary (a : List Char) : Bool :=
  ["=", "==", "!=", "-nt", "-ot", "-ef", "-eq", "-ne", "-lt", "-le", "-gt", "-ge"].contains (toText a)

/-- Whether an argument looks like an operator in front of another one. -/
def isUnary : List Char → Bool
  | ['-', _] => true
  | _ => false

/-- The integer that an argument writes. -/
def integer (text : List Char) : Reading Int := do
  let isBlank (c : Char) : Bool := c == ' ' || c == '\t'
  let body := text.dropWhile isBlank
  let (negative, body) :=
    match body with
    | '-' :: rest => (true, rest)
    | '+' :: rest => (false, rest)
    | _ => (false, body)
  let digits := body.takeWhile Char.isDigit
  if digits.isEmpty || !(body.drop digits.length).all isBlank then
    bad (ofText "invalid integer " ++ inQuotes text)
  let n := Int.ofNat (Arithmetic.ofDigits 10 digits)
  return if negative then -n else n

/-- A condition with an operator between two arguments. -/
def binary (last : List Char) : Reading Bool := do
  let left ← next last
  let op ← next last
  let right ← next last
  let numbers (f : Int → Int → Bool) : Reading Bool := do
    let a ← integer left
    return f a (← integer right)
  match toText op with
  | "-eq" => numbers (· == ·)
  | "-ne" => numbers (· != ·)
  | "-gt" => numbers fun a b => b < a
  | "-ge" => numbers fun a b => b ≤ a
  | "-lt" => numbers fun a b => a < b
  | "-le" => numbers fun a b => a ≤ b
  | "==" => return left = right
  | op => outside (Condition.binary left op right)

/-- A condition with an operator in front of an argument. -/
def unary (last : List Char) : Reading Bool := do
  let op ← next last
  if !(Condition.unaryOperators ++ ["-a", "-N"]).contains (toText op) then
    bad (inQuotes op ++ ofText ": unary operator expected")
  let argument ← next last
  match toText op with
  | "-t" =>
    let _ ← integer argument
    return false
  | "-a" => outside (Condition.unary "-e" argument)
  | op => outside (Condition.unary op argument)

/-- A condition of a single argument. -/
def one (last : List Char) : Reading Bool :=
  return !(← next last).isEmpty

def two (last : List Char) : Reading Bool := do
  match ← get with
  | ['!'] :: rest =>
    set rest
    return !(← one last)
  | a :: _ => if isUnary a then unary last else beyond last
  | [] => beyond last

mutual

/-- A condition of a number of arguments, given a bound on the steps. -/
def counted (last : List Char) : Nat → Nat → Reading Bool
  | 0, _ => bad (ofText "too many arguments")
  | n + 1, count => do
    match count with
    | 1 => one last
    | 2 => two last
    | 3 => three last n
    | 4 =>
      match ← get with
      | ['!'] :: rest =>
        set rest
        return !(← three last n)
      | ['('] :: _ :: _ :: [')'] :: _ =>
        modify (·.drop 1)
        let value ← two last
        modify (·.drop 1)
        return value
      | _ => alternatives last n
    | _ => alternatives last n

def three (last : List Char) : Nat → Reading Bool
  | 0 => bad (ofText "too many arguments")
  | n + 1 => do
    match ← get with
    | a :: b :: c :: _ =>
      if isBinary b then binary last
      else if a = ['!'] then
        modify (·.drop 1)
        return !(← two last)
      else if a = ['('] && c = [')'] then
        modify (·.drop 1)
        let value ← one last
        modify (·.drop 1)
        return value
      else if b = ['-', 'a'] || b = ['-', 'o'] then alternatives last n
      else bad (inQuotes b ++ ofText ": binary operator expected")
    | _ => beyond last

/-- Conditions of which one has to hold. -/
def alternatives (last : List Char) : Nat → Reading Bool
  | 0 => bad (ofText "too many arguments")
  | n + 1 => do
    let first ← conjunction last n
    match ← get with
    | ['-', 'o'] :: rest =>
      set rest
      let second ← alternatives last n
      return first || second
    | _ => return first

/-- Conditions that all have to hold. -/
def conjunction (last : List Char) : Nat → Reading Bool
  | 0 => bad (ofText "too many arguments")
  | n + 1 => do
    let first ← term last n
    match ← get with
    | ['-', 'a'] :: rest =>
      set rest
      let second ← conjunction last n
      return first && second
    | _ => return first

/-- A single condition. -/
def term (last : List Char) : Nat → Reading Bool
  | 0 => bad (ofText "too many arguments")
  | n + 1 => do
    match ← get with
    | [] => beyond last
    | ['!'] :: rest =>
      set rest
      return !(← term last n)
    | ['('] :: rest =>
      set rest
      if rest.isEmpty then beyond last
      let before := 1 + ((rest.drop 1).takeWhile (· ≠ [')'])).length
      let value ← counted last n (if 4 < before then rest.length else before)
      match ← get with
      | [')'] :: rest =>
        set rest
        return value
      | [] => bad (ofText "')' expected")
      | other :: _ => bad (ofText "')' expected, found " ++ inQuotes other)
    | a :: rest =>
      match rest with
      | b :: _ :: _ =>
        if isBinary b then binary last else if isUnary a then unary last else one last
      | _ => if isUnary a then unary last else one last

end

end Predicate

open Predicate in
/-- The status of a condition; without arguments it does not hold. -/
def predicate (name : String) (args : List (List Char)) : Action Nat := do
  match args.getLast? with
  | none => return 1
  | some last =>
    match ← (counted last (10 * args.length + 10) args.length args).run with
    | .ok (value, []) => return statusOf value
    | .ok (_, extra :: _) =>
      complain name (ofText "extra argument " ++ inQuotes extra)
      return 2
    | .error text =>
      complain name text
      return 2

/-- The status of a condition between brackets. -/
def bracketed (args : List (List Char)) : Action Nat := do
  if args.getLast? = some [']'] then predicate "[" args.dropLast
  else
    complain "[" (ofText "missing ']'")
    return 2

end Utility
end Shell
end FeatureLadder
