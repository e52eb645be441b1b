import FeatureLadder.Shell.Arithmetic
import FeatureLadder.Shell.Calling

/-!
# Conditions

**Input**: the arguments of `test`, or those of a bracket up to the closing one.

**Algorithm**: with three arguments the one in the middle decides if it is an operator
between two others.  Otherwise the arguments are read by recursive descent: alternatives
hold conjunctions, these hold negations, and these hold conditions on files, texts or
numbers.  An operator in front of an argument counts as a text where it could not be one.

**Results**: `Condition.test` and `Condition.bracket`.
-/

namespace FeatureLadder
namespace Shell
namespace Condition

/-- What an argument is. -/
inductive Token where
  | finish
  | operand
  /-- an operator in front of its argument -/
  | unary (operator : String)
  /-- an operator between its arguments -/
  | binary (operator : String)
  | negation
  | both
  | either
  | opening
  | closing
  deriving DecidableEq

/-- The operators in front of an argument. -/
def unaryOperators : List String :=
  ["-r", "-w", "-x", "-e", "-f", "-d", "-c", "-b", "-p", "-u", "-g", "-k", "-s", "-t", "-z", "-n",
    "-h", "-L", "-O", "-G", "-S"]

/-- The operators between two arguments. -/
def binaryOperators : List String :=
  ["=", "!=", "<", ">", "-eq", "-ne", "-gt", "-ge", "-lt", "-le", "-nt", "-ot", "-ef"]

/-- The operator that an argument is, if it is one. -/
def operator? (argument : List Char) : Option Token :=
  let s := toText argument
  if unaryOperators.contains s then some (.unary s)
  else if binaryOperators.contains s then some (.binary s)
  else
    match s with
    | "!" => some .negation
    | "-a" => some .both
    | "-o" => some .either
    | "(" => some .opening
    | ")" => some .closing
    | _ => none

/-- Whether an argument is an operator between two others. -/
def isBinary (argument : List Char) : Bool :=
  match operator? argument with
  | some (.binary _) => true
  | _ => false

/-- What the first of some arguments is. -/
def classify : List (List Char) → Token
  | [] => .finish
  | a :: rest =>
    match operator? a, rest with
    | some (.unary _), [] => .operand
    | some (.unary op), [_] => .unary op
    | some (.unary op), b :: _ => if isBinary b then .operand else .unary op
    | some .opening, [] => .operand
    | some t, _ => t
    | none, _ => .operand

/-- The number that an argument writes in decimal digits. -/
def integer (text : List Char) : Action Int := do
  let body := text.dropWhile Arithmetic.isSpace
  let (negative, body) :=
    match body with
    | '-' :: rest => (true, rest)
    | '+' :: rest => (false, rest)
    | _ => (false, body)
  let digits := body.takeWhile Char.isDigit
  let n := Arithmetic.ofDigits 10 digits
  let limit := if negative then Arithmetic.range / 2 else Arithmetic.range / 2 - 1
  if digits.isEmpty || limit < n || !(body.drop digits.length).all Arithmetic.isSpace then
    illegalNumber text
  else return if negative then -Int.ofNat n else n

/-- Whether a condition on a file or a text holds. -/
def unary (operator : String) (argument : List Char) : Action Bool := do
  let t ← tree
  let node := (t.find (toText argument)).toOption
  match operator with
  | "-z" => return argument.isEmpty
  | "-n" => return !argument.isEmpty
  | "-t" =>
    let _ ← integer argument
    return false
  | "-e" | "-r" | "-w" | "-O" | "-G" => return node.isSome
  | "-f" => return match node with
    | some (.file ..) | some (.program _) => true
    | _ => false
  | "-d" => return node.any Node.isDirectory
  | "-x" => return match node with
    | some (.file _ executable) => executable
    | some (.directory _) | some (.program _) => true
    | _ => false
  | "-s" => return match node with
    | some (.file bytes _) => !bytes.isEmpty
    | some (.directory _) | some (.program _) => true
    | _ => false
  | "-c" => return match node with
    | some (.device _) => true
    | _ => false
  | "-h" | "-L" => return match (t.find (toText argument) false).toOption with
    | some (.link _) => true
    | _ => false
  | _ => return false

/-- Whether a condition on two arguments holds. -/
def binary (left : List Char) (operator : String) (right : List Char) : Action Bool := do
  let numbers (f : Int → Int → Bool) : Action Bool := do
    let a ← integer left
    return f a (← integer right)
  match operator with
  | "=" => return left = right
  | "!=" => return left ≠ right
  | "<" => return !bytesLe right left
  | ">" => return !bytesLe left right
  | "-eq" => numbers (· == ·)
  | "-ne" => numbers (· != ·)
  | "-gt" => numbers fun a b => b < a
  | "-ge" => numbers fun a b => b ≤ a
  | "-lt" => numbers fun a b => a < b
  | "-le" => numbers fun a b => a ≤ b
  | "-ef" =>
    let t ← tree
    return match t.locate (toText left), t.locate (toText right) with
    | .ok a, .ok b => a = b
    | _, _ => false
  | _ => return false

mutual

/-- A list of alternatives, whose first argument is the first one, and the arguments from
its last one on. -/
def disjunction : Nat → Token → List (List Char) → Action (Bool × List (List Char))
  | 0, _, _ => throw .exhausted
  | n + 1, token, args => do
    let (first, args) ← conjunction n token args
    if classify (args.drop 1) = .either then
      let args := args.drop 2
      let (others, args) ← disjunction n (classify args) args
      return (first || others, args)
    else return (first, args)

def conjunction : Nat → Token → List (List Char) → Action (Bool × List (List Char))
  | 0, _, _ => throw .exhausted
  | n + 1, token, args => do
    let (first, args) ← negation n token args
    if classify (args.drop 1) = .both then
      let args := args.drop 2
      let (others, args) ← conjunction n (classify args) args
      return (first && others, args)
    else return (first, args)

/-- A condition that may be negated. -/
def negation : Nat → Token → List (List Char) → Action (Bool × List (List Char))
  | 0, _, _ => throw .exhausted
  | n + 1, token, args => do
    if token = .negation then
      let next := classify (args.drop 1)
      let args := if next = .finish then args else args.drop 1
      let (holds, args) ← negation n next args
      return (!holds, args)
    else single n token args

/-- A condition that is not negated. -/
def single : Nat → Token → List (List Char) → Action (Bool × List (List Char))
  | 0, _, _ => throw .exhausted
  | n + 1, token, args => do
    match token with
    | .finish => return (false, args)
    | .opening =>
      let args := args.drop 1
      if classify args = .closing then return (false, args)
      let (holds, args) ← disjunction n (classify args) args
      let args := args.drop 1
      if classify args ≠ .closing then failText "closing paren expected"
      return (holds, args)
    | .unary op =>
      match args.drop 1 with
      | [] => failText (op ++ ": argument expected")
      | a :: rest => return (← unary op a, a :: rest)
    | _ =>
      let left := args.headD []
      match classify (args.drop 1) with
      | .binary op =>
        match args.drop 2 with
        | [] => failText (op ++ ": argument expected")
        | right :: rest => return (← binary left op right, right :: rest)
      | _ => return (!left.isEmpty, args)

end

/-- Whether some arguments hold, read as a condition that starts with a given token. -/
def evaluate (token : Token) (args : List (List Char)) : Action Bool := do
  let (holds, rest) ← disjunction (8 * args.length + 8) token args
  match rest with
  | last :: _ :: _ =>
    let shown := if last.isEmpty then [] else last ++ [':', ' ']
    fail (shown ++ ofText "unexpected operator")
  | _ => return holds

/-- Whether some arguments hold; with `negated` they have to fail. -/
def holds (negated : Bool) : List (List Char) → Action Bool
  | [] => return negated
  | [a, b, c] => do
    if isBinary b then return (← evaluate .operand [a, b, c]) != negated
    else grouped [a, b, c]
  | [a, b, c, d] => grouped [a, b, c, d]
  | args => return (← evaluate (classify args) args) != negated
where
  /-- Three or four arguments, in parentheses or behind an exclamation mark or neither. -/
  grouped (args : List (List Char)) : Action Bool := do
    match args with
    | ['('] :: inner =>
      if inner.getLast? = some [')'] then
        let inner := inner.dropLast
        return (← evaluate (classify inner) inner) != negated
      else return (← evaluate (classify args) args) != negated
    | ['!'] :: [b, c] => return (← evaluate (classify [b, c]) [b, c]) == negated
    | ['!'] :: [b, c, d] =>
      if isBinary c then return (← evaluate .operand [b, c, d]) == negated
      else if b = ['('] && d = [')'] then return (← evaluate (classify [c]) [c]) == negated
      else if b = ['!'] then return (← evaluate (classify [c, d]) [c, d]) == negated
      else return (← evaluate (classify [b, c, d]) [b, c, d]) == negated
    | _ => return (← evaluate (classify args) args) != negated

/-- Says by its status whether its arguments hold. -/
def test (args : List (List Char)) : Action Nat :=
  return if ← holds false args then 0 else 1

/-- Says by its status whether its arguments hold, of which the last one closes a bracket. -/
def bracket (args : List (List Char)) : Action Nat := do
  match args.getLast? with
  | some (']' :: _) => test args.dropLast
  | _ => failText "missing ]"

end Condition
end Shell
end FeatureLadder
