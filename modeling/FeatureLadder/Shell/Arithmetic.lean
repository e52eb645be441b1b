import FeatureLadder.Shell.Bytes

/-!
# Arithmetic expressions

**Input**: the text of an expression, and the values of variables.

**Algorithm**: the text is cut into tokens, and these are read by recursive descent
while the value is computed in integers of 64 bits.  A part whose value does not matter
is read without looking at variables.

**Results**: `evaluate` gives the value and the variables that were set on the way, or
the reason why there is no value.
-/

namespace FeatureLadder
namespace Shell
namespace Arithmetic

/-- Why an expression has no value. -/
inductive Fault where
  | noOperand
  | noEnd
  | noParenthesis
  | noColon
  | divisionByZero
  /-- a variable whose value is no number -/
  | illegalNumber (text : List Char)

/-- What is said about an expression without a value. -/
def Fault.message (expression : List Char) : Fault → String
  | .illegalNumber text => "Illegal number: " ++ toText text
  | fault =>
    let said :=
      match fault with
      | .noOperand => "expecting primary"
      | .noParenthesis => "expecting ')'"
      | .noColon => "expecting ':'"
      | .divisionByZero => "division by zero"
      | _ => "expecting EOF"
    "arithmetic expression: " ++ said ++ ": \"" ++ toText expression ++ "\""

/-- The smallest parts of an expression. -/
inductive Token where
  | number (n : Int)
  | variable (name : List Char)
  | operator (op : String)
  /-- a character that no expression may have -/
  | bad
  deriving DecidableEq

/-- The number of values that 64 bits can have. -/
def range : Nat := 0x10000000000000000

/-- A number as 64 bits hold it. -/
def wrap (n : Int) : Int :=
  Int.bmod n range

/-- The greatest number that 64 bits hold. -/
def greatest : Int := 0x7FFFFFFFFFFFFFFF

/-- The value of a digit in any base up to sixteen. -/
def digitValue (c : Char) : Nat :=
  if c.isDigit then c.toNat - 0x30 else c.toLower.toNat - 0x57

/-- Whether a character is a digit in a base. -/
def isDigitIn (base : Nat) (c : Char) : Bool :=
  (c.isDigit || c.isAlpha) && digitValue c < base

/-- The number that some digits write. -/
def ofDigits (base : Nat) (cs : List Char) : Nat :=
  cs.foldl (fun n c => base * n + digitValue c) 0

/-- The number at the start of a text, in base eight behind a zero and in base sixteen
behind `0x`, and what follows it. -/
def leadingNumber (cs : List Char) : Nat × List Char :=
  let (base, body) :=
    match cs with
    | '0' :: x :: d :: rest =>
      if x.toLower = 'x' && isDigitIn 16 d then (16, d :: rest) else (8, cs)
    | '0' :: _ => (8, cs)
    | _ => (10, cs)
  (ofDigits base (body.takeWhile (isDigitIn base)), body.dropWhile (isDigitIn base))

/-- Whether a character is a blank in numbers. -/
def isSpace (c : Char) : Bool :=
  c == ' ' || (0x09 ≤ c.toNat && c.toNat ≤ 0x0D)

/-- The number that a text writes, with a sign and blanks around it.  A blank text counts
as zero. -/
def number? (cs : List Char) : Option Int :=
  let body := cs.dropWhile isSpace
  let (negative, body) :=
    match body with
    | '-' :: rest => (true, rest)
    | '+' :: rest => (false, rest)
    | _ => (false, body)
  let (n, rest) := leadingNumber body
  let found := body.head?.any Char.isDigit
  if !found then (if cs.all isSpace then some 0 else none)
  else if !rest.all isSpace then none
  else if negative then (if n ≤ range / 2 then some (-(n : Int)) else none)
  else if (n : Int) ≤ greatest then some n else none

/-- The operators, longest first. -/
def operators : List String :=
  ["<<=", ">>=", "<<", ">>", "<=", ">=", "==", "!=", "&&", "||", "+=", "-=", "*=", "/=", "%=", "&=",
    "|=", "^=", "+", "-", "*", "/", "%", "<", ">", "=", "&", "|", "^", "!", "~", "(", ")", "?", ":"]

/-- The tokens of an expression, given a bound on their number. -/
def tokens : Nat → List Char → List Token
  | 0, _ => []
  | _ + 1, [] => []
  | n + 1, c :: rest =>
    if c = ' ' || c = '\t' || c = '\n' then tokens n rest
    else if c.isDigit then
      let (k, after) := leadingNumber (c :: rest)
      .number (min (k : Int) greatest) :: tokens n after
    else if isNameStart c then
      .variable ((c :: rest).takeWhile isNameChar) :: tokens n ((c :: rest).dropWhile isNameChar)
    else
      match operators.find? fun op => op.toList.isPrefixOf (c :: rest) with
      | some op => .operator op :: tokens n ((c :: rest).drop op.length)
      | none => [.bad]

/-- How loosely a binary operator binds; none for what is not one. -/
def rank? (op : String) : Option Nat :=
  [["*", "/", "%"], ["+", "-"], ["<<", ">>"], ["<", "<=", ">", ">="], ["==", "!="], ["&"], ["^"],
    ["|"]].findIdx? (·.contains op)

/-- A truth value as a number. -/
def truth (b : Bool) : Int :=
  if b then 1 else 0

/-- Two numbers as 64 bits each, joined bit by bit. -/
def bitwise (f : Nat → Nat → Nat) (a b : Int) : Int :=
  wrap (f (a % 0x10000000000000000).toNat (b % 0x10000000000000000).toNat)

/-- The value of a binary operator. -/
def apply (op : String) (a b : Int) : Except Fault Int :=
  match op with
  | "+" => .ok (wrap (a + b))
  | "-" => .ok (wrap (a - b))
  | "*" => .ok (wrap (a * b))
  | "/" => if b = 0 then .error .divisionByZero else .ok (wrap (a.tdiv b))
  | "%" => if b = 0 then .error .divisionByZero else .ok (wrap (a.tmod b))
  | "<<" => .ok (wrap (a * Int.ofNat (1 <<< (b % 64).toNat)))
  | ">>" => .ok (a >>> (b % 64).toNat)
  | "<" => .ok (truth (a < b))
  | "<=" => .ok (truth (a ≤ b))
  | ">" => .ok (truth (a > b))
  | ">=" => .ok (truth (a ≥ b))
  | "==" => .ok (truth (a = b))
  | "!=" => .ok (truth (a ≠ b))
  | "&" => .ok (bitwise Nat.land a b)
  | "^" => .ok (bitwise Nat.xor a b)
  | "|" => .ok (bitwise Nat.lor a b)
  | _ => .error .noEnd

/-- What is left of an expression, and the variables that have been set, latest first. -/
structure Progress where
  rest : List Token
  assigned : List (List Char × Int) := []

/-- Computing while reading. -/
abbrev Compute := StateT Progress (Except Fault)

def peek : Compute (Option Token) :=
  return (← get).rest.head?

def drop : Compute PUnit :=
  modify fun p => { p with rest := p.rest.tail }

def lookup (value : List Char → Option (List Char)) (name : List Char) : Compute Int := do
  match (← get).assigned.lookup name with
  | some n => return n
  | none =>
    let text := (value name).getD []
    match number? text with
    | some n => return n
    | none => throw (.illegalNumber text)

/-- The operator behind an assignment operator. -/
def assigning? (op : String) : Option String :=
  if ["=", "<<=", ">>=", "+=", "-=", "*=", "/=", "%=", "&=", "|=", "^="].contains op then
    some (String.ofList op.toList.dropLast)
  else none

mutual

/-- An assignment or a conditional expression. -/
def assignment (value : List Char → Option (List Char)) (idle : Bool) : Nat → Compute Int
  | 0 => throw .noOperand
  | n + 1 => do
    match (← get).rest with
    | .variable name :: .operator op :: _ =>
      match assigning? op with
      | none => conditional value idle n
      | some base =>
        drop
        drop
        let right ← assignment value idle n
        if idle then return right
        let result ←
          if base.isEmpty then pure right else do
            apply base (← lookup value name) right
        modify fun p => { p with assigned := (name, result) :: p.assigned }
        return result
    | _ => conditional value idle n

def conditional (value : List Char → Option (List Char)) (idle : Bool) : Nat → Compute Int
  | 0 => throw .noOperand
  | n + 1 => do
    let a ← disjunction value idle n
    if (← peek) = some (.operator "?") then
      drop
      let b ← assignment value (idle || a = 0) n
      if (← peek) ≠ some (.operator ":") then throw .noColon
      drop
      let c ← conditional value (idle || a ≠ 0) n
      return if a ≠ 0 then b else c
    else return a

def disjunction (value : List Char → Option (List Char)) (idle : Bool) : Nat → Compute Int
  | 0 => throw .noOperand
  | n + 1 => do
    let a ← conjunction value idle n
    if (← peek) = some (.operator "||") then
      drop
      let b ← disjunction value (idle || a ≠ 0) n
      return truth (a ≠ 0 || b ≠ 0)
    else return a

def conjunction (value : List Char → Option (List Char)) (idle : Bool) : Nat → Compute Int
  | 0 => throw .noOperand
  | n + 1 => do
    let a ← operand value idle n
    let a ← binary value idle 8 a n
    if (← peek) = some (.operator "&&") then
      drop
      let b ← conjunction value (idle || a = 0) n
      return truth (a ≠ 0 && b ≠ 0)
    else return a

/-- The rest of a chain of binary operators that bind tighter than a limit. -/
def binary (value : List Char → Option (List Char)) (idle : Bool) (limit : Nat) (a : Int) :
    Nat → Compute Int
  | 0 => throw .noOperand
  | n + 1 => do
    match ← peek with
    | some (.operator op) =>
      match rank? op with
      | none => return a
      | some rank =>
        if limit ≤ rank then return a
        drop
        let b ← operand value idle n
        let b ← binary value idle rank b n
        let c ← if idle then pure b else apply op a b
        binary value idle limit c n
    | _ => return a

/-- A number, a variable, an operator in front of an operand, or an expression in
parentheses. -/
def operand (value : List Char → Option (List Char)) (idle : Bool) : Nat → Compute Int
  | 0 => throw .noOperand
  | n + 1 => do
    match ← peek with
    | some (.number k) =>
      drop
      return k
    | some (.variable name) =>
      drop
      if idle then return 0 else lookup value name
    | some (.operator "(") =>
      drop
      let a ← assignment value idle n
      if (← peek) ≠ some (.operator ")") then throw .noParenthesis
      drop
      return a
    | some (.operator "+") =>
      drop
      operand value idle n
    | some (.operator "-") =>
      drop
      return wrap (-(← operand value idle n))
    | some (.operator "!") =>
      drop
      return truth ((← operand value idle n) = 0)
    | some (.operator "~") =>
      drop
      return -1 - (← operand value idle n)
    | _ => throw .noOperand

end

/-- The value of an expression, and the variables that it sets, in order. -/
def evaluate (value : List Char → Option (List Char)) (text : List Char) :
    Except Fault (Int × List (List Char × Int)) := do
  let ts := tokens (text.length + 1) text
  let (n, p) ← (assignment value false (16 * ts.length + 16)).run { rest := ts }
  if p.rest.isEmpty then return (n, p.assigned.reverse) else throw .noEnd

end Arithmetic
end Shell
end FeatureLadder
