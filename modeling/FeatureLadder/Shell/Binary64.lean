import FeatureLadder.Shell.Arithmetic

/-!
# Numbers of 64 bits with a binary exponent

**Input**: a text that writes a number, in decimal or behind `0x` in hexadecimal digits,
with a fraction and an exponent if it has them.

**Algorithm**: the text is read as a quotient of natural numbers.  The nearest number with
a mantissa of 53 bits is taken, and of two equally near ones the one with an even mantissa.
To write a number, its exact value is rounded to the digits that are asked for.

**Results**: `Binary64.read` and `Binary64.write`.
-/

namespace FeatureLadder
namespace Shell

/-- A number of 64 bits. -/
inductive Binary64 where
  /-- the mantissa times a power of two -/
  | finite (negative : Bool) (mantissa : Nat) (exponent : Int)
  | infinite (negative : Bool)
  | undefined (negative : Bool)

namespace Binary64

/-- A quotient rounded to the nearest number; a half goes to the even one. -/
def roundQuotient (a b : Nat) : Nat :=
  let q := a / b
  let r := 2 * (a % b)
  if r < b then q else if b < r then q + 1 else q + q % 2

/-- The quotient of two numbers times a power of a base, as a quotient. -/
def scale (a b : Nat) (base : Nat) (exponent : Int) : Nat × Nat :=
  if 0 ≤ exponent then (a * Nat.pow base exponent.toNat, b) else (a, b * Nat.pow base (-exponent).toNat)

/-- The smallest exponent. -/
def lowest : Int := -1074

/-- The number nearest to a quotient, and whether it is out of range. -/
def ofQuotient (negative : Bool) (a b : Nat) : Binary64 × Bool :=
  if a = 0 then (.finite negative 0 0, false)
  else
    let guess : Int := (Nat.log2 a : Int) - (Nat.log2 b : Int) - 53
    let wide (e : Int) : Bool :=
      let (x, y) := scale a b 2 (-e)
      0x20000000000000 ≤ x / y
    let e := if wide (guess + 1) then guess + 2 else if wide guess then guess + 1 else guess
    let e := max e lowest
    let (x, y) := scale a b 2 (-e)
    let m := roundQuotient x y
    let small := m < 0x10000000000000 && x % y ≠ 0
    if 971 < e || (e = 971 && 0x20000000000000 ≤ m) then (.infinite negative, true)
    else (.finite negative m e, small)

/-- The number of an exponent behind its letter, and what follows it. -/
def exponent? : List Char → Option (Int × List Char)
  | '-' :: rest => digits rest |>.map fun (n, after) => (-n, after)
  | '+' :: rest => digits rest
  | rest => digits rest
where
  /-- The number that decimal digits write; a very large one counts as 20000. -/
  digits (cs : List Char) : Option (Int × List Char) :=
    let taken := cs.takeWhile Char.isDigit
    if taken.isEmpty then none
    else some (Int.ofNat (min 20000 (Arithmetic.ofDigits 10 taken)), cs.drop taken.length)

/-- The digits of a number with their base, the number of them behind the point, and what
follows. -/
def mantissa? (base : Nat) (cs : List Char) : Option (Nat × Nat × List Char) :=
  let whole := cs.takeWhile (Arithmetic.isDigitIn base)
  let after := cs.drop whole.length
  let (fraction, after) :=
    match after with
    | '.' :: rest =>
      let fraction := rest.takeWhile (Arithmetic.isDigitIn base)
      if whole.isEmpty && fraction.isEmpty then ([], after)
      else (fraction, rest.drop fraction.length)
    | _ => ([], after)
  if whole.isEmpty && fraction.isEmpty then none
  else some (Arithmetic.ofDigits base (whole ++ fraction), fraction.length, after)

/-- Whether a text starts with a word, whatever its case. -/
def startsWith (word : String) (cs : List Char) : Bool :=
  word.toList.isPrefixOf (cs.map Char.toLower)

/-- The number at the start of a text without a sign, whether it is out of range, and what
follows it. -/
def readUnsigned (negative : Bool) (cs : List Char) : Option (Binary64 × Bool × List Char) :=
  if startsWith "infinity" cs then some (.infinite negative, false, cs.drop 8)
  else if startsWith "inf" cs then some (.infinite negative, false, cs.drop 3)
  else if startsWith "nan" cs then some (.undefined negative, false, cs.drop 3)
  else
    let hexadecimal := if startsWith "0x" cs then mantissa? 16 (cs.drop 2) else none
    let (base, power, letter, found) :=
      match hexadecimal with
      | some found => (16, 2, 'p', some found)
      | none => (10, 10, 'e', mantissa? 10 cs)
    match found with
    | none => none
    | some (n, places, after) =>
      let (e, after) :=
        match after with
        | c :: rest => if c.toLower = letter then (exponent? rest).getD (0, after) else (0, after)
        | [] => (0, after)
      let shift : Int := if base = 16 then 4 * Int.ofNat places else Int.ofNat places
      let (a, b) := scale n 1 power (e - shift)
      let (value, outside) := ofQuotient negative a b
      some (value, outside, after)

/-- The number at the start of a text, whether it is out of range, and what follows it; none
if there is no number. -/
def read (cs : List Char) : Option (Binary64 × Bool × List Char) :=
  match cs.dropWhile Arithmetic.isSpace with
  | '-' :: rest => readUnsigned true rest
  | '+' :: rest => readUnsigned false rest
  | rest => readUnsigned false rest

/-- Decimal digits with a point before the last few of them. -/
def pointed (alternate : Bool) (places : Nat) (n : Nat) : List Char :=
  let digits := Nat.toDigits 10 n
  let digits := List.replicate (places + 1 - digits.length) '0' ++ digits
  let whole := digits.take (digits.length - places)
  if places = 0 then (if alternate then whole ++ ['.'] else whole)
  else whole ++ ['.'] ++ digits.drop (digits.length - places)

/-- A value with a fixed number of places. -/
def fixed (alternate : Bool) (places : Nat) (m : Nat) (e : Int) : List Char :=
  let (a, b) := scale m 1 2 e
  pointed alternate places (roundQuotient (a * Nat.pow 10 places) b)

/-- The decimal exponent of a value that is not zero. -/
def decimalExponent (a b : Nat) : Int :=
  let guess : Int := (Nat.toDigits 10 a).length - (Nat.toDigits 10 b).length
  let (x, y) := scale a b 10 (-guess)
  if y ≤ x then guess else guess - 1

/-- The digits of a value, one before the point, and its decimal exponent. -/
def scientificDigits (places : Nat) (m : Nat) (e : Int) : Nat × Int :=
  if m = 0 then (0, 0)
  else
    let (a, b) := scale m 1 2 e
    let x := decimalExponent a b
    let (a, b) := scale a b 10 (Int.ofNat places - x)
    let n := roundQuotient a b
    if n < Nat.pow 10 (places + 1) then (n, x) else (n / 10, x + 1)

/-- An exponent with its letter and sign, in at least two digits. -/
def exponentText (letter : Char) (least : Nat) (x : Int) : List Char :=
  let digits := Nat.toDigits 10 x.natAbs
  [letter, if x < 0 then '-' else '+'] ++ List.replicate (least - digits.length) '0' ++ digits

/-- A value with one digit before the point and an exponent. -/
def scientific (alternate : Bool) (places : Nat) (m : Nat) (e : Int) : List Char :=
  let (n, x) := scientificDigits places m e
  pointed alternate places n ++ exponentText 'e' 2 x

/-- A text without the zeros at the end of its fraction. -/
def withoutZeros (cs : List Char) : List Char :=
  if !cs.contains '.' then cs
  else
    match cs.reverse.dropWhile (· == '0') with
    | '.' :: rest => rest.reverse
    | rest => rest.reverse

/-- A value in the shorter of both forms. -/
def general (alternate : Bool) (precision : Nat) (m : Nat) (e : Int) : List Char :=
  let p := max 1 precision
  let (n, x) := scientificDigits (p - 1) m e
  let tidy (cs : List Char) : List Char := if alternate then cs else withoutZeros cs
  if -4 ≤ x && x < p then tidy (fixed alternate (p - 1 - x).toNat m e)
  else tidy (pointed alternate (p - 1) n) ++ exponentText 'e' 2 x

/-- A value in hexadecimal digits with a binary exponent. -/
def hexadecimal (alternate : Bool) (precision : Option Nat) (m : Nat) (e : Int) : List Char :=
  let (lead, e) : Nat × Int :=
    if m = 0 then (0, 0)
    else
      let shift := 52 - Nat.log2 m
      (m <<< shift, e - shift + 52)
  let point (digits : List Char) : List Char :=
    if digits.isEmpty && !alternate then [] else '.' :: digits
  let text :=
    match precision with
    | none =>
      let digits := Nat.toDigits 16 (lead % 0x10000000000000)
      let digits := List.replicate (13 - digits.length) '0' ++ digits
      Nat.toDigits 16 (lead >>> 52) ++ point (digits.reverse.dropWhile (· == '0')).reverse
    | some p =>
      let p' := min p 13
      let n := roundQuotient lead (Nat.pow 16 (13 - p'))
      let digits := Nat.toDigits 16 (n % Nat.pow 16 p')
      let digits := if p' = 0 then [] else List.replicate (p' - digits.length) '0' ++ digits
      Nat.toDigits 16 (n / Nat.pow 16 p') ++ point (digits ++ List.replicate (p - p') '0')
  ['0', 'x'] ++ text ++ exponentText 'p' 1 e

/-- The text of a number without its sign, in the form that a letter stands for. -/
def write (letter : Char) (alternate : Bool) (precision : Option Nat) (x : Binary64) : List Char :=
  let text :=
    match x with
    | .infinite _ => ['i', 'n', 'f']
    | .undefined _ => ['n', 'a', 'n']
    | .finite _ m e =>
      match letter.toLower with
      | 'f' => fixed alternate (precision.getD 6) m e
      | 'e' => scientific alternate (precision.getD 6) m e
      | 'a' => hexadecimal alternate precision m e
      | _ => general alternate (precision.getD 6) m e
  if letter.isUpper then text.map Char.toUpper else text

/-- Whether a number has a sign in front of it. -/
def isNegative : Binary64 → Bool
  | .finite s .. | .infinite s | .undefined s => s

/-- Whether a number is neither infinite nor undefined. -/
def isFinite : Binary64 → Bool
  | .finite .. => true
  | _ => false

end Binary64
end Shell
end FeatureLadder
