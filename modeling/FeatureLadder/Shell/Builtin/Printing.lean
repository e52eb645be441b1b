import FeatureLadder.Shell.Binary64
import FeatureLadder.Shell.Calling

/-!
# Printing commands

`echo` writes its arguments with blanks between them; `printf` writes its arguments by
a format, which is used again as long as arguments are left.  Both know the escapes for
control characters and for bytes by their octal number.
-/

namespace FeatureLadder
namespace Shell
namespace Printing

/-- The character that a letter behind a backslash stands for. -/
def control? (c : Char) : Option Char :=
  match c with
  | 'a' => some '\x07'
  | 'b' => some '\x08'
  | 'e' => some '\x1b'
  | 'f' => some '\x0c'
  | 'n' => some '\n'
  | 'r' => some '\r'
  | 't' => some '\t'
  | 'v' => some '\x0b'
  | '\\' => some '\\'
  | _ => none

/-- Whether a character is an octal digit. -/
def isOctal (c : Char) : Bool :=
  '0' ≤ c && c ≤ '7'

/-- The byte that some octal digits write. -/
def octal (digits : List Char) : Char :=
  Char.ofNat (Arithmetic.ofDigits 8 digits % 256)

/-- The up to three octal digits at the start of a text. -/
def octalDigits (cs : List Char) : List Char :=
  (cs.take 3).takeWhile isOctal

/-- Escaped text, given a bound on its length; it ends early at a backslash and `c`, and
then nothing further is written. -/
def unescape : Nat → List Char → List Char × Bool
  | 0, _ => ([], false)
  | _ + 1, [] => ([], false)
  | n + 1, '\\' :: c :: rest =>
    if c = 'c' then ([], true)
    else
      match control? c with
      | some d =>
        let (more, ended) := unescape n rest
        (d :: more, ended)
      | none =>
        if isOctal c then
          let leading := c = '0' && rest.head?.any isOctal
          let digits := octalDigits (if leading then rest else c :: rest)
          let (more, ended) := unescape n ((if leading then rest else c :: rest).drop digits.length)
          (octal digits :: more, ended)
        else
          let (more, ended) := unescape n (c :: rest)
          ('\\' :: more, ended)
  | n + 1, c :: rest =>
    let (more, ended) := unescape n rest
    (c :: more, ended)

def echo (args : List (List Char)) : Action Nat := do
  let (newline, args) :=
    match args with
    | ['-', 'n'] :: rest => (false, rest)
    | _ => (true, args)
  let line := [' '].intercalate args
  let (text, ended) := unescape (line.length + 1) line
  put (if newline && !ended then text ++ ['\n'] else text)
  return 0

/-- How a value is laid out. -/
structure Layout where
  left : Bool := false
  zeros : Bool := false
  plus : Bool := false
  blank : Bool := false
  alternate : Bool := false
  width : Nat := 0
  precision : Option Nat := none

/-- The flags at the start of a directive. -/
def flags (l : Layout) : List Char → Layout × List Char
  | '-' :: rest => flags { l with left := true } rest
  | '0' :: rest => flags { l with zeros := true } rest
  | '+' :: rest => flags { l with plus := true } rest
  | ' ' :: rest => flags { l with blank := true } rest
  | '#' :: rest => flags { l with alternate := true } rest
  | rest => (l, rest)

/-- A text filled up to its width. -/
def fill (l : Layout) (cs : List Char) : List Char :=
  let blanks := List.replicate (l.width - cs.length) ' '
  if l.left then cs ++ blanks else blanks ++ cs

/-- A number with what stands in front of its digits, filled up to its width. -/
def fillNumber (l : Layout) (zeros : Bool) (lead digits : List Char) : List Char :=
  if zeros && !l.left then
    lead ++ List.replicate (l.width - lead.length - digits.length) '0' ++ digits
  else fill l (lead ++ digits)

/-- The sign in front of a number. -/
def sign (l : Layout) (negative : Bool) : List Char :=
  if negative then ['-'] else if l.plus then ['+'] else if l.blank then [' '] else []

/-- What a directive for integers writes. -/
def integerText (l : Layout) (conversion : Char) (n : Int) : List Char :=
  let unsigned := (n % 0x10000000000000000).toNat
  let signed := conversion = 'd' || conversion = 'i'
  let magnitude := if signed then n.natAbs else unsigned
  let base := if conversion = 'o' then 8 else if conversion.toLower = 'x' then 16 else 10
  let digits := if magnitude = 0 && l.precision = some 0 then [] else Nat.toDigits base magnitude
  let digits := List.replicate (l.precision.getD 0 - digits.length) '0' ++ digits
  let digits := if conversion = 'X' then digits.map Char.toUpper else digits
  let digits :=
    if conversion = 'o' && l.alternate && digits.head? ≠ some '0' then '0' :: digits else digits
  let lead :=
    if signed then sign l (n < 0)
    else if base = 16 && l.alternate && magnitude ≠ 0 then ['0', conversion]
    else []
  fillNumber l (l.zeros && l.precision.isNone) lead digits

/-- What a directive for numbers with a fraction writes. -/
def fractionText (l : Layout) (conversion : Char) (x : Binary64) : List Char :=
  let text := x.write conversion l.alternate l.precision
  let lead := sign l x.isNegative
  let (lead, text) :=
    if conversion.toLower = 'a' && x.isFinite then (lead ++ text.take 2, text.drop 2)
    else (lead, text)
  fillNumber l (l.zeros && x.isFinite) lead text

/-- How far a format has been worked off. -/
structure Work where
  arguments : List (List Char)
  status : Nat := 0
  /-- nothing further is written -/
  ended : Bool := false

/-- Working off a format. -/
abbrev Format := StateT Work Action

/-- The next argument, if one is left. -/
def nextArgument : Format (Option (List Char)) := do
  let w ← get
  match w.arguments with
  | [] => return none
  | a :: rest =>
    set { w with arguments := rest }
    return some a

/-- Complains about an argument, and goes on. -/
def complain (argument : List Char) (text : String) : Format PUnit := do
  warn (argument ++ ofText (": " ++ text))
  modify fun w => { w with status := 1 }

/-- Complains about an argument that was not read to its end or is out of range. -/
def checkConversion (argument rest : List Char) (outside : Bool) : Format PUnit := do
  if !rest.isEmpty then
    complain argument
      (if rest.length = argument.length then "expected numeric value" else "not completely converted")
  else if outside then complain argument "Numerical result out of range"

/-- The integer at the start of an argument, whether it is out of range, and what follows
it. -/
def leadingInteger (signed : Bool) (argument : List Char) : Int × Bool × List Char :=
  let body := argument.dropWhile Arithmetic.isSpace
  let (negative, body) :=
    match body with
    | '-' :: rest => (true, rest)
    | '+' :: rest => (false, rest)
    | _ => (false, body)
  if !body.head?.any Char.isDigit then (0, false, argument)
  else
    let (n, rest) := Arithmetic.leadingNumber body
    if signed then
      let limit := if negative then Arithmetic.range / 2 else Arithmetic.range / 2 - 1
      let m : Int := min n limit
      (if negative then -m else m, limit < n, rest)
    else
      let limit := Arithmetic.range - 1
      (if limit < n then Int.ofNat limit else if negative then -Int.ofNat n else n, limit < n, rest)

/-- The integer that the next argument writes; a quote in front of a character stands for
the number of that character. -/
def integerArgument (signed : Bool) : Format Int := do
  match ← nextArgument with
  | none => return 0
  | some argument =>
    match argument with
    | '"' :: rest | '\x27' :: rest => return (rest.head?.map fun c => Int.ofNat c.toNat).getD 0
    | _ =>
      let (n, outside, rest) := leadingInteger signed argument
      checkConversion argument rest outside
      return n

/-- The number that the next argument writes. -/
def fractionArgument : Format Binary64 := do
  match ← nextArgument with
  | none => return .finite false 0 0
  | some argument =>
    match argument with
    | '"' :: rest | '\x27' :: rest =>
      return .finite false ((rest.head?.map Char.toNat).getD 0) 0
    | _ =>
      match Binary64.read argument with
      | none =>
        checkConversion argument argument false
        return .finite false 0 0
      | some (x, outside, rest) =>
        checkConversion argument rest outside
        return x

/-- A number of places, written in digits or taken from the arguments; none if there is
neither. -/
def places (cs : List Char) : Format (Option Int × List Char) := do
  match cs with
  | '*' :: rest => return (some (Int.bmod (← integerArgument true) 0x100000000), rest)
  | _ =>
    let digits := cs.takeWhile Char.isDigit
    let value := if digits.isEmpty then none else some (Int.ofNat (Arithmetic.ofDigits 10 digits))
    return (value, cs.drop digits.length)

/-- The layout of a directive behind its percent sign, and its conversion with what
follows. -/
def directive (cs : List Char) : Format (Layout × List Char) := do
  let (l, rest) := flags {} cs
  let (width, rest) ← places rest
  let width := width.getD 0
  let l := { l with width := width.natAbs, left := l.left || width < 0 }
  match rest with
  | '.' :: rest =>
    let (precision, rest) ← places rest
    let precision := precision.getD 0
    return ({ l with precision := if precision < 0 then none else some precision.toNat }, rest)
  | _ => return (l, rest)

/-- A text cut to its precision and filled up to its width. -/
def textOf (l : Layout) (s : List Char) : List Char :=
  fill l (l.precision.elim s s.take)

/-- Works off one conversion. -/
def convert (l : Layout) (conversion : Char) : Format PUnit := do
  match conversion with
  | 's' => put (textOf l ((← nextArgument).getD []))
  | 'b' =>
    let s := (← nextArgument).getD []
    let (s, ended) := unescape (s.length + 1) s
    put (textOf l s)
    modify fun w => { w with ended := ended }
  | 'c' => put (fill l [((← nextArgument).bind List.head?).getD (Char.ofNat 0)])
  | 'd' | 'i' => put (integerText l conversion (← integerArgument true))
  | 'o' | 'u' | 'x' | 'X' => put (integerText l conversion (← integerArgument false))
  | _ => put (fractionText l conversion (← fractionArgument))

/-- Works off a format once, given a bound on its length. -/
def pass : Nat → List Char → Format PUnit
  | 0, _ => return
  | n + 1, cs => do
    if (← get).ended then return
    match cs with
    | [] => return
    | '%' :: '%' :: rest =>
      put ['%']
      pass n rest
    | '%' :: start =>
      let (l, rest) ← directive start
      match rest with
      | [] => failText "missing format character"
      | c :: after =>
        if "sbcdiuoxXaAeEfFgG".toList.contains c then
          convert l c
          pass n after
        else
          let text := '%' :: start.take (start.length - after.length)
          fail (text ++ ofText ": invalid directive")
    | '\\' :: c :: rest =>
      match control? c with
      | some d =>
        put [d]
        pass n rest
      | none =>
        if isOctal c then
          let digits := octalDigits (c :: rest)
          put [octal digits]
          pass n ((c :: rest).drop digits.length)
        else
          put ['\\']
          pass n (c :: rest)
    | c :: rest =>
      put [c]
      pass n rest

/-- Works off a format until no arguments are left, given a bound on the rounds. -/
def rounds (format : List Char) : Nat → Format PUnit
  | 0 => return
  | n + 1 => do
    let before := (← get).arguments.length
    pass (format.length + 1) format
    let w ← get
    if !w.ended && !w.arguments.isEmpty && w.arguments.length ≠ before then rounds format n

/-- Writes its arguments by a format. -/
def printf (args : List (List Char)) : Action Nat := do
  let (_, args) ← options "" args
  match args with
  | [] => failText "usage: printf format [arg ...]"
  | format :: args =>
    let (_, w) ← (rounds format (args.length + 1)).run { arguments := args }
    return w.status

end Printing
end Shell
end FeatureLadder
