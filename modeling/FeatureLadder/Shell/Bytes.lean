import FeatureLadder.Text.Utf8

/-!
# Bytes in a shell

A shell works on bytes.  A byte is held as the character with its number.
-/

namespace FeatureLadder
namespace Shell

def ofBytes (bytes : List UInt8) : List Char :=
  bytes.map fun b => Char.ofNat b.toNat

def toBytes (cs : List Char) : List UInt8 :=
  cs.map fun c => c.toNat.toUInt8

/-- The bytes of a text, as characters. -/
def ofText (s : String) : List Char :=
  ofBytes (Utf8.encode s.toList)

/-- The text of some bytes that are held as characters. -/
def toText (cs : List Char) : String :=
  String.ofList (Utf8.lossy (toBytes cs))

/-- A number in decimal digits. -/
def ofNumber (n : Int) : List Char :=
  (toString n).toList

/-- The number that some decimal digits write. -/
def digits? (cs : List Char) : Option Nat :=
  if cs.isEmpty || !cs.all Char.isDigit then none
  else some (cs.foldl (fun n c => 10 * n + (c.toNat - 0x30)) 0)

/-- The characters that may stand around a number. -/
def isAroundNumber (c : Char) : Bool :=
  c == ' ' || (0x09 ≤ c.toNat && c.toNat ≤ 0x0D)

/-- The number below 2^31 that a text writes in decimal digits, with or without a sign and
with blanks around it. -/
def number? (cs : List Char) : Option Nat :=
  let cs := cs.dropWhile isAroundNumber
  let unsigned := match cs with
    | '+' :: rest | '-' :: rest => rest
    | _ => cs
  let digits := unsigned.takeWhile Char.isDigit
  if (unsigned.drop digits.length).all isAroundNumber then
    (digits? digits).filter fun n => n ≤ 0x7FFFFFFF && (n = 0 || cs.head? ≠ some '-')
  else none

/-- Whether a character may start a variable's name. -/
def isNameStart (c : Char) : Bool :=
  c.isAlpha || c == '_'

/-- Whether a character may stand in a variable's name. -/
def isNameChar (c : Char) : Bool :=
  c.isAlphanum || c == '_'

/-- Whether a text is a variable's name. -/
def isName : List Char → Bool
  | [] => false
  | c :: rest => isNameStart c && rest.all isNameChar

/-- The order of texts by their bytes. -/
def bytesLe (a b : List Char) : Bool :=
  (compare a b).isLE

end Shell
end FeatureLadder
