import FeatureLadder.Proofs.DigitRuns

/-!
# The grammar of JSON texts

The grammar that the standard for JSON gives, as a relation between what a text says and
the text.  It knows more than the program ever writes: the null value, numbers with a
fraction and an exponent, every escape a text may hold, and gaps around every part.

* A number is kept as mantissa and exponent, with all the digits that were written.
* A character of a text can be spelled in several ways: as itself, by a letter behind a
  backslash, by the number of a UTF-16 unit, or by two such numbers if it lies beyond
  the sixteen bits of one.  Half of such a pair spells nothing.
* The members of an object stay in the order in which they are written, and names may
  repeat.

Gaps may stand around every value, so `WrittenAs` describes a whole document as well as a
part of one.
-/

namespace FeatureLadder

/-- What a JSON text says. -/
inductive Datum where
  | null
  | bool (b : Bool)
  /-- the number `mantissa * 10 ^ exponent` -/
  | number (mantissa exponent : Int)
  | text (s : String)
  | list (items : List Datum)
  | object (members : List (String × Datum))

namespace Datum

def isGapChar (c : Char) : Bool :=
  c = ' ' || c = '\t' || c = '\n' || c = '\r'

/-- What may stand between the parts of a text. -/
def IsGap (s : List Char) : Prop :=
  ∀ c ∈ s, isGapChar c = true

section Texts

/-- What a letter behind a backslash stands for. -/
def shortEscape? : Char → Option Char
  | '"' => some '"'
  | '\\' => some '\\'
  | '/' => some '/'
  | 'b' => some '\x08'
  | 'f' => some '\x0c'
  | 'n' => some '\n'
  | 'r' => some '\r'
  | 't' => some '\t'
  | _ => none

def hexValue? (c : Char) : Option Nat :=
  if '0' ≤ c ∧ c ≤ '9' then some (c.toNat - 0x30)
  else if 'a' ≤ c ∧ c ≤ 'f' then some (c.toNat - 0x57)
  else if 'A' ≤ c ∧ c ≤ 'F' then some (c.toNat - 0x37)
  else none

/-- The UTF-16 unit that four hexadecimal digits write. -/
def unit? : List Char → Option Nat
  | [a, b, c, d] => do
    return 4096 * (← hexValue? a) + 256 * (← hexValue? b) + 16 * (← hexValue? c) + (← hexValue? d)
  | _ => none

/-- The first unit of a pair. -/
def IsHigh (n : Nat) : Prop :=
  0xD800 ≤ n ∧ n < 0xDC00

/-- The second unit of a pair. -/
def IsLow (n : Nat) : Prop :=
  0xDC00 ≤ n ∧ n < 0xE000

instance (n : Nat) : Decidable (IsHigh n) :=
  inferInstanceAs (Decidable (_ ∧ _))

instance (n : Nat) : Decidable (IsLow n) :=
  inferInstanceAs (Decidable (_ ∧ _))

/-- The code point that a pair of units stands for. -/
def paired (high low : Nat) : Nat :=
  0x10000 + 0x400 * (high - 0xD800) + (low - 0xDC00)

/-- Whether a character may stand for itself. -/
def isRaw (c : Char) : Bool :=
  0x20 ≤ c.toNat && c ≠ '"' && c ≠ '\\'

/-- The ways to spell one character of a text. -/
inductive Spelled : Char → List Char → Prop
  | raw
      {c : Char}
      (hraw : isRaw c = true) :
      Spelled c [c]
  | short
      {c letter : Char}
      (hletter : shortEscape? letter = some c) :
      Spelled c ['\\', letter]
  | unit
      {n : Nat}
      {digits : List Char}
      (hunit : unit? digits = some n)
      (hhigh : ¬ IsHigh n)
      (hlow : ¬ IsLow n) :
      Spelled (Char.ofNat n) ('\\' :: 'u' :: digits)
  | pair
      {high low : Nat}
      {digits digits' : List Char}
      (hunit : unit? digits = some high)
      (hhigh : IsHigh high)
      (hunit' : unit? digits' = some low)
      (hlow : IsLow low) :
      Spelled (Char.ofNat (paired high low))
        ('\\' :: 'u' :: digits ++ '\\' :: 'u' :: digits')

/-- The characters of a text, each spelled in some way. -/
inductive SpelledAll : List Char → List Char → Prop
  | nil : SpelledAll [] []
  | cons
      {c : Char}
      {cs s t : List Char}
      (hc : Spelled c s)
      (hcs : SpelledAll cs t) :
      SpelledAll (c :: cs) (s ++ t)

end Texts

section Numbers

/-- The digits behind the point, and how they are written. -/
inductive Fraction : List Char → List Char → Prop
  | absent : Fraction [] []
  | present
      {ds : List Char}
      (hds : IsDigitRun ds) :
      Fraction ds ('.' :: ds)

def isMark (c : Char) : Bool :=
  c = 'e' || c = 'E'

/-- An integer with an optional sign, and how it is written. -/
inductive Signed : Int → List Char → Prop
  | plain
      {ds : List Char}
      (hds : IsDigitRun ds) :
      Signed (runValue ds) ds
  | plus
      {ds : List Char}
      (hds : IsDigitRun ds) :
      Signed (runValue ds) ('+' :: ds)
  | minus
      {ds : List Char}
      (hds : IsDigitRun ds) :
      Signed (-(runValue ds : Int)) ('-' :: ds)

/-- An exponent, and how it is written. -/
inductive Exponent : Int → List Char → Prop
  | absent : Exponent 0 []
  | present
      {mark : Char}
      {e : Int}
      {s : List Char}
      (hmark : isMark mark = true)
      (hs : Signed e s) :
      Exponent e (mark :: s)

/-- A number without sign, as mantissa and exponent, and how it is written.  No zero
stands in front of another digit. -/
inductive Magnitude : Nat × Int → List Char → Prop
  | mk
      {whole ds s t : List Char}
      {e : Int}
      (hwhole : IsStripped whole)
      (hfraction : Fraction ds s)
      (hexponent : Exponent e t) :
      Magnitude (runValue (whole ++ ds), e - ds.length) (whole ++ s ++ t)

end Numbers

/-- A member of an object, and how its name and its value are written. -/
structure Member where
  name : String
  value : Datum
  nameText : List Char
  valueText : List Char

def Member.said (m : Member) : String × Datum :=
  (m.name, m.value)

def Member.written (m : Member) : List Char :=
  m.nameText ++ ':' :: m.valueText

/-- **What a text says**, by the grammar of JSON. -/
inductive WrittenAs : Datum → List Char → Prop
  | padded
      {d : Datum}
      {before s after : List Char}
      (hbefore : IsGap before)
      (hs : WrittenAs d s)
      (hafter : IsGap after) :
      WrittenAs d (before ++ s ++ after)
  | null :
      WrittenAs .null ['n', 'u', 'l', 'l']
  | true :
      WrittenAs (.bool Bool.true) ['t', 'r', 'u', 'e']
  | false :
      WrittenAs (.bool Bool.false) ['f', 'a', 'l', 's', 'e']
  | number
      {n : Nat × Int}
      {s : List Char}
      (hs : Magnitude n s) :
      WrittenAs (.number n.1 n.2) s
  | negative
      {n : Nat × Int}
      {s : List Char}
      (hs : Magnitude n s) :
      WrittenAs (.number (-(n.1 : Int)) n.2) ('-' :: s)
  | text
      {cs s : List Char}
      (hs : SpelledAll cs s) :
      WrittenAs (.text (String.ofList cs)) ('"' :: s ++ ['"'])
  | list
      {items : List (Datum × List Char)}
      {gap : List Char}
      (hitems : ∀ item ∈ items, WrittenAs item.1 item.2)
      (hgap : IsGap gap) :
      WrittenAs (.list (items.map Prod.fst))
        ('[' :: [','].intercalate (items.map Prod.snd) ++ gap ++ [']'])
  | object
      {members : List Member}
      {gap : List Char}
      (hnames : ∀ m ∈ members, WrittenAs (.text m.name) m.nameText)
      (hvalues : ∀ m ∈ members, WrittenAs m.value m.valueText)
      (hgap : IsGap gap) :
      WrittenAs (.object (members.map Member.said))
        ('\x7b' :: [','].intercalate (members.map Member.written) ++ gap ++ ['\x7d'])

end Datum
end FeatureLadder
