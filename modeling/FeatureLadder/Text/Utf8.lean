/-!
# UTF-8

**Input**: a list of bytes.

**Algorithm**: a machine reads one byte at a time.  Between characters it is at
`start`; inside a character it remembers the value so far, how many bytes are still
to come, and the range the next one has to lie in (only the first byte after the
lead has a narrower range than `80..BF`).  A byte outside the range ends the
character as broken and is read again as the start of the next one, so each maximal
part of a character that cannot be completed counts once.

`lossy` replaces each broken part by U+FFFD, and `decode?` refuses the text if there is
one.
-/

namespace FeatureLadder
namespace Utf8

/-- What the bytes of a text amount to: a character, or a part of one that cannot be
completed. -/
inductive Piece where
  | char (c : Char)
  | broken
  deriving DecidableEq

/-- Where the machine stands between two bytes. -/
inductive State where
  | start
  | inside (value : Nat) (missing : Nat) (low high : UInt8)
  deriving DecidableEq

/-- What a byte at the start of a character leads to. -/
def lead (b : UInt8) : List Piece × State :=
  let n := b.toNat
  if b ≤ 0x7F then ([.char (Char.ofNat n)], .start)
  else if 0xC2 ≤ b ∧ b ≤ 0xDF then ([], .inside (n - 0xC0) 1 0x80 0xBF)
  else if b = 0xE0 then ([], .inside 0 2 0xA0 0xBF)
  else if b = 0xED then ([], .inside 0xD 2 0x80 0x9F)
  else if 0xE1 ≤ b ∧ b ≤ 0xEF then ([], .inside (n - 0xE0) 2 0x80 0xBF)
  else if b = 0xF0 then ([], .inside 0 3 0x90 0xBF)
  else if 0xF1 ≤ b ∧ b ≤ 0xF3 then ([], .inside (n - 0xF0) 3 0x80 0xBF)
  else if b = 0xF4 then ([], .inside 4 3 0x80 0x8F)
  else ([.broken], .start)

/-- One byte: what it completes, and where the machine stands after it. -/
def step : State → UInt8 → List Piece × State
  | .start, b => lead b
  | .inside value missing low high, b =>
    if low ≤ b ∧ b ≤ high then
      let value := value * 64 + (b.toNat - 0x80)
      if missing ≤ 1 then ([.char (Char.ofNat value)], .start)
      else ([], .inside value (missing - 1) 0x80 0xBF)
    else
      let (pieces, next) := lead b
      (.broken :: pieces, next)

/-- What is left when the bytes end. -/
def finish : State → List Piece
  | .start => []
  | .inside .. => [.broken]

/-- The pieces that the bytes complete, and where the machine stands after them. -/
def scan : State → List UInt8 → List Piece × State
  | state, [] => ([], state)
  | state, b :: rest =>
    let (pieces, next) := step state b
    let (more, last) := scan next rest
    (pieces ++ more, last)

@[simp] theorem scan_nil (state : State) : scan state [] = ([], state) := rfl

/-- The pieces of a byte text. -/
def pieces (bytes : List UInt8) : List Piece :=
  (scan .start bytes).1 ++ finish (scan .start bytes).2

/-- The character that stands for a unit, U+FFFD for a broken one. -/
def Piece.replace : Piece → Char
  | .char c => c
  | .broken => Char.ofNat 0xFFFD

/-- The character of a unit that is not broken. -/
def Piece.char? : Piece → Option Char
  | .char c => some c
  | .broken => none

/-- The text of a list of bytes, with U+FFFD for each part that cannot be completed. -/
def lossy (bytes : List UInt8) : List Char :=
  (pieces bytes).map Piece.replace

/-- The text of a list of bytes, if they are well-formed throughout. -/
def decode? (bytes : List UInt8) : Option (List Char) :=
  (pieces bytes).mapM Piece.char?

/-- The bytes of a text. -/
def encode (text : List Char) : List UInt8 :=
  text.flatMap String.utf8EncodeChar

@[simp] theorem encode_nil : encode [] = [] := rfl

@[simp] theorem encode_append (s t : List Char) : encode (s ++ t) = encode s ++ encode t := by
  simp [encode]

end Utf8
end FeatureLadder
