import FeatureLadder.Json.Value
import FeatureLadder.Log.Level
import FeatureLadder.Text.Quoted

/-!
# Log entries

An entry has a level, the part of the program it comes from, a message, which may end with
the time that some work took, further fields, and the spans it happened in, outermost
first.  A span is a stretch of work with a name and fields of its own; spans have the level
`info`.

A line of text shows the spans and their fields before the message; a JSON line holds
the same as one object.
-/

namespace FeatureLadder
namespace Log

/-- The value of a field. -/
inductive Value where
  /-- a text that is quoted on a line of text -/
  | quoted (s : String)
  /-- a text that is shown as it is -/
  | shown (s : String)
  | number (n : Int)
  | bool (b : Bool)

/-- A named value. -/
structure Field where
  name : String
  value : Value

/-- A stretch of work that entries may happen in. -/
structure Span where
  name : String
  source : String
  fields : List Field

/-- Something that is worth noting. -/
structure Entry where
  level : Level
  /-- the part of the program that the entry comes from -/
  source : String
  message : String
  /-- whether the message ends with how long the work took -/
  timed : Bool := false
  fields : List Field := []
  spans : List Span := []

/-- The value on a line of text. -/
def Value.text : Value → String
  | .quoted s => String.ofList (Text.quoted s.toList)
  | .shown s => s
  | .number n => toString n
  | .bool b => if b then "true" else "false"

/-- The value in a JSON line. -/
def Value.json : Value → Json
  | .quoted s => .text s
  | .shown s => .text s
  | .number n => .number n
  | .bool b => .bool b

/-- A field on a line of text. -/
def Field.text (f : Field) : String :=
  f.name ++ "=" ++ f.value.text

/-- A field of a JSON line. -/
def Field.member (f : Field) : String × Json :=
  (f.name, f.value.json)

/-- A span on a line of text. -/
def Span.text (s : Span) : String :=
  s.name ++ "\x7b" ++ " ".intercalate (s.fields.map Field.text) ++ "\x7d"

/-- A span in a JSON line: its fields by name, and its own name last. -/
def Span.json (s : Span) : Json :=
  let fields := s.fields.mergeSort fun f g => f.name ≤ g.name
  .object (fields.map Field.member ++ [("name", .text s.name)])

/-- A character of a message on a line of text: the controls that a terminal acts on
are written by number. -/
def showChar (c : Char) : List Char :=
  let n := c.toNat
  if n = 0x1B ∨ n = 0x07 ∨ n = 0x08 ∨ n = 0x0C ∨ n = 0x7F then
    ['\\', 'x', Json.hexDigit (n / 16), Json.hexDigit (n % 16)]
  else if 0x80 ≤ n ∧ n ≤ 0x9F then
    ['\\', 'u', '\x7b'] ++ Text.hexDigits n ++ ['\x7d']
  else [c]

/-- A message on a line of text. -/
def showMessage (s : String) : String :=
  String.ofList (s.toList.flatMap showChar)

/-- A text with blanks before it, up to a width. -/
def padLeft (width : Nat) (s : String) : String :=
  String.ofList (List.replicate (width - s.length) ' ') ++ s

/-- The message, `elapsed` being how long the work took. -/
def Entry.body (e : Entry) (elapsed : String) : String :=
  if e.timed then e.message ++ elapsed else e.message

/-- The entry as a line of text, `time` being when it happened. -/
def Entry.textLine (e : Entry) (time elapsed : String) : String :=
  let spans :=
    if e.spans.isEmpty then "" else ":".intercalate (e.spans.map Span.text) ++ ": "
  time ++ " " ++ padLeft 5 e.level.label ++ " " ++ spans ++ e.source ++ ": " ++
    showMessage (e.body elapsed) ++ String.join (e.fields.map fun f => " " ++ f.text)

/-- The entry as a JSON line; it names spans only if there are some. -/
def Entry.jsonLine (e : Entry) (time elapsed : String) : String :=
  let spans :=
    match e.spans.getLast? with
    | none => []
    | some innermost =>
      [("span", innermost.json), ("spans", Json.list (e.spans.map Span.json))]
  (Json.object ([
    ("timestamp", .text time),
    ("level", .text e.level.label),
    ("fields", .object (("message", .text (e.body elapsed)) :: e.fields.map Field.member)),
    ("target", .text e.source)] ++ spans)).toCompact

/-- The entry as a line of the given format. -/
def Entry.line (e : Entry) (format : Format) (time elapsed : String) : String :=
  match format with
  | .text => e.textLine time elapsed
  | .json => e.jsonLine time elapsed

end Log
end FeatureLadder
