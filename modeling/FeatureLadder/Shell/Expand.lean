import FeatureLadder.Shell.Arithmetic
import FeatureLadder.Shell.Glob
import FeatureLadder.Shell.Machine

/-!
# The expansion of words

**Input**: the parts of a word, and an action that gives what a script writes.

**Algorithm**: every part becomes a list of chunks: text as it is, parameters, arithmetic
and output by their values.  The chunks are joined, or split into fields and matched
against file names.

**Results**: `Expansion.text`, `Expansion.pattern` and `Expansion.fields`.
-/

namespace FeatureLadder
namespace Shell
namespace Expansion

/-- Where a word stands. -/
structure Place where
  /-- whether it becomes fields -/
  fields : Bool
  /-- whether it stands in a substitution, so that its text is split too -/
  inner : Bool := false
  /-- whether a tilde is meant at its start -/
  tilde : Bool := true
  /-- whether a tilde is meant behind colons -/
  colons : Bool := false

/-- An action that gives what a script writes. -/
abbrev Capture := Script → Action (List Char)

/-- The home directories that are known besides that of the user. -/
def homes : List (String × String) :=
  [("root", "/root"), ("daemon", "/usr/sbin"), ("bin", "/bin"), ("nobody", "/nonexistent")]

/-- The directory that a tilde and a name stand for. -/
def home? (own : Option (List Char)) (name : List Char) : Option (List Char) :=
  if name.isEmpty then own else (homes.lookup (toText name)).map ofText

/-- The texts that an unquoted text becomes, each with whether it stands for a directory.
With `start` a tilde is meant at its start, and with `colons` behind every colon, too.  With
`goesOn` the word does not end with the text. -/
def tildes (own : Option (List Char)) (colons goesOn : Bool) :
    Nat → Bool → List Char → List (Bool × List Char)
  | 0, _, s => [(false, s)]
  | n + 1, start, s =>
    let plainly (s : List Char) : List (Bool × List Char) :=
      let before := s.takeWhile (· ≠ ':')
      match if colons then s.drop before.length else [] with
      | ':' :: rest => (false, before ++ [':']) :: tildes own colons goesOn n true rest
      | _ => [(false, s)]
    match s with
    | '~' :: rest =>
      let name := rest.takeWhile fun c => c ≠ '/' && !(colons && c == ':')
      let after := rest.drop name.length
      match if !start || (after.isEmpty && goesOn) then none else home? own name with
      | some home => (true, home) :: plainly after
      | none => plainly s
    | _ => plainly s

/-- The letters of the options that are on, in the order in which they are shown. -/
def shownFlags (flags : List Char) : List Char :=
  "ubaCEVvxsnmiIfe".toList.filter flags.contains

/-- The arguments of the script in one text. -/
def argumentText (p : Process) (place : Place) (quoted every : Bool) (ifs : Option (List Char)) :
    List Char :=
  let between : List Char :=
    if place.fields && quoted && every then [Fields.null]
    else if place.fields && !quoted then (if ifs.isSome then [Fields.null] else [' '])
    else
      match ifs with
      | none => [' ']
      | some cs => cs.take 1
  between.intercalate p.arguments

/-- The value of a parameter, if it has one. -/
def valueOfParameter (place : Place) (quoted : Bool) (name : List Char) :
    Action (Option (List Char)) := do
  let p ← process
  match name with
  | ['@'] => return some (argumentText p place quoted true (← valueOfText? "IFS"))
  | ['*'] => return some (argumentText p place quoted false (← valueOfText? "IFS"))
  | ['#'] => return some (ofNumber p.arguments.length)
  | ['?'] => return some (ofNumber p.status)
  | ['$'] => return some (ofNumber p.shell)
  | ['!'] => return p.background.map (ofNumber ·)
  | ['-'] => return some (shownFlags p.flags)
  | _ =>
    match digits? name with
    | some 0 => return some p.name
    | some (n + 1) => return p.arguments[n]?
    | none => valueOf? name

/-- The chunk of a parameter's value. -/
def chunkOf (p : Process) (quoted : Bool) (name value : List Char) : Chunk :=
  let splitting : Splitting :=
    if !quoted then .separators
    else if name = ['@'] && !p.arguments.isEmpty then .nulls
    else .whole
  .text splitting (Glyph.ofChars quoted value)

/-- Ends the script because a parameter has no value. -/
def unset {α : Type} (name : List Char) : Action α :=
  fail (name ++ ofText ": parameter not set")

/-- The value of an arithmetic expression; variables that it sets are set. -/
def arithmetic (text : List Char) : Action Int := do
  let p ← process
  match Arithmetic.evaluate (fun name => (p.bindings.lookup name).bind Variable.value) text with
  | .ok (n, assigned) =>
    for (name, value) in assigned do
      assign name (ofNumber value)
    return n
  | .error fault => failText (fault.message text)

/-- The chunk of a text that stands in a word. -/
def plainChunk (place : Place) (quoted : Bool) (s : List Char) : Chunk :=
  .text (if place.inner && !quoted then .separators else .whole) (Glyph.ofChars quoted s)

/-- A value trimmed by a pattern.  Of arguments with null characters between them, the start
is that of the first one.  A part at the end reaches from a place in some argument to the end
of that argument, and what follows goes with it; the longest one starts in the first argument.
A longest part at the start that is all of the first argument takes the others along. -/
def trimmed (fromEnd longest : Bool) (pattern : List Glyph) (text : List Char) : List Char :=
  let first := text.takeWhile (· ≠ Fields.null)
  let others := text.drop first.length
  let isSuffix (n : Nat) : Bool :=
    Pattern.accepts pattern ((text.drop n).takeWhile (· ≠ Fields.null))
  if others.isEmpty then Pattern.trim fromEnd longest pattern text
  else if fromEnd then
    let places := List.range (text.length + 1)
    let places := if longest then places.take (first.length + 1) else places.reverse
    (places.find? isSuffix).elim text text.take
  else if longest && Pattern.accepts pattern first then []
  else Pattern.trim false longest pattern first ++ others

mutual

/-- What a part of a word becomes. -/
def part (capture : Capture) (place : Place) : Part → Action (List Chunk)
  | .text quoted s => return [plainChunk place quoted s]
  | .mark => return [.mark]
  | .arithmetic quoted inner => do
    let text ← parts capture { fields := false, tilde := false } inner
    let n ← arithmetic (Glyph.chars (joinChunks text))
    let splitting : Splitting := if quoted then .whole else .separators
    return [.text splitting (Glyph.ofChars quoted (ofNumber n))]
  | .output quoted script => do
    let written ← capture script
    let text := (written.filter (· ≠ Fields.null)).reverse.dropWhile (· == '\n')
    let splitting : Splitting := if quoted then .whole else .separators
    return [.text splitting (Glyph.ofChars quoted text.reverse)]
  | .parameter quoted name u => use capture place quoted name u

/-- What some parts of a word become. -/
def parts (capture : Capture) (place : Place) : List Part → Action (List Chunk)
  | [] => return []
  | .text false s :: ps => do
    let own ← valueOfText? "HOME"
    let texts := tildes own place.colons (!ps.isEmpty) (s.length + 1) place.tilde s
    let first := texts.map fun (quoted, s) => plainChunk place quoted s
    let atColon := place.colons && s.getLast? = some ':'
    return first ++ (← parts capture { place with tilde := atColon } ps)
  | p :: ps => do
    let first ← part capture place p
    return first ++ (← parts capture { place with tilde := false } ps)

/-- What becomes of a parameter. -/
def use (capture : Capture) (place : Place) (quoted : Bool) (name : List Char) :
    Use → Action (List Chunk)
  | .bad => failText "Bad substitution"
  | .value => do
    match ← valueOfParameter place quoted name with
    | some text => return [chunkOf (← process) quoted name text]
    | none =>
      if ← hasFlag 'u' then unset name
      return []
  | .length => do
    match ← valueOfParameter { place with fields := false } quoted name with
    | some text => return [chunkOf (← process) quoted name (ofNumber text.length)]
    | none =>
      if ← hasFlag 'u' then unset name
      return [chunkOf (← process) quoted name ['0']]
  | .orElse orEmpty word => do
    match ← valueOfParameter place quoted name with
    | some text =>
      if orEmpty && text.isEmpty then parts capture { place with inner := true, tilde := true } word
      else return [chunkOf (← process) quoted name text]
    | none => parts capture { place with inner := true, tilde := true } word
  | .instead orEmpty word => do
    match ← valueOfParameter place quoted name with
    | some text =>
      if orEmpty && text.isEmpty then return []
      else parts capture { place with inner := true, tilde := true } word
    | none => return []
  | .assign orEmpty word => do
    let value ← valueOfParameter place quoted name
    let text ←
      match value with
      | some text => if orEmpty && text.isEmpty then pure none else pure (some text)
      | none => pure none
    match text with
    | some text => return [chunkOf (← process) quoted name text]
    | none =>
      let text := Glyph.chars (joinChunks (← parts capture { fields := false } word))
      assign name text
      return [chunkOf (← process) quoted name text]
  | .insist orEmpty word => do
    let value ← valueOfParameter place quoted name
    match if orEmpty then value.filter (!·.isEmpty) else value with
    | some text => return [chunkOf (← process) quoted name text]
    | none =>
      let text := Glyph.chars (joinChunks (← parts capture { fields := false } word))
      if word.isEmpty then
        fail (name ++ ofText (": parameter not set" ++ if orEmpty then " or null" else ""))
      else fail (name ++ [':', ' '] ++ text)
  | .trim fromEnd longest pattern => do
    match ← valueOfParameter place quoted name with
    | some text =>
      let glyphs := joinChunks (← parts capture { fields := false } pattern)
      return [chunkOf (← process) quoted name (trimmed fromEnd longest glyphs text)]
    | none =>
      if ← hasFlag 'u' then unset name
      return []

end

/-- The glyphs of a word that is not split. -/
def pattern (capture : Capture) (colons : Bool) (w : Word) : Action (List Glyph) :=
  return joinChunks (← parts capture { fields := false, colons := colons } w)

/-- The text of a word that is not split. -/
def text (capture : Capture) (w : Word) : Action (List Char) :=
  return Glyph.chars (← pattern capture false w)

/-- The value of a word that is assigned to a variable. -/
def assigned (capture : Capture) (w : Word) : Action (List Char) :=
  return Glyph.chars (← pattern capture true w)

def fields (capture : Capture) (w : Word) : Action (List (List Char)) := do
  let chunks ← parts capture { fields := true } (everyQuoted w)
  let found := Fields.split (← separators) chunks
  if ← hasFlag 'f' then return found.map Glyph.chars
  let t ← tree
  return found.flatMap fun field =>
    match glob t field with
    | [] => [Glyph.chars field]
    | names => names
where
  /-- The word without the quotes around all arguments, which keep no field. -/
  everyQuoted : Word → Word
    | .mark :: .parameter true ['@'] .value :: .mark :: rest =>
      .parameter true ['@'] .value :: everyQuoted rest
    | part :: rest => part :: everyQuoted rest
    | [] => []

end Expansion
end Shell
end FeatureLadder
