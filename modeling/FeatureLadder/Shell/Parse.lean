import FeatureLadder.Shell.Source

/-!
# Reading shell scripts

**Input**: the text of a script.

**Algorithm**: recursive descent.  A command list holds and-or lists with `;`, `&` or
line feeds between them, these hold pipelines, and these hold simple or compound
commands made of words.  What ends the parts of a word depends on where they stand,
which a `Frame` says.  Every function takes a bound on the number of steps; `next`
starts with one that grows with the text and is not reached.

**Results**: `next` reads one command of a script, up to the end of its line.
-/

namespace FeatureLadder
namespace Shell

open Reader

/-- Where the parts of a word stand, and so what ends them. -/
inductive Frame where
  /-- outside of quotes, up to a blank or an operator -/
  | word
  /-- in braces outside of quotes -/
  | brace
  /-- between double quotes, in braces or not -/
  | quoted (inBrace : Bool)
  /-- in braces between double quotes; `inner` says whether quotes are open in them -/
  | quotedBrace (inner : Bool)
  /-- in an arithmetic expression with some open parentheses -/
  | arithmetic (depth : Nat)
  /-- in a here-document -/
  | here
  /-- in the word that names the end of a here-document, in double quotes or not -/
  | ending (quoted : Bool)

namespace Frame

/-- Whether what stands in a frame counts as quoted. -/
def isQuoted : Frame → Bool
  | .word | .brace | .ending false => false
  | _ => true

/-- The frame of what stands between double quotes. -/
def quotes : Frame → Frame
  | .brace => .quoted true
  | .ending _ => .ending true
  | _ => .quoted false

/-- The frame of what stands in braces, where a word or a pattern is meant. -/
def braced (f : Frame) (pattern : Bool) : Frame :=
  if f.isQuoted && !pattern then .quotedBrace false else .brace

/-- The characters that do not stand for themselves in a frame. -/
def special : Frame → String
  | .word => "\\'\"$` \t\n;&|<>()"
  | .brace => "\\'\"$`\x7d\n"
  | .quoted _ => "\\\"$`\n"
  | .quotedBrace _ => "\\\"$`\x7d\n"
  | .arithmetic _ => "\\$`()\n"
  | .here => "\\$`\n"
  | .ending false => "\\'\" \t\n;&|<>()"
  | .ending true => "\\\"\n"

/-- Whether a backslash before a character is dropped in a frame that counts as quoted. -/
def escapes (f : Frame) (c : Char) : Bool :=
  "\\$`".toList.contains c ||
    match f with
    | .quoted inBrace => c == '"' || (inBrace && c == '\x7d')
    | .quotedBrace _ => c == '"' || c == '\x7d'
    | .arithmetic _ | .ending _ => c == '"'
    | _ => false

/-- What is wrong when the text ends in a frame; in some frames it may. -/
def atEnd : Frame → Option Malformation
  | .word | .here | .ending false => none
  | .brace => some .missingBrace
  | .quoted _ | .quotedBrace _ | .ending true => some .unterminatedQuote
  | .arithmetic _ => some .missingParentheses

end Frame

/-- The words with a meaning of their own at the start of a command. -/
def keywords : List String :=
  ["!", "\x7b", "\x7d", "if", "then", "elif", "else", "fi", "while", "until", "for", "do", "done",
    "in", "case", "esac"]

/-- The commands whose names no function may have. -/
def specialCommands : List String :=
  [".", ":", "break", "continue", "eval", "exec", "exit", "export", "readonly", "return", "set",
    "shift", "times", "trap", "unset"]

/-- Whether a token ends a command list. -/
def Token.endsList : Token → Bool
  | .finish => true
  | .operator s => s = ")" || s = ";;"
  | .keyword s => ["do", "done", "elif", "else", "esac", "fi", "then", "\x7d"].contains s
  | _ => false

/-- Puts text in front of some parts. -/
def addText (quoted : Bool) (s : List Char) : Word → Word
  | .text q t :: rest =>
    if q = quoted then .text q (s ++ t) :: rest
    else if s.isEmpty then .text q t :: rest
    else .text quoted s :: .text q t :: rest
  | parts => if s.isEmpty then parts else .text quoted s :: parts

/-- Whether a character is the name of a special parameter. -/
def isSpecial (c : Char) : Bool :=
  "?$#!@*-".toList.contains c || c.isDigit

/-- The text between backquotes, without the backslashes that the quotes call for, and
what follows it. -/
def backquoted (quoted : Bool) : List Char → Option (List Char × List Char)
  | [] => none
  | '\x60' :: rest => some ([], rest)
  | '\\' :: '\n' :: rest => backquoted quoted rest
  | '\\' :: c :: rest =>
    let escaped := "\\`$".toList.contains c || (quoted && c == '"')
    (backquoted quoted rest).map fun (inner, after) =>
      (if escaped then c :: inner else '\\' :: c :: inner, after)
  | c :: rest => (backquoted quoted rest).map fun (inner, after) => (c :: inner, after)

/-- The text of a here-document and what follows it.  Without `literal` a line that ends
in a backslash goes on with the next one. -/
def hereText (ending : List Char) (strip literal : Bool) :
    Nat → List Char → List Char × List Char
  | 0, cs => ([], cs)
  | _ + 1, [] => ([], [])
  | n + 1, cs =>
    let cs := if strip then cs.dropWhile (· == '\t') else cs
    let line := cs.takeWhile (· ≠ '\n')
    if line = ending then ([], cs.drop (line.length + 1))
    else
      let (first, after) := logicalLine literal cs
      let (more, rest) := hereText ending strip literal n after
      (first ++ more, rest)
where
  /-- A line with those that continue it, and what follows. -/
  logicalLine (literal : Bool) : List Char → List Char × List Char
    | [] => ([], [])
    | '\n' :: rest => (['\n'], rest)
    | '\\' :: c :: rest =>
      if literal then
        let (line, after) := logicalLine literal (c :: rest)
        ('\\' :: line, after)
      else
        let (line, after) := logicalLine literal rest
        ('\\' :: c :: line, after)
    | c :: rest =>
      let (line, after) := logicalLine literal rest
      (c :: line, after)
  termination_by cs => cs.length

/-- The text of a word whose quotes are taken away. -/
def unquotedText : Word → List Char
  | [] => []
  | .text _ s :: rest => s ++ unquotedText rest
  | _ :: rest => unquotedText rest

def hasQuotes (w : Word) : Bool :=
  w.any fun
    | .text quoted _ => quoted
    | .mark => true
    | _ => false

/-- The word that stands for every argument. -/
def everyArgument : List Word :=
  [[.mark, .parameter true ['@'] .value, .mark]]

/-- A command that the shell does not wait for. -/
def inBackground (line : Nat) : Script → Script
  | .pipeline _ stages => .pipeline true stages
  | .redirected line body rs => .background line body rs
  | body => .background line body []

/-- A redirection that starts at its operator. -/
def redirection (descriptor : Option Nat) : Reader Token := do
  let output (kind : RedirectKind) : Token := .redirection (descriptor.getD 1) kind
  let input (kind : RedirectKind) : Token := .redirection (descriptor.getD 0) kind
  let first := (← get).rest.head?
  drop
  let second ← peek
  if first = some '>' then
    match second with
    | some '>' => drop; return output (.toFile .append)
    | some '|' => drop; return output (.toFile .overwrite)
    | some '&' => drop; return output .copy
    | _ => return output (.toFile .fresh)
  else
    match second with
    | some '<' =>
      drop
      if (← peek) = some '-' then
        drop
        return input (.here true)
      else return input (.here false)
    | some '&' => drop; return input .copy
    | some '>' => drop; return input (.toFile .update)
    | _ => return input .fromFile

/-- The descriptor that a word in front of a redirection stands for, if it can stand
there. -/
def descriptor? (w : Word) : Option (Option Nat) :=
  match w.plain? with
  | some [] => some none
  | some [d] => if d.isDigit then some (some (d.toNat - 0x30)) else none
  | _ => none

mutual

/-- The parts of a word up to what ends their frame. -/
def parts (f : Frame) : Nat → Reader Word
  | 0 => refuse .tooLong
  | n + 1 => do
    let special := f.special.toList
    let text ← takeWhile fun c => !special.contains c
    let add (more : Word) : Word := addText f.isQuoted text more
    match (← get).rest with
    | [] =>
      match f.atEnd with
      | some m => refuse m
      | none => return add []
    | c :: rest =>
      let literally (quoted : Bool) (s : List Char) : Reader Word := do
        setRest rest
        countLines s
        return add (addText quoted s (← parts f n))
      match c with
      | '\n' =>
        match f with
        | .word | .ending false => return add []
        | _ => literally f.isQuoted ['\n']
      | '\\' =>
        match rest with
        | [] => literally true ['\\']
        | d :: rest =>
          setRest rest
          countLines [d]
          let s := if f.isQuoted && !f.escapes d then ['\\', d] else [d]
          return add (addText true s (← parts f n))
      | '\x27' =>
        setRest (rest.dropWhile (· ≠ '\x27'))
        let inner := rest.takeWhile (· ≠ '\x27')
        countLines inner
        if (← get).rest.isEmpty then refuse .unterminatedQuote
        drop
        return add (.mark :: addText true inner (.mark :: (← parts f n)))
      | '"' =>
        drop
        match f with
        | .quoted _ | .ending true => return add []
        | .quotedBrace inner => return add (.mark :: (← parts (.quotedBrace !inner) n))
        | _ =>
          let inner ← parts f.quotes n
          return add (.mark :: inner ++ .mark :: (← parts f n))
      | '\x60' =>
        drop
        let part ← backquote f.isQuoted n
        return add (part :: (← parts f n))
      | '$' =>
        drop
        match ← dollar f n with
        | some part => return add (part :: (← parts f n))
        | none => return add (addText f.isQuoted ['$'] (← parts f n))
      | '\x7d' =>
        match f with
        | .quotedBrace true => literally true ['\x7d']
        | _ => drop; return add []
      | '(' =>
        match f with
        | .arithmetic depth =>
          drop
          return add (addText true ['('] (← parts (.arithmetic (depth + 1)) n))
        | _ => return add []
      | ')' =>
        match f with
        | .arithmetic (depth + 1) =>
          drop
          return add (addText true [')'] (← parts (.arithmetic depth) n))
        | .arithmetic 0 =>
          drop
          if (← peek) = some ')' then drop; return add []
          else return add (addText true [')'] (← parts f n))
        | _ => return add []
      | _ => return add []
termination_by structural n => n

/-- A substitution between backquotes, whose lines are counted from its start. -/
def backquote (quoted : Bool) : Nat → Reader Part
  | 0 => refuse .tooLong
  | n + 1 => do
    let s ← get
    match backquoted quoted s.rest with
    | none =>
      countLines s.rest
      refuse .unterminatedBackquote
    | some (inner, after) =>
      set { s with rest := inner, line := 1, pending := [], back := none }
      let script ← list false true n
      hereDocuments n
      let t ← get
      let read := s.rest.take (s.rest.length - after.length)
      set { t with
        rest := after, line := s.line + read.count '\n', pending := s.pending, back := none }
      return .output quoted (script.getD .nothing)
termination_by structural n => n

/-- The substitution behind a dollar sign, if there is one. -/
def dollar (f : Frame) : Nat → Reader (Option Part)
  | 0 => refuse .tooLong
  | n + 1 => do
    match ← peek with
    | some '(' =>
      drop
      if (← peek) = some '(' then
        drop
        return some (.arithmetic f.isQuoted (← parts (.arithmetic 0) n))
      else
        let s ← get
        set { s with pending := [] }
        let script ← list false true n
        match ← token false false n with
        | .operator ")" =>
          hereDocuments n
          modify fun t => { t with pending := s.pending }
          return some (.output f.isQuoted (script.getD .nothing))
        | other => unexpected other (some ")")
    | some '\x7b' =>
      drop
      return some (← brace f n)
    | some c =>
      if isNameStart c then return some (.parameter f.isQuoted (← takeWhile isNameChar) .value)
      else if isSpecial c then
        drop
        return some (.parameter f.isQuoted [c] .value)
      else return none
    | none => return none
termination_by structural n => n

/-- A substitution in braces. -/
def brace (f : Frame) : Nat → Reader Part
  | 0 => refuse .tooLong
  | n + 1 => do
    let bad : Reader Part := do
      let _ ← parts (f.braced false) n
      return .parameter f.isQuoted [] .bad
    let length (name : List Char) : Reader Part := do
      let _ ← parts (f.braced false) n
      return .parameter f.isQuoted name .length
    match ← peek with
    | some '#' =>
      drop
      let afterHash := (← get).rest
      match ← peek with
      | some c =>
        if isNameStart c then length (← takeWhile isNameChar)
        else if c.isDigit then length (← takeWhile Char.isDigit)
        else
          drop
          if c ≠ '\x7d' && (← peek) = some '\x7d' then
            if isSpecial c then length [c] else bad
          else
            setRest afterHash
            braceUse f ['#'] n
      | none => braceUse f ['#'] n
    | some c =>
      if isNameStart c then braceUse f (← takeWhile isNameChar) n
      else if c.isDigit then braceUse f (← takeWhile Char.isDigit) n
      else if c = '\x7d' then bad
      else
        drop
        if isSpecial c then braceUse f [c] n else bad
    | none => bad
termination_by structural n => n

/-- What stands behind the name in a substitution in braces. -/
def braceUse (f : Frame) (name : List Char) : Nat → Reader Part
  | 0 => refuse .tooLong
  | n + 1 => do
    let made (use : Use) : Part := .parameter f.isQuoted name use
    let orEmpty := (← peek) = some ':'
    if orEmpty then drop
    match ← peek with
    | none =>
      let _ ← parts (f.braced false) n
      return made .bad
    | some c =>
      drop
      match c with
      | '\x7d' =>
        if orEmpty then
          let _ ← parts (f.braced false) n
        return made .value
      | '-' => return made (.orElse orEmpty (← parts (f.braced false) n))
      | '=' => return made (.assign orEmpty (← parts (f.braced false) n))
      | '?' => return made (.insist orEmpty (← parts (f.braced false) n))
      | '+' => return made (.instead orEmpty (← parts (f.braced false) n))
      | _ =>
        if (c = '%' || c = '#') && !orEmpty then
          let longest := (← peek) = some c
          if longest then drop
          return made (.trim (c = '%') longest (← parts (f.braced true) n))
        else
          let _ ← parts (f.braced false) n
          return made .bad
termination_by structural n => n

/-- Reads the here-documents that have been announced. -/
def hereDocuments : Nat → Reader PUnit
  | 0 => refuse .tooLong
  | n + 1 => do
    let s ← get
    match s.pending with
    | [] => return
    | here :: more =>
      let (text, rest) := hereText here.ending here.strip here.literal (s.rest.length + 1) s.rest
      let read := s.rest.take (s.rest.length - rest.length)
      let line := s.line + read.count '\n'
      let body ←
        if here.literal then pure [.text true text]
        else do
          set { s with rest := text, pending := [], back := none }
          try parts .here n
          catch fault => do
            -- what is not closed in the text goes on behind it
            set { s with pending := [], back := none }
            let _ ← parts .here n
            throw fault
      modify fun t =>
        { t with
          rest := rest, line := line, pending := more, back := s.back
          bodies := (here.place, body) :: t.bodies }
      hereDocuments n
termination_by structural n => n

/-- The next token.  An unquoted word may be a keyword or an alias. -/
def token (keyword aliased : Bool) : Nat → Reader Token
  | 0 => refuse .tooLong
  | n + 1 => do
    let before ← get
    let t ← rawToken n
    match t with
    | .word w =>
      match w.plain? with
      | none => return t
      | some text =>
        if keyword && keywords.contains (toText text) then return .keyword (toText text)
        else
          let s ← get
          match before.replacement? aliased text with
          | none => return t
          | some value =>
            let behind := s.rest.length
            let goesOn := value.getLast?.any fun c => c == ' ' || c == '\t'
            set { s with
              rest := value ++ s.rest, replaced := ⟨text, behind, goesOn⟩ :: s.replaced }
            token keyword aliased n
    | _ => return t
termination_by structural n => n

/-- The next token that is not a line feed. -/
def tokenPastLines (keyword aliased : Bool) : Nat → Reader Token
  | 0 => refuse .tooLong
  | n + 1 => do
    match ← token keyword aliased n with
    | .newline =>
      hereDocuments n
      tokenPastLines keyword aliased n
    | t => return t
termination_by structural n => n

/-- The next token as it stands. -/
def rawToken : Nat → Reader Token
  | 0 => refuse .tooLong
  | n + 1 => do
    match (← get).back with
    | some t =>
      modify fun s => { s with back := none }
      return t
    | none =>
      skipBlanks
      match (← get).rest with
      | [] => return .finish
      | '\n' :: rest =>
        setRest rest
        countLines ['\n']
        return .newline
      | c :: rest =>
        let doubled : Reader Token := do
          setRest rest
          if (← peek) = some c then
            drop
            return .operator (String.ofList [c, c])
          else return .operator (String.singleton c)
        if c = '&' || c = '|' || c = ';' then doubled
        else if c = '(' || c = ')' then
          setRest rest
          return .operator (String.singleton c)
        else
          let w ← parts .word n
          let next := (← get).rest.head?
          match descriptor? w with
          | some descriptor =>
            if next = some '<' || next = some '>' then redirection descriptor else return .word w
          | none => return .word w
termination_by structural n => n

/-- The redirection whose operator has been read. -/
def redirectTarget (descriptor : Nat) (kind : RedirectKind) : Nat → Reader Redirect
  | 0 => refuse .tooLong
  | n + 1 => do
    match kind with
    | .here strip =>
      skipBlanks
      let begun := (← get).rest.head?.any fun c => !" \t\n;&|<>()".toList.contains c
      if !begun then unexpected (← rawToken n)
      let w ← parts (.ending false) n
      let s ← get
      let place := s.announced
      let here : Announced :=
        { place := place, ending := unquotedText w, strip := strip, literal := hasQuotes w }
      set { s with pending := s.pending ++ [here], announced := place + 1 }
      return .here descriptor ((s.known.lookup place).getD [])
    | _ =>
      match ← token false false n with
      | .word w =>
        match kind with
        | .copy => return .copy descriptor w
        | .toFile writing => return .toFile descriptor writing w
        | _ => return .fromFile descriptor w
      | other => unexpected other
termination_by structural n => n

/-- A command list.  At the `top` of a script it ends with its line.  In other places it
ends before a token that cannot go on with it, and with `maybeEmpty` it may hold no
command. -/
def list (top maybeEmpty : Bool) : Nat → Reader (Option Script)
  | 0 => refuse .tooLong
  | n + 1 => more top maybeEmpty none n
termination_by structural n => n

/-- The rest of a command list. -/
def more (top mayEnd : Bool) (before : Option Script) : Nat → Reader (Option Script)
  | 0 => refuse .tooLong
  | n + 1 => do
    let t ← if top then token true true n else tokenPastLines true true n
    match t with
    | .newline =>
      hereDocuments n
      return before
    | .finish =>
      hereDocuments n
      giveBack t
      return before
    | _ =>
      giveBack t
      if !top && mayEnd && t.endsList then return before
      let line := (← get).line
      let command ← andOr n
      let separator ← token false false n
      let command :=
        match separator with
        | .operator "&" => inBackground line command
        | _ => command
      let script :=
        match before with
        | none => command
        | some earlier => .sequence earlier command
      match separator with
      | .operator ";" | .operator "&" => more top true (some script) n
      | .newline =>
        giveBack separator
        more top true (some script) n
      | .finish =>
        hereDocuments n
        giveBack separator
        return some script
      | _ =>
        if top then unexpected separator
        giveBack separator
        return some script
termination_by structural n => n

def andOr : Nat → Reader Script
  | 0 => refuse .tooLong
  | n + 1 => do
    let first ← pipeline n
    moreAndOr first n
termination_by structural n => n

/-- The rest of an and-or list. -/
def moreAndOr (first : Script) : Nat → Reader Script
  | 0 => refuse .tooLong
  | n + 1 => do
    match ← token false false n with
    | .operator "&&" => moreAndOr (.both first (← pipeline n)) n
    | .operator "||" => moreAndOr (.either first (← pipeline n)) n
    | t =>
      giveBack t
      return first
termination_by structural n => n

def pipeline : Nat → Reader Script
  | 0 => refuse .tooLong
  | n + 1 => do
    let t ← tokenPastLines true true n
    let negated := match t with
      | .keyword "!" => true
      | _ => false
    if !negated then giveBack t
    let first ← command false n
    let others ← stages n
    let body := if others.isEmpty then first else .pipeline false (first :: others)
    return if negated then .negated body else body
termination_by structural n => n

/-- The further commands of a pipeline. -/
def stages : Nat → Reader (List Script)
  | 0 => refuse .tooLong
  | n + 1 => do
    match ← token false false n with
    | .operator "|" =>
      let stage ← command true n
      return stage :: (← stages n)
    | t =>
      giveBack t
      return []
termination_by structural n => n

def command (pastLines : Bool) : Nat → Reader Script
  | 0 => refuse .tooLong
  | n + 1 => do
    let line := (← get).line
    let t ← if pastLines then tokenPastLines true true n else token true true n
    match t with
    | .keyword "if" => withRedirects line (← conditional n) n
    | .keyword "while" => withRedirects line (← repetition false n) n
    | .keyword "until" => withRedirects line (← repetition true n) n
    | .keyword "for" => withRedirects line (← iteration line n) n
    | .keyword "case" => withRedirects line (← selection line n) n
    | .operator "(" =>
      let body ← block n
      expect (.operator ")") ")" n
      match ← redirects n with
      | [] => return .subshell line body []
      | rs => return .subshell line body rs
    | .keyword "\x7b" =>
      let body ← block n
      expect (.keyword "\x7d") "\x7d" n
      withRedirects line body n
    | .word _ | .redirection .. =>
      giveBack t
      simple (← get).line true [] [] [] n
    | _ => unexpected t
termination_by structural n => n

/-- A command list that holds a command and may go over several lines. -/
def block : Nat → Reader Script
  | 0 => refuse .tooLong
  | n + 1 => return (← list false false n).getD .nothing
termination_by structural n => n

/-- Reads a token that has to stand where it does. -/
def expect (wanted : Token) (name : String) : Nat → Reader PUnit
  | 0 => refuse .tooLong
  | n + 1 => do
    let t ← token false false n
    unless t.label = wanted.label do unexpected t (some name)
termination_by structural n => n

/-- A compound command with the redirections behind it. -/
def withRedirects (line : Nat) (body : Script) : Nat → Reader Script
  | 0 => refuse .tooLong
  | n + 1 => do
    match ← redirects n with
    | [] => return body
    | rs => return .redirected line body rs
termination_by structural n => n

/-- The redirections behind a compound command. -/
def redirects : Nat → Reader (List Redirect)
  | 0 => refuse .tooLong
  | n + 1 => do
    match ← token true true n with
    | .redirection descriptor kind =>
      let r ← redirectTarget descriptor kind n
      return r :: (← redirects n)
    | t =>
      giveBack t
      return []
termination_by structural n => n

/-- What follows `if` or `elif`. -/
def conditional : Nat → Reader Script
  | 0 => refuse .tooLong
  | n + 1 => do
    let condition ← block n
    expect (.keyword "then") "then" n
    let yes ← block n
    match ← token false false n with
    | .keyword "elif" => return .branch condition yes (← conditional n)
    | .keyword "else" =>
      let no ← block n
      expect (.keyword "fi") "fi" n
      return .branch condition yes no
    | .keyword "fi" => return .branch condition yes .nothing
    | t => unexpected t (some "fi")
termination_by structural n => n

/-- What follows `while` or `until`. -/
def repetition (negated : Bool) : Nat → Reader Script
  | 0 => refuse .tooLong
  | n + 1 => do
    let condition ← block n
    expect (.keyword "do") "do" n
    let body ← block n
    expect (.keyword "done") "done" n
    return .loop negated condition body
termination_by structural n => n

/-- What follows `for`. -/
def iteration (line : Nat) : Nat → Reader Script
  | 0 => refuse .tooLong
  | n + 1 => do
    let name ←
      match ← token false false n with
      | .word w => pure ((Word.plain? w).getD [])
      | _ => pure []
    if !isName name then refuse .badLoopVariable
    let t ← tokenPastLines true true n
    let items ←
      match t with
      | .keyword "in" => items n
      | .operator ";" => pure everyArgument
      | _ =>
        giveBack t
        pure everyArgument
    match ← tokenPastLines true true n with
    | .keyword "do" =>
      let body ← block n
      expect (.keyword "done") "done" n
      return .each line name items body
    | t => unexpected t (some "do")
termination_by structural n => n

def items : Nat → Reader (List Word)
  | 0 => refuse .tooLong
  | n + 1 => do
    match ← token false false n with
    | .word w => return w :: (← items n)
    | .newline =>
      hereDocuments n
      return []
    | .operator ";" => return []
    | t => unexpected t
termination_by structural n => n

/-- What follows `case`. -/
def selection (line : Nat) : Nat → Reader Script
  | 0 => refuse .tooLong
  | n + 1 => do
    match ← token false false n with
    | .word subject =>
      match ← tokenPastLines true true n with
      | .keyword "in" => return .choice line subject (← cases n)
      | t => unexpected t (some "in")
    | t => unexpected t (some "word")
termination_by structural n => n

def cases : Nat → Reader (List (List Word × Script))
  | 0 => refuse .tooLong
  | n + 1 => do
    let t ← tokenPastLines true false n
    match t with
    | .keyword "esac" => return []
    | _ =>
      let t ← match t with
        | .operator "(" => token false false n
        | _ => pure t
      let patterns ← alternatives t n
      let body := (← list false true n).getD .nothing
      match ← tokenPastLines true false n with
      | .keyword "esac" => return [(patterns, body)]
      | .operator ";;" => return (patterns, body) :: (← cases n)
      | t => unexpected t (some ";;")
termination_by structural n => n

/-- The patterns of a case, the first of which has been read. -/
def alternatives (first : Token) : Nat → Reader (List Word)
  | 0 => refuse .tooLong
  | n + 1 => do
    let pattern : Word :=
      match first with
      | .word w => w
      | .keyword s => [.text false s.toList]
      | _ => []
    match ← token false false n with
    | .operator "|" =>
      let next ← token false false n
      return pattern :: (← alternatives next n)
    | .operator ")" => return [pattern]
    | t => unexpected t (some ")")
termination_by structural n => n

/-- The rest of a simple command. -/
def simple (line : Nat) (aliased : Bool) (assignments : List (List Char × Word)) (words : List Word)
    (rs : List Redirect) : Nat → Reader Script
  | 0 => refuse .tooLong
  | n + 1 => do
    let t ← token false aliased n
    match t with
    | .word w =>
      match if aliased then w.assignment? else none with
      | some a => simple line true (a :: assignments) words rs n
      | none => simple line false assignments (w :: words) rs n
    | .redirection descriptor kind =>
      let r ← redirectTarget descriptor kind n
      simple line aliased assignments words (r :: rs) n
    | _ =>
      match t, assignments, words, rs with
      | .operator "(", [], [w], [] =>
        expect (.operator ")") ")" n
        let name := (Word.plain? w).getD []
        if !isName name || specialCommands.contains (toText name) then refuse .badFunctionName
        let line := (← get).line
        return .function line name (← command true n)
      | _, _, _, _ =>
        giveBack t
        return .simple line assignments.reverse words.reverse rs.reverse
termination_by structural n => n

end

/-- What stands next in a script. -/
inductive Next where
  | finish
  | command (script : Script) (rest : Source)
  | malformed (fault : Fault)

/-- Reads a line of a script, knowing some here-documents. -/
def readLine (s : Source) (known : List (Nat × Word)) : Except Fault (Option Script × Source) :=
  (list true false (16 * s.rest.length + 64)).run
    { s with pending := [], announced := 0, bodies := [], known := known }

/-- Reads the next command of a script. -/
def next (s : Source) : Next :=
  let found : Except Fault (Option Script × Source) := do
    let (script, rest) ← readLine s []
    if rest.bodies.isEmpty then return (script, rest) else readLine s rest.bodies
  match found with
  | .error fault => .malformed fault
  | .ok (none, rest) =>
    match rest.back with
    | some .finish => .finish
    | _ => .command .nothing rest
  | .ok (some script, rest) => .command script rest

end Shell
end FeatureLadder
