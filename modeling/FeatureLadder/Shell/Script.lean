/-!
# Shell scripts

The commands of a POSIX shell.  A word is a list of parts; each part knows whether it
was quoted, because only what was not quoted is split into fields and matched against
file names.
-/

namespace FeatureLadder
namespace Shell

/-- How a file that a redirection writes to is opened. -/
inductive Writing where
  /-- from its start, unless existing files are protected -/
  | fresh
  /-- from its start -/
  | overwrite
  | append
  /-- without emptying it, for reading too -/
  | update
  deriving DecidableEq

mutual

/-- A part of a word. -/
inductive Part where
  | text (quoted : Bool) (s : List Char)
  /-- an opening or a closing quote -/
  | mark
  | parameter (quoted : Bool) (name : List Char) (use : Use)
  | arithmetic (quoted : Bool) (inner : List Part)
  /-- what a script writes, without line feeds at its end -/
  | output (quoted : Bool) (script : Script)

/-- What is made of the value of a parameter.  With `orEmpty` an empty value counts as
no value. -/
inductive Use where
  | value
  | length
  | orElse (orEmpty : Bool) (word : List Part)
  | assign (orEmpty : Bool) (word : List Part)
  /-- without a value the script ends with a message -/
  | insist (orEmpty : Bool) (word : List Part)
  | instead (orEmpty : Bool) (word : List Part)
  /-- a match of the pattern is taken away from the start or from the end -/
  | trim (fromEnd longest : Bool) (pattern : List Part)
  /-- what cannot be made of a parameter -/
  | bad

/-- Where a descriptor is to lead. -/
inductive Redirect where
  | fromFile (descriptor : Nat) (file : List Part)
  | toFile (descriptor : Nat) (writing : Writing) (file : List Part)
  | copy (descriptor : Nat) (source : List Part)
  /-- a text that stands in the script itself -/
  | here (descriptor : Nat) (body : List Part)

/-- A command. -/
inductive Script where
  | nothing
  | simple (line : Nat) (assignments : List (List Char × List Part)) (words : List (List Part))
      (redirects : List Redirect)
  | redirected (line : Nat) (body : Script) (redirects : List Redirect)
  | subshell (line : Nat) (body : Script) (redirects : List Redirect)
  /-- a command that the shell does not wait for -/
  | background (line : Nat) (body : Script) (redirects : List Redirect)
  | branch (condition yes no : Script)
  | loop (negated : Bool) (condition body : Script)
  | each (line : Nat) (name : List Char) (items : List (List Part)) (body : Script)
  | choice (line : Nat) (subject : List Part) (cases : List (List (List Part) × Script))
  | function (line : Nat) (name : List Char) (body : Script)
  | pipeline (background : Bool) (stages : List Script)
  | negated (body : Script)
  | both (first second : Script)
  | either (first second : Script)
  | sequence (first second : Script)

end

/-- A word. -/
abbrev Word := List Part

instance : Inhabited Script := ⟨.nothing⟩

/-- The text of a word in which nothing is quoted or substituted. -/
def Word.plain? : Word → Option (List Char)
  | [] => some []
  | .text false s :: rest => (Word.plain? rest).map (s ++ ·)
  | _ => none

/-- The assignment that a word makes, if it is one. -/
def Word.assignment? : Word → Option (List Char × Word)
  | .text false s :: rest =>
    let name := s.takeWhile fun c => c.isAlphanum || c == '_'
    match name, s.drop name.length with
    | c :: _, '=' :: value =>
      if c.isDigit then none
      else some (name, if value.isEmpty then rest else .text false value :: rest)
    | _, _ => none
  | _ => none

end Shell
end FeatureLadder
