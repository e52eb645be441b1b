import FeatureLadder.Version.Basic

/-!
# Test commands

A command calls a build tool with the features it is to enable.  The features are
one argument, separated by single blanks; the tool's text is used as it is, so it may
hold arguments of its own.

`Command.line` is the command for a POSIX shell: the argument stands between single
quotes, and a single quote in it is written outside of them.  `Command.doubleQuotedLine`
is the form with double quotes.
-/

namespace FeatureLadder

/-- A call of the build tool. -/
structure Command where
  tool : String
  features : List String
  workingDir : Option String := none
  deriving DecidableEq

/-- A character between single quotes: a single quote closes them, is escaped, and opens
them again. -/
def escapeSingle (c : Char) : List Char :=
  if c = '\x27' then ['\x27', '\\', '\x27', '\x27'] else [c]

def singleQuoted (s : List Char) : List Char :=
  '\x27' :: s.flatMap escapeSingle ++ ['\x27']

/-- A character between double quotes: a double quote stands behind a backslash. -/
def escapeDouble (c : Char) : List Char :=
  if c = '"' then ['\\', '"'] else [c]

def doubleQuoted (s : List Char) : List Char :=
  '"' :: s.flatMap escapeDouble ++ ['"']

namespace Command

/-- The command that enables the given versions. -/
def ofVersions (tool : String) (versions : List Version)
    (workingDir : Option String := none) : Command :=
  { tool := tool, features := versions.map Version.text, workingDir := workingDir }

/-- The features as one argument. -/
def featuresArg (c : Command) : String :=
  " ".intercalate c.features

/-- The command line for a POSIX shell. -/
def line (c : Command) : String :=
  c.tool ++ " test --features " ++ String.ofList (singleQuoted c.featuresArg.toList)

/-- The command line with double quotes. -/
def doubleQuotedLine (c : Command) : String :=
  c.tool ++ " test --features " ++ String.ofList (doubleQuoted c.featuresArg.toList)

end Command
end FeatureLadder
