/-!
# Levels and formats of log lines
-/

namespace FeatureLadder
namespace Log

/-- How much an entry matters. -/
inductive Level where
  | error
  | warn
  | info
  | debug
  | trace
  deriving DecidableEq

namespace Level

/-- Levels from the most to the least important, counted from one. -/
def rank : Level → Nat
  | .error => 1
  | .warn => 2
  | .info => 3
  | .debug => 4
  | .trace => 5

/-- The name of a level as a user writes it. -/
def name : Level → String
  | .error => "error"
  | .warn => "warn"
  | .info => "info"
  | .debug => "debug"
  | .trace => "trace"

/-- The name of a level as a log line shows it. -/
def label : Level → String
  | .error => "ERROR"
  | .warn => "WARN"
  | .info => "INFO"
  | .debug => "DEBUG"
  | .trace => "TRACE"

def all : List Level :=
  [.error, .warn, .info, .debug, .trace]

def ofName? (s : String) : Option Level :=
  all.find? (·.name == s)

theorem ofName?_name (l : Level) : ofName? l.name = some l := by
  cases l <;> decide

end Level

/-- The form of log lines. -/
inductive Format where
  | text
  | json
  deriving DecidableEq

def Format.name : Format → String
  | .text => "text"
  | .json => "json"

def Format.ofName? (s : String) : Option Format :=
  [Format.text, .json].find? (·.name == s)

end Log
end FeatureLadder
