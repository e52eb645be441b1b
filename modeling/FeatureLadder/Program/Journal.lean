import FeatureLadder.Log.Filter
import FeatureLadder.Program.Basic

/-!
# The log of the program

Each part of the program notes what it does.  Before anything else, the log is set up from
the command line and the environment, which is noted as well; the settings decide which
notices are shown, and in which form.

The filter is taken from the variable `VTEST_LOG`, else from `RUST_LOG`, else it shows
the program's own entries down to the level of the command line.
-/

namespace FeatureLadder
namespace Program

open Log (Entry Notice)

/-- The settings of the log that come from the environment. -/
structure Environment where
  /-- the value of `VTEST_LOG` -/
  filter : Option String := none
  /-- the value of `RUST_LOG` -/
  fallback : Option String := none
  /-- the value of `VTEST_LOG_FORMAT` -/
  format : Option String := none

/-- What the clock shows. -/
structure Clock where
  /-- the time that an entry is marked with -/
  time : String
  /-- how long a command took -/
  elapsed : String

/-- The name of the format that the log is set to. -/
def Environment.formatName (env : Environment) (a : Arguments) : String :=
  match a.logFormat with
  | some format => format.name
  | none => env.format.getD Log.Format.text.name

/-- The format of the log: every name but `json` means text. -/
def Environment.logFormat (env : Environment) (a : Arguments) : Log.Format :=
  if env.formatName a = Log.Format.json.name then .json else .text

/-- The filter of the log, and a complaint if the environment has one that cannot be
read. -/
def Environment.logFilter (env : Environment) (a : Arguments) : Log.Filter × Option String :=
  let standard := Log.Filter.standard a.logLevel
  match env.filter with
  | some spec =>
    match Log.Filter.ofString? spec with
    | some filter => (filter, none)
    | none =>
      (standard, some ("Invalid VTEST_LOG specification '" ++ spec ++ "', using default '" ++
        Log.Filter.standardText a.logLevel ++ "'"))
  | none => ((env.fallback.bind Log.Filter.ofString?).getD standard, none)

/-- What is noted once the log is set up. -/
def formatEntry (env : Environment) (a : Arguments) : Entry where
  level := .debug
  source := "vtest_core::logging"
  message := "Logging initialized with format: " ++ env.formatName a

/-- What is noted before anything else is done. -/
def levelEntry (a : Arguments) : Entry where
  level := .debug
  source := "vtest::cli"
  message := "CLI initialized with log level: " ++ a.logLevel.name

/-- What is noted before anything else is done: a complaint about the filter, and how the
log is set. -/
def Environment.setup (env : Environment) (a : Arguments) : List Notice :=
  (env.logFilter a).2.toList.map Notice.line ++
    [.entry (formatEntry env a), .entry (levelEntry a)]

/-- Sets up the log and carries out what the arguments ask for. -/
def dispatch {σ : Type} (host : Host σ) (env : Environment) (a : Arguments) (s : σ) :
    Passage σ :=
  let passage := proceed host a s
  { passage with notices := env.setup a ++ passage.notices }

/-- The bytes that a notice adds to the standard error, if the filter lets it pass. -/
def noticeBytes (filter : Log.Filter) (format : Log.Format) (clock : Clock) :
    Notice → List UInt8
  | .line s => Utf8.encode (s ++ "\n").toList
  | .raw bytes => bytes
  | .entry e =>
    match filter.show? e with
    | none => []
    | some shown => Utf8.encode (shown.line format clock.time clock.elapsed ++ "\n").toList

/-- The bytes that notices add to the standard error. -/
def Environment.stderr (env : Environment) (a : Arguments) (clock : Clock)
    (notices : List Notice) : List UInt8 :=
  notices.flatMap (noticeBytes (env.logFilter a).1 (env.logFormat a) clock)

end Program
end FeatureLadder
