import FeatureLadder.Program.Journal

/-!
# The program as a whole

**Input**: the command line, the environment, the clock, and the surroundings.

**Results**: `run` gives the exit code, both outputs, and the state of the executor
afterwards.  A command line that is not accepted leaves the executor as it is.
-/

namespace FeatureLadder
namespace Program

/-- What a run of the program leaves behind. -/
structure Outcome where
  exit : Nat
  stdout : List UInt8
  stderr : List UInt8
  deriving DecidableEq

/-- What is left behind by a command line that is not carried out. -/
def rejected : Arguments.Rejection → Outcome
  | .help long =>
    let text := if long then Arguments.longHelp else Arguments.shortHelp
    { exit := 0, stdout := Utf8.encode text.toList, stderr := [] }
  | .version => { exit := 0, stdout := Utf8.encode Arguments.versionText.toList, stderr := [] }
  | refusal =>
    let text := refusal.message ++ "\n\n" ++ Arguments.usage ++ "\n"
    { exit := 1, stdout := [], stderr := Utf8.encode text.toList }

/-- What is left behind by the course that was taken. -/
def Passage.outcome {σ : Type} (p : Passage σ) (env : Environment) (clock : Clock)
    (a : Arguments) : Outcome where
  exit := p.course.exitCode
  stdout := p.course.stdout a
  stderr := env.stderr a clock p.notices

/-- Runs the program on arguments that were accepted. -/
def runAccepted {σ : Type} (host : Host σ) (env : Environment) (clock : Clock) (a : Arguments)
    (s : σ) : Outcome × σ :=
  let passage := dispatch host env a s
  (passage.outcome env clock a, passage.state)

/-- Runs the program on a command line. -/
def run {σ : Type} (host : Host σ) (env : Environment) (clock : Clock) (arguments : List String)
    (s : σ) : Outcome × σ :=
  match Arguments.parse arguments with
  | .error rejection => (rejected rejection, s)
  | .ok a => runAccepted host env clock a s

end Program
end FeatureLadder
