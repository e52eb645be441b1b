/-!
# Help texts

What is printed when help or the version is asked for.  The short form has one line
for each option; the long form describes the values that an option takes.
-/

namespace FeatureLadder
namespace Arguments

/-- Lines as a text, each with its line feed. -/
def textOfLines (lines : List String) : String :=
  String.join (lines.map (· ++ "\n"))

/-- The line that shows how the program is called. -/
def usage : String := "Usage: vtest [OPTIONS] [VERSION]"

def shortHelp : String :=
  textOfLines [
    "Run the test suite for a feature version",
    "",
    "Usage: vtest [OPTIONS] [VERSION]",
    "",
    "Arguments:",
    "  [VERSION]  Target feature version (format: v<major>-<minor>[suffix])",
    "",
    "Options:",
    "      --manifest-path <PATH>     Manifest declaring the feature versions [default: Cargo.toml]",
    "      --tool <PROGRAM>           Build tool invoked as `<TOOL> test --features ...` [default: cargo]",
    "      --allow-unlisted           Accept a version missing from the manifest (enables all declared versions plus it)",
    "      --order <ORDER>            Order in which declared versions accumulate [default: manifest] [possible values: manifest, version]",
    "      --capture                  Collect test output and print it only if the tests fail",
    "      --dry-run                  Print the test command without running it",
    "      --list                     List the declared versions and exit",
    "      --output <OUTPUT>          Output format for results [default: text] [possible values: text, json]",
    "      --log-format <LOG_FORMAT>  Log format (text or json, defaults to text, can be set via VTEST_LOG_FORMAT env var) [possible values: text, json]",
    "      --log-level <LOG_LEVEL>    Log level [default: warn] [possible values: error, warn, info, debug, trace]",
    "  -h, --help                     Print help (see more with '--help')",
    "  -V, --version                  Print version"]

def longHelp : String :=
  textOfLines [
    "Run the test suite for a feature version",
    "",
    "Versions are Cargo features named like v0-1 or v1-2beta, declared in order in the [features] section of the manifest. Testing a version enables it together with every version declared before it.",
    "",
    "Usage: vtest [OPTIONS] [VERSION]",
    "",
    "Arguments:",
    "  [VERSION]",
    "          Target feature version (format: v<major>-<minor>[suffix])",
    "",
    "Options:",
    "      --manifest-path <PATH>",
    "          Manifest declaring the feature versions",
    "          ",
    "          [default: Cargo.toml]",
    "",
    "      --tool <PROGRAM>",
    "          Build tool invoked as `<TOOL> test --features ...`",
    "          ",
    "          [default: cargo]",
    "",
    "      --allow-unlisted",
    "          Accept a version missing from the manifest (enables all declared versions plus it)",
    "",
    "      --order <ORDER>",
    "          Order in which declared versions accumulate",
    "",
    "          Possible values:",
    "          - manifest: Declaration order in the manifest",
    "          - version:  Structural version order (major, minor, suffix)",
    "          ",
    "          [default: manifest]",
    "",
    "      --capture",
    "          Collect test output and print it only if the tests fail",
    "",
    "      --dry-run",
    "          Print the test command without running it",
    "",
    "      --list",
    "          List the declared versions and exit",
    "",
    "      --output <OUTPUT>",
    "          Output format for results",
    "",
    "          Possible values:",
    "          - text: Human-readable text format",
    "          - json: JSON structured format",
    "          ",
    "          [default: text]",
    "",
    "      --log-format <LOG_FORMAT>",
    "          Log format (text or json, defaults to text, can be set via VTEST_LOG_FORMAT env var)",
    "",
    "          Possible values:",
    "          - text: Human-readable text format",
    "          - json: JSON structured format",
    "",
    "      --log-level <LOG_LEVEL>",
    "          Log level",
    "",
    "          Possible values:",
    "          - error: Error messages only",
    "          - warn:  Warning and error messages",
    "          - info:  Informational messages and above",
    "          - debug: Debug messages and above",
    "          - trace: All messages including trace",
    "          ",
    "          [default: warn]",
    "",
    "  -h, --help",
    "          Print help (see a summary with '-h')",
    "",
    "  -V, --version",
    "          Print version"]

/-- The program's name and version. -/
def versionText : String :=
  textOfLines ["vtest 0.1.0"]

end Arguments
end FeatureLadder
