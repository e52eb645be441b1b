import FeatureLadder.Shell.Builtin.Signals
import FeatureLadder.Shell.Utility.Editor
import FeatureLadder.Shell.Utility.Expression
import FeatureLadder.Shell.Utility.Host
import FeatureLadder.Shell.Utility.Launching
import FeatureLadder.Shell.Utility.Predicate
import FeatureLadder.Shell.Utility.Search
import FeatureLadder.Shell.Utility.Transform

/-!
# Programs

**Input**: the name of a program and its arguments.

**Algorithm**: the program does its work, and after that says whether its output could
not be written.

**Results**: `runUtility`, and `system`, the files that surround the current directory.
-/

namespace FeatureLadder
namespace Shell

open Utility

/-- What a program does with its arguments. -/
abbrev Work := Evaluator → List (List Char) → Action Nat

def utilities : List (String × Work) :=
  let plain (f : List (List Char) → Action Nat) : Work := fun _ args => f args
  [("[", plain bracketed),
    ("arch", plain (fact "arch" "x86_64")),
    ("basename", plain basename),
    ("cat", plain cat),
    ("chmod", plain chmod),
    ("cmp", plain cmp),
    ("comm", plain comm),
    ("cp", plain cp),
    ("cut", plain cut),
    ("diff", plain diff),
    ("dirname", plain dirname),
    ("echo", plain Utility.echo),
    ("egrep", plain (fun args => grep "grep" (['-', 'E'] :: args))),
    ("env", env),
    ("expr", plain expr),
    ("false", plain fun _ => return 1),
    ("fgrep", plain (fun args => grep "grep" (['-', 'F'] :: args))),
    ("find", find),
    ("fold", plain fold),
    ("grep", plain (grep "grep")),
    ("head", plain head),
    ("hostname", plain (fact "hostname" "localhost")),
    ("id", plain identity),
    ("kill", plain Signals.kill),
    ("ln", plain ln),
    ("ls", plain ls),
    ("mkdir", plain mkdir),
    ("mktemp", plain mktemp),
    ("mv", plain mv),
    ("nice", nice),
    ("nl", plain nl),
    ("nohup", fun ev => plainly ev "nohup" ""),
    ("nproc", plain (fact "nproc" "1")),
    ("od", plain od),
    ("paste", plain paste),
    ("printenv", plain printenv),
    ("printf", plain Utility.printf),
    ("pwd", plain Utility.pwd),
    ("readlink", plain readlink),
    ("realpath", plain realpath),
    ("rev", plain rev),
    ("rm", plain rm),
    ("rmdir", plain rmdir),
    ("sed", plain sed),
    ("seq", plain seq),
    ("setsid", setsid),
    ("sleep", sleep),
    ("sort", plain sort),
    ("stat", plain stat),
    ("sync", plain fun args => withOptions "sync" { letters := "df" } args fun _ _ => return 0),
    ("tac", plain tac),
    ("tail", plain tail),
    ("tee", plain tee),
    ("test", plain (predicate "test")),
    ("timeout", timeout),
    ("touch", plain touch),
    ("tr", plain tr),
    ("true", plain fun _ => return 0),
    ("tty", plain tty),
    ("uname", plain uname),
    ("uniq", plain uniq),
    ("wc", plain wc),
    ("which", plain which),
    ("whoami", plain (fact "whoami" "root")),
    ("xargs", xargs),
    ("yes", plain yes)]

/-- The status of a program whose output could not be written. -/
def brokenStatus (name : String) : Nat :=
  match name with
  | "ls" | "grep" | "sort" | "diff" | "cmp" | "printenv" | "test" => 2
  | "expr" => 3
  | "sed" => 4
  | "env" | "nice" | "nohup" | "timeout" => 125
  | _ => 1

/-- What is said about output that could not be written. -/
def brokenMessage (name : String) (trouble : Trouble) : List Char :=
  let reason := ": " ++ trouble.reason
  match name with
  | "sed" =>
    ofText ("couldn't " ++ (if trouble = .full then "flush" else "close") ++ " stdout" ++ reason)
  | "tee" => ofText ("'standard output'" ++ reason)
  | _ => ofText ("write error" ++ reason)

def runUtility (ev : Evaluator) (name : String) (args : List (List Char)) : Action Nat := do
  match utilities.lookup name with
  | none => return 127
  | some work =>
    modifyProcess fun p => { p with broken := none }
    let status ← work ev args
    flush
    match (← process).broken with
    | none => return status
    | some trouble =>
      modifyProcess fun p => { p with broken := none }
      if trouble = .full && name = "sort" then complain name (ofText "write error")
      else complain name (brokenMessage name trouble)
      return brokenStatus name

/-- The files of the system. -/
def system : List (String × Node) :=
  let program (name : String) : String × Node := (name, .program name)
  let device (name : String) : String × Node := (name, .device name)
  let directory (name : String) : String × Node := (name, .directory [])
  let shells : List (String × Node) := [("sh", .program "sh"), ("dash", .program "sh")]
  [("bin", .link "usr/bin"),
    ("dev", .directory (["full", "null", "stderr", "stdin", "stdout", "tty", "zero"].map device)),
    directory "etc", directory "home", directory "opt", directory "proc", directory "root",
    directory "run",
    ("sbin", .link "usr/sbin"),
    directory "srv", directory "sys",
    ("usr", .directory
      [("bin", .directory (utilities.map (program ·.1) ++ shells)), directory "lib",
        ("local", .directory [directory "bin", directory "sbin"]), directory "sbin",
        directory "share"]),
    ("var", .directory [directory "log", directory "tmp"])]

end Shell
end FeatureLadder
