import FeatureLadder.Shell.Builtin.Condition
import FeatureLadder.Shell.Builtin.Control
import FeatureLadder.Shell.Builtin.Directory
import FeatureLadder.Shell.Builtin.Printing
import FeatureLadder.Shell.Builtin.Signals
import FeatureLadder.Shell.Builtin.Variables

/-!
# The commands of the shell

Each of them by its name.
-/

namespace FeatureLadder
namespace Shell

/-- Runs a command of the shell.  With `tested` its failure is looked at by another
command. -/
def builtin (ev : Evaluator) (tested : Bool) (name : String) (args : List (List Char)) :
    Action Nat :=
  match name with
  | "." => Control.source ev args
  | ":" | "true" => return 0
  | "false" => return 1
  | "[" => Condition.bracket args
  | "alias" => Variables.rename args
  | "bg" | "fg" => Control.noJob args
  | "break" => Control.leave args
  | "cd" | "chdir" => Directory.cd args
  | "command" => Control.command args
  | "continue" => Control.again args
  | "echo" => Printing.echo args
  | "eval" => Control.eval ev tested args
  | "exec" => Control.replace ev args
  | "exit" => Control.exit args
  | "export" => Variables.exported args
  | "getopts" => Variables.getopts args
  | "hash" => Control.hash args
  | "jobs" => Signals.jobs args
  | "kill" => Signals.kill args
  | "local" => Variables.localize args
  | "printf" => Printing.printf args
  | "pwd" => Directory.pwd args
  | "read" => Variables.read args
  | "readonly" => Variables.readonly args
  | "return" => Control.back args
  | "set" => Variables.set args
  | "shift" => Variables.shift args
  | "test" => Condition.test args
  | "times" => Control.times
  | "trap" => Signals.trap args
  | "type" => Control.type args
  | "ulimit" => Control.limits args
  | "umask" => Directory.umask args
  | "unalias" => Variables.unalias args
  | "unset" => Variables.unset args
  | "wait" => Signals.wait ev args
  | _ => return 127

end Shell
end FeatureLadder
