import FeatureLadder.Shell.Bytes

/-!
# Signals

The signals that processes can send each other, by number.
-/

namespace FeatureLadder
namespace Shell
namespace Signal

/-- The names of the signals up to 31; a number without a name stands for itself. -/
def names : List String :=
  ["0", "HUP", "INT", "QUIT", "ILL", "TRAP", "ABRT", "BUS", "FPE", "KILL", "USR1", "SEGV", "USR2",
    "PIPE", "ALRM", "TERM", "16", "CHLD", "CONT", "STOP", "TSTP", "TTIN", "TTOU", "URG", "XCPU",
    "XFSZ", "VTALRM", "PROF", "WINCH", "IO", "PWR", "SYS"]

def count : Nat := 65

def name (n : Nat) : String :=
  if n < 32 then names.getD n ""
  else if n < 34 then toString n
  else if n = 34 then "RTMIN"
  else if n < 50 then "RTMIN+" ++ toString (n - 34)
  else if n < 64 then "RTMAX-" ++ toString (64 - n)
  else "RTMAX"

/-- The signal that a number or a name stands for.  The end of the script counts as one
where `ends` says so. -/
def number? (ends : Bool) (text : List Char) : Option Nat :=
  match digits? text with
  | some n => if n < count then some n else none
  | none =>
    let upper := (toText text).toUpper
    let found := (List.range count).find? fun n => 0 < n && name n = upper
    if ends && upper = "EXIT" then some 0 else found

/-- What is said about a process that a signal ended. -/
def description (n : Nat) : String :=
  match n with
  | 1 => "Hangup"
  | 2 => "Interrupt"
  | 3 => "Quit"
  | 4 => "Illegal instruction"
  | 5 => "Trace/breakpoint trap"
  | 6 => "Aborted"
  | 7 => "Bus error"
  | 8 => "Floating point exception"
  | 9 => "Killed"
  | 10 => "User defined signal 1"
  | 11 => "Segmentation fault"
  | 12 => "User defined signal 2"
  | 13 => "Broken pipe"
  | 14 => "Alarm clock"
  | 15 => "Terminated"
  | 16 => "Stack fault"
  | 24 => "CPU time limit exceeded"
  | 25 => "File size limit exceeded"
  | 26 => "Virtual timer expired"
  | 27 => "Profiling timer expired"
  | 29 => "I/O possible"
  | 30 => "Power failure"
  | 31 => "Bad system call"
  | _ => if n < 34 then "Unknown signal " ++ toString n else "Real-time signal " ++ toString (n - 34)

/-- Whether a signal does nothing to a process that does not care about it. -/
def isHarmless (n : Nat) : Bool :=
  [0, 17, 18, 23, 28].contains n

/-- Whether nothing is said about a process that a signal ended. -/
def isQuiet (n : Nat) : Bool :=
  n = 2 || n = brokenPipe
where
  /-- The signal for writing where nobody reads. -/
  brokenPipe : Nat := 13

end Signal
end Shell
end FeatureLadder
