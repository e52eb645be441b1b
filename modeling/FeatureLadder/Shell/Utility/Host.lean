import FeatureLadder.Shell.Builtin.Condition
import FeatureLadder.Shell.Builtin.Directory
import FeatureLadder.Shell.Builtin.Printing
import FeatureLadder.Shell.Utility.Basic

/-!
# Utilities about the system

What the system and its user are called, and those utilities that the shell has commands
of its own for.
-/

namespace FeatureLadder
namespace Shell
namespace Utility

/-- The properties of the system by the letters that ask for them, in the order in which
they are shown. -/
def systemNames : List (Char × String) :=
  [('s', "Linux"), ('n', "localhost"), ('r', "6.1.0"), ('v', "#1 SMP"), ('m', "x86_64"),
    ('o', "GNU/Linux")]

/-- Shows the names of the system. -/
def uname (args : List (List Char)) : Action Nat :=
  let words := [("all", 'a'), ("kernel-name", 's'), ("nodename", 'n'), ("kernel-release", 'r'),
    ("kernel-version", 'v'), ("machine", 'm'), ("operating-system", 'o')]
  withOptions "uname" { letters := "asnrvmpio", words := words } args fun choices operands => do
    match operands with
    | extra :: _ => refuse "uname" 1 (ofText "extra operand " ++ inQuotes extra)
    | [] =>
      let asked (c : Char) : Bool :=
        has choices 'a' || has choices c || (choices.isEmpty && c == 's')
      let texts := (systemNames.filter (asked ·.1)).map (·.2.toList)
      emit ([' '].intercalate texts ++ ['\n'])
      return 0

/-- Shows a text that takes no operands. -/
def fact (name text : String) (args : List (List Char)) : Action Nat :=
  withOptions name { letters := "" } args fun _ operands => do
    match operands with
    | extra :: _ => refuse name 1 (ofText "extra operand " ++ inQuotes extra)
    | [] =>
      emit (ofText text ++ ['\n'])
      return 0

/-- Shows who the user is. -/
def identity (args : List (List Char)) : Action Nat :=
  withOptions "id" { letters := "ugGnr" } args fun choices operands => do
    match operands with
    | other :: _ =>
      if other ≠ "root".toList then
        complain "id" (inQuotes other ++ ofText ": no such user")
        return 1
    | [] => pure ⟨⟩
    if has choices 'u' || has choices 'g' || has choices 'G' then
      emit (ofText (if has choices 'n' then "root\n" else "0\n"))
    else emit (ofText "uid=0(root) gid=0(root) groups=0(root)\n")
    return 0

/-- Says which terminal the standard input is: none. -/
def tty (args : List (List Char)) : Action Nat :=
  withOptions "tty" { letters := "s", words := [("silent", 's'), ("quiet", 's')] } args
    (fun choices _ => do
      if !has choices 's' then emit (ofText "not a tty\n")
      return 1)
    2

/-- Whether an argument is a group of the letters that `echo` takes. -/
def isEchoOption (arg : List Char) : Bool :=
  match arg with
  | '-' :: c :: cs => (c :: cs).all fun c => c == 'n' || c == 'e' || c == 'E'
  | _ => false

def echo (args : List (List Char)) : Action Nat := do
  let options := args.takeWhile isEchoOption
  let letters := options.flatMap (·.drop 1)
  let text := [' '].intercalate (args.drop options.length)
  let marks := letters.filter (· ≠ 'n')
  let (text, ended) :=
    if marks.getLast? = some 'e' then Printing.unescape (text.length + 1) text else (text, false)
  emit (if ended || letters.contains 'n' then text else text ++ ['\n'])
  return 0

/-- Shows its operands by a format. -/
def printf (args : List (List Char)) : Action Nat := do
  if args.isEmpty then refuse "printf" 1 (ofText "missing operand") else Printing.printf args

def pwd (args : List (List Char)) : Action Nat :=
  withOptions "pwd" { letters := "LP", words := [("logical", 'L'), ("physical", 'P')] } args
    fun _ operands => do
      if !operands.isEmpty then complain "pwd" (ofText "ignoring non-option arguments")
      emit (Directory.pathOf (← process).here ++ ['\n'])
      return 0

end Utility
end Shell
end FeatureLadder
