/-!
# Errors

`Failure` is what the surrounding system reports when a file cannot be read or a
command cannot be started; `Error` is what the program reports.  Each has one
function that words it.
-/

namespace FeatureLadder

/-- Why the system refused a file or a command. -/
inductive Failure where
  | noSuchFile
  | argumentTooLong
  | permissionDenied
  | alreadyThere
  | notDirectory
  | isDirectory
  | nameTooLong
  | notEmpty
  | tooManyLinks
  /-- the bytes of a text file are not well-formed -/
  | malformedText
  /-- a file name holds the null character -/
  | nullInName
  /-- a command line or its directory holds the null character -/
  | nullInCommand
  /-- any other cause, in the system's own words -/
  | other (text : String)
  deriving DecidableEq

/-- A failure in plain words. -/
def Failure.reason : Failure → String
  | .noSuchFile => "No such file or directory"
  | .argumentTooLong => "Argument list too long"
  | .permissionDenied => "Permission denied"
  | .alreadyThere => "File exists"
  | .notDirectory => "Not a directory"
  | .isDirectory => "Is a directory"
  | .nameTooLong => "File name too long"
  | .notEmpty => "Directory not empty"
  | .tooManyLinks => "Too many levels of symbolic links"
  | .malformedText => "stream did not contain valid UTF-8"
  | .nullInName => "file name contained an unexpected NUL byte"
  | .nullInCommand => "nul byte found in provided data"
  | .other text => text

/-- The system's number for a failure, if it has one. -/
def Failure.number? : Failure → Option Nat
  | .noSuchFile => some 2
  | .argumentTooLong => some 7
  | .permissionDenied => some 13
  | .alreadyThere => some 17
  | .notDirectory => some 20
  | .isDirectory => some 21
  | .nameTooLong => some 36
  | .notEmpty => some 39
  | .tooManyLinks => some 40
  | _ => none

/-- A failure in plain words, with the system's number. -/
def Failure.message (f : Failure) : String :=
  match f.number? with
  | some n => f.reason ++ " (os error " ++ toString n ++ ")"
  | none => f.reason

/-- What can go wrong from the command line to the end of the tests. -/
inductive Error where
  /-- the command line lacks something -/
  | usage (text : String)
  | manifestMissing (path : String)
  | manifestUnreadable (path : String) (cause : Failure)
  | invalidVersion (input : String)
  /-- the target is not declared; `available` names what is -/
  | undeclared (target : String) (available : String)
  | spawnFailed (command : String) (cause : Failure)
  | testsFailed (code : Int)
  deriving DecidableEq

namespace Error

/-- The diagnostic that is shown to the user. -/
def message : Error → String
  | .usage text => text
  | .manifestMissing path => "Manifest file not found: " ++ path
  | .manifestUnreadable path cause =>
    "Failed to read manifest file " ++ path ++ ": " ++ cause.message
  | .invalidVersion input => input ++ " is not a valid version"
  | .undeclared target available =>
    target ++ " is not declared in the manifest (available: " ++ available ++ ")"
  | .spawnFailed command cause =>
    "Failed to spawn test command `" ++ command ++ "`: " ++ cause.message
  | .testsFailed code => "test failed (exit code " ++ toString code ++ ")"

/-- The system's failure behind an error, if there is one. -/
def cause? : Error → Option Failure
  | .manifestUnreadable _ cause => some cause
  | .spawnFailed _ cause => some cause
  | _ => none

end Error

/-- Reading a file that does not exist is an error of its own; every other failure is
reported with its cause. -/
def Error.ofRead (path : String) : Failure → Error
  | .noSuchFile => .manifestMissing path
  | cause => .manifestUnreadable path cause

end FeatureLadder
