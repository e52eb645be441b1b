import FeatureLadder.Executor.Shell
import FeatureLadder.Program.Run

/-!
# The command line

Reads the arguments, the environment, the manifest and the current directory, and hands
them to the program.  Test commands are carried out by the library's own shell, in a
copy of the current directory; files that they make or change are written back.
-/

namespace FeatureLadder
namespace CommandLine

/-- The library's view of an error of the system. -/
def failure : IO.Error → Failure
  | .noFileOrDirectory .. => .noSuchFile
  | e => .other (toString e)

/-- The text of a file. -/
def readManifest (path : String) : IO (Except Failure String) := do
  if path.toList.contains (Char.ofNat 0) then return .error .nullInName
  try
    let bytes ← IO.FS.readBinFile path
    match Utf8.decode? bytes.toList with
    | some text => return .ok (String.ofList text)
    | none => return .error .malformedText
  catch e => return .error (failure e)

/-- Whether the bytes of a file start with the mark of a script. -/
def isScript (bytes : List UInt8) : Bool :=
  (Utf8.encode ['#', '!']).isPrefixOf bytes

/-- A directory with everything below it. -/
partial def readDirectory (path : String) : IO Node := do
  let mut entries : List (String × Node) := []
  for entry in ← (← IO.FS.realPath path).readDir do
    let inner := path ++ "/" ++ entry.fileName
    if ← entry.path.isDir then entries := (entry.fileName, ← readDirectory inner) :: entries
    else
      let bytes ← IO.FS.readBinFile inner
      entries := (entry.fileName, .file bytes.toList (isScript bytes.toList)) :: entries
  return .directory entries

/-- Writes the files of a tree that differ from those of another. -/
def writeBack (before after : FileTree) : IO PUnit := do
  for path in after.files do
    match before.read path, after.read path with
    | .ok old, .ok new =>
      if old ≠ new then IO.FS.writeBinFile path new.toByteArray
    | .error _, .ok new =>
      if let some directory := Path.parent? path then IO.FS.createDirAll directory
      IO.FS.writeBinFile path new.toByteArray
    | _, _ => pure ⟨⟩

/-- The settings of the log. -/
def environment : IO Program.Environment := do
  return {
    filter := ← IO.getEnv "VTEST_LOG"
    fallback := ← IO.getEnv "RUST_LOG"
    format := ← IO.getEnv "VTEST_LOG_FORMAT" }

/-- The variables that test commands find in their environment. -/
def commandEnvironment : IO (List (String × String)) := do
  let mut found : List (String × String) := []
  let names := ["HOME", "LANG", "NO_COLOR", "PATH", "RUST_LOG", "USER", "VTEST_LOG",
    "VTEST_LOG_FORMAT"]
  for name in names do
    if let some value ← IO.getEnv name then found := (name, value) :: found
  return found.reverse

/-- Writes both outputs, and gives the exit code. -/
def leave (outcome : Program.Outcome) : IO Nat := do
  (← IO.getStderr).write outcome.stderr.toByteArray
  (← IO.getStdout).write outcome.stdout.toByteArray
  return outcome.exit

def runAccepted (a : Arguments) : IO Nat := do
  let file ← readManifest a.manifestPath
  let empty := FileTree.scratch Shell.system
  let tree := empty.putAt empty.here (← readDirectory ".")
  let executor := Shell.executor (← commandEnvironment)
  let host : Program.Host FileTree := { file := fun _ => file, executor := executor }
  let env ← environment
  let start ← IO.monoNanosNow
  let passage := Program.dispatch host env a tree
  writeBack tree passage.state
  let stop ← IO.monoNanosNow
  let clock : Program.Clock :=
    { time := toString start ++ "ns", elapsed := toString (stop - start) ++ "ns" }
  leave (passage.outcome env clock a)

def run (arguments : List String) : IO Nat := do
  match Arguments.parse arguments with
  | .ok a => runAccepted a
  | .error rejection => leave (Program.rejected rejection)

end CommandLine
end FeatureLadder

def main (arguments : List String) : IO UInt32 := do
  return (← FeatureLadder.CommandLine.run arguments).toUInt32
