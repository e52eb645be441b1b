import FeatureLadder.Error
import FeatureLadder.Path
import FeatureLadder.Text.Utf8

/-!
# File trees

A tree of directories, files and links with a current directory, as a value.

**Input**: a path, relative to the current directory unless it starts with a slash.

**Algorithm**: the pieces of the path are walked one after the other.  Every piece has
to be met in a directory; empty pieces and single dots stay there, two dots go up (the
root stays where it is), and a name goes down to an entry.  A link is replaced by the
path it holds.

**Results**: `FileTree.read` gives the bytes of a file or the system's reason for
refusing it.
-/

namespace FeatureLadder

/-- What a directory can hold. -/
inductive Node where
  | file (bytes : List UInt8) (executable : Bool)
  | directory (entries : List (String × Node))
  /-- a path that stands for what it leads to -/
  | link (target : String)
  /-- a program of the system -/
  | program (name : String)
  /-- a device of the system -/
  | device (name : String)

namespace Node

/-- The entries with one of them set; a new one comes last. -/
def setEntry (entries : List (String × Node)) (name : String) (node : Node) :
    List (String × Node) :=
  if entries.any (·.1 == name) then
    entries.map fun e => if e.1 == name then (name, node) else e
  else entries ++ [(name, node)]

/-- What lies at a location below a node. -/
def get? : Node → List String → Option Node
  | node, [] => some node
  | .directory entries, name :: rest => (entries.lookup name).bind (·.get? rest)
  | _, _ :: _ => none

/-- The node with `new` put at a location; directories on the way are made. -/
def put : Node → List String → Node → Node
  | _, [], new => new
  | .directory entries, name :: rest, new =>
    .directory
      (setEntry entries name (put ((entries.lookup name).getD (.directory [])) rest new))
  | _, name :: rest, new => .directory [(name, put (.directory []) rest new)]

/-- The node without what lies at a location. -/
def erase : Node → List String → Node
  | .directory entries, [name] => .directory (entries.filter (·.1 != name))
  | .directory entries, name :: rest =>
    .directory (entries.map fun e => if e.1 == name then (name, erase e.2 rest) else e)
  | node, _ => node

/-- Whether a node is a directory. -/
def isDirectory : Node → Bool
  | .directory _ => true
  | _ => false

mutual

/-- The paths of all files below a node, each behind the path of the node itself. -/
def files (path : String) : Node → List String
  | .directory entries => entryFiles path entries
  | _ => [path]

/-- The paths of all files among some entries of a directory. -/
def entryFiles (path : String) : List (String × Node) → List String
  | [] => []
  | (name, node) :: more =>
    files (if path.isEmpty then name else path ++ "/" ++ name) node ++ entryFiles path more

end

end Node

/-- A tree with a current directory, given by the names that lead to it from the root. -/
structure FileTree where
  root : Node
  here : List String

namespace FileTree

/-- An empty directory as current directory, beside what the system provides. -/
def scratch (system : List (String × Node) := []) : FileTree :=
  { root := .directory (system ++ [("tmp", .directory [("work", .directory [])])])
    here := ["tmp", "work"] }

/-- The longest name of an entry, in bytes. -/
def maxName : Nat := 255

/-- Paths have to be shorter than this, in bytes. -/
def pathLimit : Nat := 4096

/-- More pieces than this are met only on a path whose links lead in a circle. -/
def walkLimit : Nat := 20000

/-- The pieces of a path. -/
def pathPieces (path : String) : List String :=
  (Text.pieces '/' path.toList).map String.ofList

/-- Where some pieces of a path lead from a location, given a bound on their number.  A
link at the end of the path is followed only with `follow`. -/
def walk (root : Node) (follow : Bool) :
    Nat → List String → List String → Except Failure (List String)
  | 0, _, _ => .error .tooManyLinks
  | _ + 1, location, [] => .ok location
  | n + 1, location, piece :: rest =>
    match root.get? location with
    | some (.directory entries) =>
      if piece = "" ∨ piece = "." then walk root follow n location rest
      else if piece = ".." then walk root follow n location.dropLast rest
      else if maxName < piece.utf8ByteSize then .error .nameTooLong
      else
        match entries.lookup piece with
        | none => .error .noSuchFile
        | some (.link target) =>
          if rest.isEmpty && !follow then .ok (location ++ [piece])
          else
            let start := if target.startsWith "/" then [] else location
            walk root follow n start (pathPieces target ++ rest)
        | some _ => walk root follow n (location ++ [piece]) rest
    | some _ => .error .notDirectory
    | none => .error .noSuchFile

/-- Where a path starts, and its pieces behind that; some paths are refused as they are. -/
def begin (t : FileTree) (path : String) : Except Failure (List String × List String) :=
  if path.toList.contains (Char.ofNat 0) then .error .nullInName
  else if path.isEmpty then .error .noSuchFile
  else if pathLimit ≤ path.utf8ByteSize then .error .nameTooLong
  else .ok (if path.startsWith "/" then [] else t.here, pathPieces path)

/-- The location that a path leads to. -/
def locate (t : FileTree) (path : String) (follow : Bool := true) :
    Except Failure (List String) := do
  let (start, pieces) ← t.begin path
  walk t.root follow walkLimit start pieces

/-- What a path leads to. -/
def find (t : FileTree) (path : String) (follow : Bool := true) : Except Failure Node := do
  match t.root.get? (← t.locate path follow) with
  | some node => return node
  | none => throw .noSuchFile

/-- The bytes of the file at a path. -/
def read (t : FileTree) (path : String) : Except Failure (List UInt8) := do
  match ← t.find path with
  | .file bytes _ => return bytes
  | .directory _ => throw .isDirectory
  | _ => return []

/-- The text of the file at a path. -/
def readText (t : FileTree) (path : String) : Except Failure String := do
  match Utf8.decode? (← t.read path) with
  | some text => return String.ofList text
  | none => throw .malformedText

/-- The location at which a path that may lead to nothing yet would be made. -/
def locateNew (t : FileTree) (path : String) : Except Failure (List String) := do
  let (start, pieces) ← t.begin path
  match pieces.reverse with
  | [] => throw .noSuchFile
  | last :: before =>
    let location ← walk t.root true walkLimit start before.reverse
    match t.root.get? location with
    | some (.directory entries) =>
      if last = "" ∨ last = "." then return location
      else if last = ".." then return location.dropLast
      else if maxName < last.utf8ByteSize then throw .nameTooLong
      else
        match entries.lookup last with
        | some (.link target) =>
          let start := if target.startsWith "/" then [] else location
          match walk t.root true walkLimit start (pathPieces target) with
          | .ok found => return found
          | .error .noSuchFile =>
            let before := (pathPieces target).dropLast
            return (← walk t.root true walkLimit start before) ++
              [(pathPieces target).getLastD ""]
          | .error e => throw e
        | _ => return location ++ [last]
    | some _ => throw .notDirectory
    | none => throw .noSuchFile

/-- The tree with a node at a location. -/
def putAt (t : FileTree) (location : List String) (node : Node) : FileTree :=
  { t with root := t.root.put location node }

/-- The tree without what lies at a location. -/
def eraseAt (t : FileTree) (location : List String) : FileTree :=
  { t with root := t.root.erase location }

/-- Makes the directories that some pieces of a path pass through, and says where they
lead. -/
def ensure : FileTree → List String → List String → FileTree × List String
  | t, location, [] => (t, location)
  | t, location, piece :: rest =>
    if piece = "" ∨ piece = "." then t.ensure location rest
    else if piece = ".." then t.ensure location.dropLast rest
    else
      match t.root.get? (location ++ [piece]) with
      | some _ => t.ensure (location ++ [piece]) rest
      | none => (t.putAt (location ++ [piece]) (.directory [])).ensure (location ++ [piece]) rest

/-- The pieces of a path, and the location from which they start. -/
def start (t : FileTree) (path : String) : List String × List String :=
  (if path.startsWith "/" then [] else t.here, pathPieces path)

/-- Writes a file; directories on the way to it are made. -/
def write (t : FileTree) (path : String) (bytes : List UInt8) : FileTree :=
  let (location, pieces) := t.start path
  let (t, location) := t.ensure location pieces.dropLast
  t.putAt (location ++ [pieces.getLastD ""]) (.file bytes false)

/-- Makes a directory and those on the way to it; what is there already stays. -/
def makeDirectory (t : FileTree) (path : String) : FileTree :=
  let (location, pieces) := t.start path
  (t.ensure location pieces).1

/-- Removes a file. -/
def remove (t : FileTree) (path : String) : FileTree :=
  match t.locate path false with
  | .ok location => t.eraseAt location
  | .error _ => t

/-- The paths of all files below the current directory, in ascending order. -/
def files (t : FileTree) : List String :=
  match t.root.get? t.here with
  | some node => (node.files "").mergeSort fun a b => a ≤ b
  | none => []

end FileTree
end FeatureLadder
