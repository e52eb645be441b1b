import FeatureLadder.Shell.Builtin.Directory
import FeatureLadder.Shell.Utility.Basic

/-!
# Utilities on files and directories

What shows, makes, copies, moves, links and removes files and directories, and what takes
paths apart.
-/

namespace FeatureLadder
namespace Shell
namespace Utility

/-- A path and a name below it. -/
def below (path name : List Char) : List Char :=
  if path.getLast? = some '/' then path ++ name else path ++ ['/'] ++ name

/-- The last name of a path. -/
def lastName (path : List Char) : List Char :=
  let body := (path.reverse.dropWhile (· == '/')).reverse
  if body.isEmpty then (if path.isEmpty then [] else ['/'])
  else (body.reverse.takeWhile (· ≠ '/')).reverse

/-- What stands before the last name of a path. -/
def parentOf (path : List Char) : List Char :=
  let body := path.reverse.dropWhile (· == '/')
  if body.isEmpty then (if path.isEmpty then ['.'] else ['/'])
  else
    match (body.dropWhile (· ≠ '/')) with
    | [] => ['.']
    | rest =>
      let cut := rest.dropWhile (· == '/')
      if cut.isEmpty then ['/'] else cut.reverse

/-- What a path leads to; a link is followed only with `follow`. -/
def nodeAt? (path : List Char) (follow : Bool := true) : Action (Except Failure Node) :=
  return (← tree).find (toText path) follow

/-- Whether a path leads to a directory. -/
def isDirectoryAt (path : List Char) : Action Bool :=
  return match ← nodeAt? path with
  | .ok (.directory _) => true
  | _ => false

/-! ## Showing -/

/-- How a directory is shown. -/
structure Listing where
  /-- whether names that start with a dot are shown, and the directory itself -/
  all : Bool := false
  almostAll : Bool := false
  reverse : Bool := false
  recursive : Bool := false
  slashes : Bool := false
  classify : Bool := false
  long : Bool := false
  bySize : Bool := false

/-- What is put behind a name to show what it is. -/
def Listing.suffix (l : Listing) (node : Node) : List Char :=
  match node with
  | .directory _ => if l.slashes || l.classify then ['/'] else []
  | .link _ => if l.classify then ['@'] else []
  | .file _ true | .program _ => if l.classify then ['*'] else []
  | _ => []

def sizeOf : Node → Nat
  | .file bytes _ => bytes.length
  | .directory _ => 4096
  | .link target => target.utf8ByteSize
  | _ => 0

/-- The line of an entry in a long listing. -/
def longLine (name : List Char) (node : Node) : List Char :=
  let mode :=
    match node with
    | .directory _ => "drwxr-xr-x"
    | .link _ => "lrwxrwxrwx"
    | .file _ true | .program _ => "-rwxr-xr-x"
    | .device _ => "crw-rw-rw-"
    | _ => "-rw-r--r--"
  let target :=
    match node with
    | .link target => ofText (" -> " ++ target)
    | _ => []
  ofText (mode ++ " 1 root root ") ++ ofNumber (sizeOf node) ++ ofText " Jan  1 00:00 " ++ name ++
    target

/-- The lines of some entries. -/
def Listing.lines (l : Listing) (entries : List (List Char × Node)) : List Char :=
  let sorted := entries.mergeSort fun a b =>
    if l.bySize && sizeOf a.2 ≠ sizeOf b.2 then sizeOf b.2 < sizeOf a.2 else bytesLe a.1 b.1
  let sorted := if l.reverse then sorted.reverse else sorted
  sorted.flatMap fun (name, node) =>
    (if l.long then longLine name node else name) ++ l.suffix node ++ ['\n']

/-- The entries of a directory that are shown. -/
def Listing.shownEntries (l : Listing) (entries : List (String × Node)) :
    List (List Char × Node) :=
  let named := entries.map fun (name, node) => (ofText name, node)
  let visible := named.filter fun e => l.all || l.almostAll || e.1.head? ≠ some '.'
  if l.all then (['.'], .directory []) :: (['.', '.'], .directory []) :: visible else visible

/-- Shows a directory and, if asked for, those below it, given a bound on their depth. -/
def Listing.directory (l : Listing) : Nat → Bool → List Char → List (String × Node) → List Char
  | 0, _, _, _ => []
  | n + 1, headed, path, entries =>
    let listed := l.shownEntries entries
    let total := if l.long then ofText "total 0\n" else []
    let own := (if headed then path ++ [':', '\n'] else []) ++ total ++ l.lines listed
    if !l.recursive then own
    else
      let sorted := listed.mergeSort fun a b => bytesLe a.1 b.1
      own ++ sorted.flatMap fun (name, node) =>
        match node with
        | .directory inner =>
          if name = ['.'] || name = ['.', '.'] then []
          else '\n' :: l.directory n true (below path name) inner
        | _ => []

def ls (args : List (List Char)) : Action Nat :=
  let words := [("all", 'a'), ("almost-all", 'A'), ("directory", 'd'), ("recursive", 'R'),
    ("reverse", 'r'), ("classify", 'F')]
  withOptions "ls" { letters := "aAdRrF1plhtSiUCx", words := words } args
    (fun choices operands => do
      let l : Listing :=
        { all := has choices 'a', almostAll := has choices 'A', reverse := has choices 'r'
          recursive := has choices 'R', slashes := has choices 'p', classify := has choices 'F'
          long := has choices 'l', bySize := has choices 'S' }
      let itself := has choices 'd'
      let paths := if operands.isEmpty then [['.']] else operands
      let mut files : List (List Char × Node) := []
      let mut directories : List (List Char × List (String × Node)) := []
      let mut fine := true
      for path in paths do
        let plain ← nodeAt? path false
        let found ← if itself || l.long || l.classify then pure plain else nodeAt? path
        let found : Except Failure Node :=
          match found, plain with
          | .error _, .ok (.link t) => .ok (.link t)
          | _, _ => found
        match found with
        | .error e =>
          complain "ls" (ofText "cannot access " ++ inQuotes path ++ ofText (": " ++ e.reason))
          fine := false
        | .ok (.directory entries) =>
          if itself then files := files ++ [(path, .directory entries)]
          else directories := directories ++ [(path, entries)]
        | .ok node => files := files ++ [(path, node)]
      emit (l.lines files)
      let sorted := directories.mergeSort fun a b => bytesLe a.1 b.1
      let sorted := if l.reverse then sorted.reverse else sorted
      let headed := 1 < paths.length || l.recursive
      for ((path, entries), i) in sorted.zipIdx do
        if 0 < i || !files.isEmpty then emit ['\n']
        emit (l.directory 100 headed path entries)
      return if fine then 0 else 2)
    2

/-! ## Making and removing -/

/-- Makes files that do not exist. -/
def touch (args : List (List Char)) : Action Nat :=
  let words := [("no-create", 'c'), ("date", 'd'), ("reference", 'r')]
  withOptions "touch" { letters := "acmd:r:t:h", words := words } args fun choices operands => do
    if operands.isEmpty then return ← refuse "touch" 1 (ofText "missing file operand")
    let mut fine := true
    for path in operands do
      match ← nodeAt? path with
      | .ok _ => pure ()
      | .error .noSuchFile =>
        if !has choices 'c' then
          let refused : Option Failure ←
            if path.getLast? = some '/' then pure (some .noSuchFile)
            else match ← openOutput .append path with
              | .ok _ => pure none
              | .error e => pure (some e)
          if let some e := refused then
            complain "touch" (ofText "cannot touch " ++ inQuotes path ++ ofText (": " ++ e.reason))
            fine := false
      | .error e =>
        complain "touch" (ofText "cannot touch " ++ inQuotes path ++ ofText (": " ++ e.reason))
        fine := false
    return statusOf fine

/-- Makes a directory; with `parents` those on the way to it, too. -/
def makeDirectory (parents : Bool) (path : List Char) : Action (Option Failure) := do
  let t ← tree
  let trimmed := (path.reverse.dropWhile (· == '/')).reverse
  let target := if trimmed.isEmpty then path else trimmed
  match t.find (toText target) with
  | .ok node => return if parents && node.isDirectory then none else some .alreadyThere
  | .error .noSuchFile =>
    match t.locateNew (toText target) with
    | .ok location =>
      setTree (t.putAt location (.directory []))
      return none
    | .error e => return some e
  | .error e => return some e

/-- The paths that lead to a path, shortest first. -/
def leading (path : List Char) : List (List Char) :=
  (List.range (path.length + 1)).filterMap fun n =>
    let start := path.take n
    if n = path.length then some path
    else if (path.drop n).head? = some '/' && start.getLast? ≠ some '/' && 0 < n then some start
    else none

def mkdir (args : List (List Char)) : Action Nat :=
  let words := [("parents", 'p'), ("mode", 'm'), ("verbose", 'v')]
  withOptions "mkdir" { letters := "pm:v", words := words } args fun choices operands => do
    if operands.isEmpty then return ← refuse "mkdir" 1 (ofText "missing operand")
    let mut fine := true
    for path in operands do
      let parents := has choices 'p'
      let mut failed : Option (List Char × Failure) := none
      for step in if parents then leading path else [path] do
        if failed.isNone then
          let existed := match ← nodeAt? step with
            | .ok _ => true
            | .error _ => false
          match ← makeDirectory parents step with
          | none =>
            if has choices 'v' && !existed then
              emit (ofText "mkdir: created directory " ++ inQuotes step ++ ['\n'])
          | some e => failed := some (step, e)
      if let some (step, e) := failed then
        let e := if parents && e = .alreadyThere && step ≠ path then Failure.notDirectory else e
        complain "mkdir"
          (ofText "cannot create directory " ++ inQuotes step ++ ofText (": " ++ e.reason))
        fine := false
    return statusOf fine

/-- Removes what a path leads to. -/
def eraseAtPath (path : List Char) : Action PUnit := do
  let t ← tree
  match t.locate (toText path) false with
  | .ok location => setTree (t.eraseAt location)
  | .error _ => pure ()

/-- Removes files, and directories if asked for. -/
def rm (args : List (List Char)) : Action Nat :=
  let words := [("force", 'f'), ("recursive", 'r'), ("dir", 'd'), ("verbose", 'v')]
  withOptions "rm" { letters := "frRdiIv", words := words } args fun choices operands => do
    let force := has choices 'f'
    let recursive := has choices 'r' || has choices 'R'
    if operands.isEmpty then
      return ← if force then pure 0 else refuse "rm" 1 (ofText "missing operand")
    let mut fine := true
    for path in operands do
      let name := lastName path
      if (name = ['.'] || name = ['.', '.']) && recursive then
        complain "rm" (ofText "refusing to remove '.' or '..' directory: skipping " ++ inQuotes path)
        fine := false
        continue
      let refusal : Option Failure ←
        match ← nodeAt? path false with
        | .error e =>
          pure (if force && (e = .noSuchFile || e = .notDirectory) then none else some e)
        | .ok (.directory entries) =>
          if recursive || (has choices 'd' && entries.isEmpty) then
            eraseAtPath path
            if has choices 'v' then emit (ofText "removed directory " ++ inQuotes path ++ ['\n'])
            pure none
          else pure (some (if has choices 'd' then Failure.notEmpty else Failure.isDirectory))
        | .ok _ =>
          eraseAtPath path
          if has choices 'v' then emit (ofText "removed " ++ inQuotes path ++ ['\n'])
          pure none
      if let some e := refusal then
        complain "rm" (ofText "cannot remove " ++ inQuotes path ++ ofText (": " ++ e.reason))
        fine := false
    return statusOf fine

def rmdir (args : List (List Char)) : Action Nat :=
  let words := [("parents", 'p'), ("verbose", 'v'), ("ignore-fail-on-non-empty", 'i')]
  withOptions "rmdir" { letters := "pvi", words := words } args fun choices operands => do
    if operands.isEmpty then return ← refuse "rmdir" 1 (ofText "missing operand")
    let mut fine := true
    for path in operands do
      for step in if has choices 'p' then (leading path).reverse else [path] do
        let refusal : Option Failure ←
          match ← nodeAt? step with
          | .error e => pure (some e)
          | .ok (.directory []) =>
            eraseAtPath step
            pure none
          | .ok (.directory _) => pure (if has choices 'i' then none else some .notEmpty)
          | .ok _ => pure (some .notDirectory)
        if let some e := refusal then
          complain "rmdir" (ofText "failed to remove " ++ inQuotes step ++ ofText (": " ++ e.reason))
          fine := false
          break
    return statusOf fine

/-! ## Copying, moving and linking -/

/-- The paths from which something goes, and where to, for operands the last of which is
the target; none after a message. -/
def destinations (name : String) (target : Option (List Char)) (operands : List (List Char)) :
    Action (Option (List (List Char × List Char))) := do
  let (sources, target') :=
    match target with
    | some t => (operands, t)
    | none => (operands.dropLast, operands.getLastD [])
  match operands with
  | [] =>
    let _ ← refuse name 1 (ofText "missing file operand")
    return none
  | [single] =>
    if target.isNone then
      let _ ← refuse name 1 (ofText "missing destination file operand after " ++ inQuotes single)
      return none
  | _ => pure ()
  if ← isDirectoryAt target' then
    return some (sources.map fun s => (s, below target' (lastName s)))
  else if 1 < sources.length || target.isSome then
    let reason := match ← nodeAt? target' with
      | .error e => e.reason
      | .ok _ => Failure.notDirectory.reason
    let what := if target.isSome then "target directory " else "target "
    complain name (ofText what ++ inQuotes target' ++ ofText (": " ++ reason))
    return none
  else return some (sources.map (·, target'))

/-- Puts a node at a path and says what kept it from being put there. -/
def placeAt (path : List Char) (node : Node) : Action (Option Failure) := do
  let t ← tree
  match t.locateNew (toText path) with
  | .ok location =>
    setTree (t.putAt location node)
    return none
  | .error e => return some e

/-- A directory joined with another one below it, given a bound on their depth. -/
def mergeNodes : Nat → Node → Node → Node
  | 0, _, new => new
  | n + 1, .directory old, .directory new =>
    .directory (new.foldl (fun entries (name, node) =>
      let merged := match entries.lookup name with
        | some before => mergeNodes n before node
        | none => node
      Node.setEntry entries name merged) old)
  | _ + 1, _, new => new

/-- Whether a path leads below another one. -/
def isBelow (t : FileTree) (outer inner : List Char) : Bool :=
  match (t.locate (toText outer)).toOption, (t.locateNew (toText inner)).toOption with
  | some a, some b => a.isPrefixOf b
  | _, _ => false

/-- Copies files, and directories if asked for. -/
def cp (args : List (List Char)) : Action Nat :=
  let words := [("recursive", 'r'), ("force", 'f'), ("no-clobber", 'n'), ("archive", 'a'),
    ("target-directory", 't'), ("verbose", 'v'), ("preserve", 'p'), ("update", 'u'),
    ("no-target-directory", 'T'), ("interactive", 'i')]
  withOptions "cp" { letters := "rRfnapuvit:TdPL", words := words } args fun choices operands => do
    let recursive := has choices 'r' || has choices 'R' || has choices 'a'
    let keepsLinks := has choices 'a' || has choices 'd' || has choices 'P' || recursive
    match ← destinations "cp" (value? choices 't') operands with
    | none => return 1
    | some pairs =>
      let mut fine := true
      for (source, target) in pairs do
        let t ← tree
        let said : Option (List Char) ←
          match ← nodeAt? source (!keepsLinks) with
          | .error e =>
            pure (some (ofText "cannot stat " ++ inQuotes source ++ ofText (": " ++ e.reason)))
          | .ok node =>
            if node.isDirectory && !recursive then
              pure (some (ofText "-r not specified; omitting directory " ++ inQuotes source))
            else if (t.locate (toText source)).toOption = (t.locate (toText target)).toOption &&
                (t.locate (toText target)).toOption.isSome then
              pure (some (inQuotes source ++ ofText " and " ++ inQuotes target ++
                ofText " are the same file"))
            else if node.isDirectory && isBelow t source target then
              pure (some (ofText "cannot copy a directory, " ++ inQuotes source ++
                ofText ", into itself, " ++ inQuotes target))
            else
              let existing := (t.find (toText target)).toOption
              if has choices 'n' && existing.isSome then pure none
              else if node.isDirectory && existing.any (!·.isDirectory) then
                pure (some (ofText "cannot overwrite non-directory " ++ inQuotes target ++
                  ofText " with directory " ++ inQuotes source))
              else
                let node := match existing with
                  | some before => mergeNodes 100 before node
                  | none => node
                match ← placeAt target node with
                | none =>
                  if has choices 'v' then
                    emit (inQuotes source ++ ofText " -> " ++ inQuotes target ++ ['\n'])
                  pure none
                | some e =>
                  let what := if node.isDirectory then "cannot create directory "
                    else "cannot create regular file "
                  pure (some (ofText what ++ inQuotes target ++ ofText (": " ++ e.reason)))
        if let some text := said then
          complain "cp" text
          fine := false
      return statusOf fine

def mv (args : List (List Char)) : Action Nat :=
  let words := [("force", 'f'), ("no-clobber", 'n'), ("target-directory", 't'), ("verbose", 'v'),
    ("interactive", 'i')]
  withOptions "mv" { letters := "fnvit:Tu", words := words } args fun choices operands => do
    match ← destinations "mv" (value? choices 't') operands with
    | none => return 1
    | some pairs =>
      let mut fine := true
      for (source, target) in pairs do
        let t ← tree
        let said : Option (List Char) ←
          match ← nodeAt? source false with
          | .error e =>
            pure (some (ofText "cannot stat " ++ inQuotes source ++ ofText (": " ++ e.reason)))
          | .ok node =>
            let from' := (t.locate (toText source) false).toOption
            let to' := (t.locate (toText target) false).toOption
            let existing := (t.find (toText target)).toOption
            if from' = to' && to'.isSome then
              pure (some (inQuotes source ++ ofText " and " ++ inQuotes target ++
                ofText " are the same file"))
            else if has choices 'n' && existing.isSome then pure none
            else if node.isDirectory && existing.any (!·.isDirectory) then
              pure (some (ofText "cannot overwrite non-directory " ++ inQuotes target ++
                ofText " with directory " ++ inQuotes source))
            else
              if node.isDirectory && isBelow t source target then
                pure (some (ofText "cannot move " ++ inQuotes source ++
                  ofText " to a subdirectory of itself, " ++ inQuotes target))
              else
                match t.locateNew (toText target) with
                | .error e =>
                  pure (some (ofText "cannot move " ++ inQuotes source ++ ofText " to " ++
                    inQuotes target ++ ofText (": " ++ e.reason)))
                | .ok location =>
                  eraseAtPath source
                  setTree ((← tree).putAt location node)
                  if has choices 'v' then
                    emit (ofText "renamed " ++ inQuotes source ++ ofText " -> " ++ inQuotes target ++
                      ['\n'])
                  pure none
        if let some text := said then
          complain "mv" text
          fine := false
      return statusOf fine

def ln (args : List (List Char)) : Action Nat :=
  let words := [("symbolic", 's'), ("force", 'f'), ("no-dereference", 'n'), ("verbose", 'v')]
  withOptions "ln" { letters := "sfnvrT", words := words } args fun choices operands => do
    let symbolic := has choices 's'
    let pairs ←
      match operands with
      | [single] => pure (some [(single, lastName single)])
      | _ => destinations "ln" none operands
    match pairs with
    | none => return 1
    | some pairs =>
      let mut fine := true
      for (source, target) in pairs do
        let kind := if symbolic then "symbolic link " else "hard link "
        let t ← tree
        let said : Option (List Char) ←
          match t.find (toText target) false with
          | .ok node =>
            if has choices 'f' && !node.isDirectory then
              eraseAtPath target
              pure none
            else pure (some (ofText ("failed to create " ++ kind) ++ inQuotes target ++
              ofText ": File exists"))
          | .error _ => pure none
        let said ←
          match said with
          | some text => pure (some text)
          | none =>
            let node : Except Failure Node :=
              if symbolic then .ok (.link (toText source)) else t.find (toText source) false
            match node with
            | .error e =>
              pure (some (ofText "failed to access " ++ inQuotes source ++ ofText (": " ++ e.reason)))
            | .ok (.directory _) =>
              pure (some (inQuotes source ++ ofText ": hard link not allowed for directory"))
            | .ok node =>
              match ← placeAt target node with
              | none => pure none
              | some e =>
                pure (some (ofText ("failed to create " ++ kind) ++ inQuotes target ++
                  ofText (": " ++ e.reason)))
        if let some text := said then
          complain "ln" text
          fine := false
      return statusOf fine

/-- Whether a mode makes a file that is or is not executable an executable one; none for a
mode that is no mode. -/
def executableBy? (mode : List Char) (before : Bool) : Option Bool :=
  if !mode.isEmpty && mode.all fun c => '0' ≤ c && c ≤ '7' then
    let n := mode.foldl (fun n c => 8 * n + (c.toNat - 0x30)) 0
    some (n &&& 0x49 ≠ 0)
  else
    (Directory.applyMode (if before then 0x1ED else 0x1A4) mode).map fun n => n &&& 0x49 ≠ 0

def chmod (args : List (List Char)) : Action Nat := do
  let isMode (a : List Char) : Bool :=
    match a with
    | '-' :: c :: _ => "rwxst".toList.contains c
    | _ => false
  let modes := args.filter isMode
  let others := if modes.isEmpty then args else args.filter (!isMode ·)
  withOptions "chmod" { letters := "Rvfc", words := [("recursive", 'R')] } others
    fun _ operands => do
      match modes.head?.toList ++ operands with
      | [] => refuse "chmod" 1 (ofText "missing operand")
      | [mode] => refuse "chmod" 1 (ofText "missing operand after " ++ inQuotes mode)
      | mode :: paths =>
        if (executableBy? mode false).isNone then
          return ← refuse "chmod" 1 (ofText "invalid mode: " ++ inQuotes mode)
        let mut fine := true
        for path in paths do
          let t ← tree
          match t.locate (toText path) with
          | .error e =>
            complain "chmod" (ofText "cannot access " ++ inQuotes path ++ ofText (": " ++ e.reason))
            fine := false
          | .ok location =>
            match t.root.get? location with
            | some (.file bytes executable) =>
              let now := (executableBy? mode executable).getD executable
              setTree (t.putAt location (.file bytes now))
            | _ => pure ()
        return statusOf fine

/-! ## Paths -/

/-- The last names of paths. -/
def basename (args : List (List Char)) : Action Nat :=
  let words := [("multiple", 'a'), ("suffix", 's')]
  withOptions "basename" { letters := "as:z", words := words, inOrder := true } args
    fun choices operands => do
      let strip (suffix name : List Char) : List Char :=
        if suffix.isSuffixOf name && suffix ≠ name then name.take (name.length - suffix.length)
        else name
      if has choices 'a' || has choices 's' then
        if operands.isEmpty then return ← refuse "basename" 1 (ofText "missing operand")
        let suffix := (value? choices 's').getD []
        emit (operands.flatMap fun p => strip suffix (lastName p) ++ ['\n'])
        return 0
      match operands with
      | [] => refuse "basename" 1 (ofText "missing operand")
      | [path] =>
        emit (lastName path ++ ['\n'])
        return 0
      | [path, suffix] =>
        emit (strip suffix (lastName path) ++ ['\n'])
        return 0
      | _ :: _ :: extra :: _ => refuse "basename" 1 (ofText "extra operand " ++ inQuotes extra)

/-- What stands before the last names of paths. -/
def dirname (args : List (List Char)) : Action Nat :=
  withOptions "dirname" { letters := "z" } args fun _ operands => do
    if operands.isEmpty then return ← refuse "dirname" 1 (ofText "missing operand")
    emit (operands.flatMap fun p => parentOf p ++ ['\n'])
    return 0

/-- Where links lead. -/
def readlink (args : List (List Char)) : Action Nat :=
  let words := [("canonicalize", 'f'), ("no-newline", 'n')]
  withOptions "readlink" { letters := "femnqsvz", words := words } args fun choices operands => do
    if operands.isEmpty then return ← refuse "readlink" 1 (ofText "missing operand")
    let mut fine := true
    for path in operands do
      let t ← tree
      let answer :=
        if has choices 'f' || has choices 'e' || has choices 'm' then
          let found := (t.locate (toText path)).toOption
          let found := if has choices 'e' then found
            else found <|> (t.locateNew (toText path)).toOption
          found.map Directory.pathOf
        else
          match t.find (toText path) false with
          | .ok (.link target) => some (ofText target)
          | _ => none
      match answer with
      | some text => emit (text ++ if has choices 'n' then [] else ['\n'])
      | none => fine := false
    return statusOf fine

/-- Paths without links and dots. -/
def realpath (args : List (List Char)) : Action Nat :=
  withOptions "realpath" { letters := "emsqz" } args fun choices operands => do
    if operands.isEmpty then return ← refuse "realpath" 1 (ofText "missing operand")
    let mut fine := true
    for path in operands do
      let t ← tree
      let found : Except Failure (List String) :=
        match t.locate (toText path) with
        | .ok location => .ok location
        | .error .noSuchFile =>
          if has choices 'e' then .error .noSuchFile else t.locateNew (toText path)
        | .error e => .error e
      match found with
      | .ok location => emit (Directory.pathOf location ++ ['\n'])
      | .error e =>
        complain "realpath" (shown path ++ ofText (": " ++ e.reason))
        fine := false
    return statusOf fine

/-- Makes a file with a name of its own. -/
def mktemp (args : List (List Char)) : Action Nat :=
  let words := [("directory", 'd'), ("dry-run", 'u'), ("tmpdir", 'p'), ("quiet", 'q')]
  withOptions "mktemp" { letters := "duqp:t", words := words } args fun choices operands => do
    let m ← get
    set { m with latest := m.latest + 1 }
    let digits := ofNumber m.latest
    let fresh := List.replicate (10 - digits.length) 'x' ++ digits
    let template := operands.headD (ofText "tmp.XXXXXXXXXX")
    let marks := (template.reverse.takeWhile (· == 'X')).length
    if marks < 3 then
      complain "mktemp" (ofText "too few X's in template " ++ inQuotes template)
      return 1
    let name := template.take (template.length - marks) ++ fresh.drop (10 - min 10 marks)
    let path :=
      if !operands.isEmpty && !has choices 'p' && !has choices 't' then name
      else below ((value? choices 'p').getD (ofText "/tmp")) name
    if !has choices 'u' then
      let _ ← placeAt path (if has choices 'd' then .directory [] else .file [] false)
    emit (path ++ ['\n'])
    return 0

/-- Shows what is known about files. -/
def stat (args : List (List Char)) : Action Nat :=
  let words := [("format", 'c'), ("printf", 'p'), ("dereference", 'L')]
  withOptions "stat" { letters := "c:p:L", words := words } args fun choices operands => do
    let format := (value? choices 'c').getD (ofText "%n")
    if operands.isEmpty then return ← refuse "stat" 1 (ofText "missing operand")
    let mut fine := true
    for path in operands do
      match ← nodeAt? path (has choices 'L') with
      | .error e =>
        complain "stat" (ofText "cannot statx " ++ inQuotes path ++ ofText (": " ++ e.reason))
        fine := false
      | .ok node => emit (directives path node (format.length + 1) format ++ ['\n'])
    return statusOf fine
where
  /-- A format with what is known about a file, given a bound on its length. -/
  directives (path : List Char) (node : Node) : Nat → List Char → List Char
    | 0, _ => []
    | _ + 1, [] => []
    | n + 1, '%' :: c :: rest =>
      let text : List Char :=
        match c, node with
        | 'n', _ => path
        | 's', _ => ofNumber (sizeOf node)
        | 'F', .directory _ => ofText "directory"
        | 'F', .link _ => ofText "symbolic link"
        | 'F', .device _ => ofText "character special file"
        | 'F', .file [] _ => ofText "regular empty file"
        | 'F', _ => ofText "regular file"
        | 'a', .directory _ | 'a', .file _ true | 'a', .program _ => ofText "755"
        | 'a', .link _ => ofText "777"
        | 'a', _ => ofText "644"
        | 'U', _ | 'G', _ => ofText "root"
        | 'u', _ | 'g', _ => ofText "0"
        | '%', _ => ['%']
        | _, _ => ['?']
      text ++ directives path node n rest
    | n + 1, c :: rest => c :: directives path node n rest

end Utility
end Shell
end FeatureLadder
