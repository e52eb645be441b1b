import FeatureLadder.Shell.Calling

/-!
# Commands on the current directory and on permissions

`cd` and `pwd` keep the directory as the user wrote it, links and all; the option `P`
asks for the directory that it leads to.  `umask` sets the permissions that new files
lack.
-/

namespace FeatureLadder
namespace Shell
namespace Directory

/-- A location as a path. -/
def pathOf (location : List String) : List Char :=
  if location.isEmpty then ['/'] else location.flatMap fun name => '/' :: ofText name

/-- A path that ends with a slash without the name at its end.  What stands before `least`
characters stays. -/
def above (least : Nat) (path : List Char) : List Char :=
  if path.length ≤ least then path
  else (path.dropLast.reverse.dropWhile (· ≠ '/')).reverse

/-- The path that leads on from a directory along another path, as both are written: single
dots are taken away, and two dots with the name before them.  Two slashes at the start
stay, but not more. -/
def along (directory path : List Char) : List Char :=
  let start :=
    match path with
    | '/' :: '/' :: '/' :: _ => ['/']
    | '/' :: '/' :: _ => ['/', '/']
    | '/' :: _ => ['/']
    | _ => if directory.getLast? = some '/' then directory else directory ++ ['/']
  let least := if start.take 2 = ['/', '/'] then 2 else 1
  let whole := (Text.pieces '/' path).foldl
    (fun found piece =>
      if piece.isEmpty || piece = ['.'] then found
      else if piece = ['.', '.'] then above least found
      else found ++ piece ++ ['/'])
    start
  if least < whole.length then whole.dropLast else whole

/-- The current directory as the user wrote it. -/
def written : Action (List Char) :=
  return (← process).directory

/-- The path of the current directory that a shell starts with: the one that it is told, if
that leads there from the root, or else the directory's own. -/
def starting (t : FileTree) (told : List Char) : List Char :=
  match told, t.locate (toText told) with
  | '/' :: _, .ok location => if location = t.here then told else pathOf t.here
  | _, _ => pathOf t.here

/-- Changes the current directory, if there is such a directory. -/
def enter (physical : Bool) (path : List Char) : Action Bool := do
  let t ← tree
  let before ← written
  let logical := along before path
  let target := if path.isEmpty then ['.'] else if physical then path else logical
  match t.locate (toText target) with
  | .error _ => return false
  | .ok location =>
    match t.root.get? location with
    | some (.directory _) =>
      let known := (← process).known.map fun (name, path, _) => (name, path, true)
      let after := if physical then pathOf location else logical
      modifyProcess fun p => { p with here := location, known := known }
      assign "OLDPWD".toList before true
      modifyProcess fun p => { p with directory := after }
      assign "PWD".toList after true
      return true
    | _ => return false

/-- The pieces of a list with colons between them. -/
def colonPieces (cs : List Char) : List (List Char) :=
  Text.pieces ':' cs

/-- Tries to enter a directory below each of some others. -/
def enterBelow (physical : Bool) (name : List Char) : List (List Char) → Action (Option Bool)
  | [] => return none
  | start :: more => do
    let path := if start.isEmpty then name else start ++ ['/'] ++ name
    if ← enter physical path then return some (!start.isEmpty)
    else enterBelow physical name more

/-- Whether a path leads on from the current directory, whatever other directories are
searched. -/
def isAnchored (path : List Char) : Bool :=
  match path with
  | '/' :: _ | ['.'] | '.' :: '/' :: _ | ['.', '.'] | '.' :: '.' :: '/' :: _ => true
  | _ => false

def cd (args : List (List Char)) : Action Nat := do
  let (chosen, args) ← options "LP" args
  let physical := chosen.getLast?.any (·.letter == 'P')
  let (path, shown) ←
    match args with
    | [] => pure ((← valueOfText? "HOME").getD [], false)
    | ['-'] :: _ => pure ((← valueOfText? "OLDPWD").getD [], true)
    | path :: _ => pure (path, false)
  let searched := colonPieces ((← valueOfText? "CDPATH").getD [])
  let searched := if isAnchored path then [] else searched.filter (!·.isEmpty)
  let found ← enterBelow physical path (searched ++ [[]])
  match found with
  | none => fail (ofText "can't cd to " ++ path)
  | some elsewhere =>
    if shown || elsewhere then put ((← written) ++ ['\n'])
    return 0

def pwd (args : List (List Char)) : Action Nat := do
  let (chosen, _) ← options "LP" args
  let physical := chosen.getLast?.any (·.letter == 'P')
  let path ← if physical then pure (pathOf (← process).here) else written
  put (path ++ ['\n'])
  return 0

/-! ## Permissions -/

/-- A number in at least some octal digits. -/
def octalText (least n : Nat) : List Char :=
  let digits := Nat.toDigits 8 n
  List.replicate (least - digits.length) '0' ++ digits

/-- Three permissions as letters. -/
def letters (n : Nat) : List Char :=
  [(4, 'r'), (2, 'w'), (1, 'x')].filterMap fun (bit, c) => if n / bit % 2 = 1 then some c else none

/-- The permissions that letters stand for, or none if one is unknown. -/
def bits? : List Char → Option Nat
  | [] => some 0
  | c :: cs => do
    let rest ← bits? cs
    match c with
    | 'r' => some (rest ||| 4)
    | 'w' => some (rest ||| 2)
    | 'x' | 'X' => some (rest ||| 1)
    | 's' | 't' => some rest
    | _ => none

/-- Permissions changed by a clause such as `u+rw`. -/
def applyClause (permissions : Nat) (clause : List Char) : Option Nat :=
  let who := clause.takeWhile fun c => "ugoa".toList.contains c
  match clause.drop who.length with
  | [] => none
  | op :: rest => do
    let value ← bits? rest
    let all := who.isEmpty || who.contains 'a'
    let part (c : Char) (shift : Nat) : Nat := if all || who.contains c then value <<< shift else 0
    let mask := part 'u' 6 ||| part 'g' 3 ||| part 'o' 0
    let affected :=
      let full (c : Char) (shift : Nat) : Nat := if all || who.contains c then 7 <<< shift else 0
      full 'u' 6 ||| full 'g' 3 ||| full 'o' 0
    match op with
    | '+' => some (permissions ||| mask)
    | '-' => some (permissions - (permissions &&& mask))
    | '=' => some ((permissions - (permissions &&& affected)) ||| mask)
    | _ => none

/-- Permissions changed by clauses with commas between them. -/
def applyMode (permissions : Nat) (mode : List Char) : Option Nat :=
  (Text.pieces ',' mode).foldlM applyClause permissions

/-- Shows or sets the permissions that new files lack. -/
def umask (args : List (List Char)) : Action Nat := do
  let (chosen, args) ← options "S" args
  let mask := (← process).mask
  match args with
  | [] =>
    let granted := 0x1FF - mask
    if chosen.isEmpty then put (octalText 4 mask ++ ['\n'])
    else
      put (['u', '='] ++ letters (granted / 64) ++ [',', 'g', '='] ++ letters (granted / 8 % 8) ++
        [',', 'o', '='] ++ letters (granted % 8) ++ ['\n'])
  | mode :: _ =>
    if mode.head?.any Char.isDigit then
      if mode.all fun c => '0' ≤ c && c ≤ '7' then
        let n := mode.foldl (fun n c => 8 * n + (c.toNat - 0x30)) 0
        modifyProcess fun p => { p with mask := n % 0x200 }
      else illegalNumber mode
    else
      match applyMode (0x1FF - mask) mode with
      | some granted => modifyProcess fun p => { p with mask := 0x1FF - granted }
      | none => fail (ofText "Illegal mode: " ++ mode)
  return 0

end Directory
end Shell
end FeatureLadder
