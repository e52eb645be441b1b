import FeatureLadder.Shell.Builtin.Printing
import FeatureLadder.Shell.Lookup
import FeatureLadder.Shell.Utility.Files

/-!
# Utilities that run other programs

`env`, `xargs`, `find` and those that only change how a program runs.
-/

namespace FeatureLadder
namespace Shell
namespace Utility

/-- The program that a utility starts for a name, and its path. -/
def located (name : List Char) : Action (Except Failure (Node × List Char)) := do
  let t ← tree
  if name.contains '/' then return (programAt t name).map (·, name)
  let path := (← valueOfText? "PATH").getD barePath
  return startedProgram t name false .noSuchFile (Text.pieces ':' path)

/-- Runs a program in place of a utility. -/
def become (ev : Evaluator) (name : String) (fields : List (List Char)) : Action Nat := do
  let program := fields.headD []
  match ← located program with
  | .ok (node, path) => ev.launch node path fields
  | .error cause =>
    let quote := if name = "env" || name = "timeout" || name = "nohup" || name = "nice" then
      (if name = "timeout" || name = "nohup" then ofText "failed to run command " else []) ++
        inQuotes program
      else shown program
    complain name (quote ++ ofText (": " ++ cause.reason))
    return if cause = .noSuchFile then 127 else 126

/-- Runs a program in a process of its own. -/
def runCommand (ev : Evaluator) (name : String) (fields : List (List Char)) : Action Outcome :=
  inChild ev (become ev name fields)

/-! ## The environment -/

/-- Shows the environment, or runs a program in a changed one. -/
def env (ev : Evaluator) (args : List (List Char)) : Action Nat :=
  let words := [("ignore-environment", 'i'), ("unset", 'u'), ("null", '0'), ("chdir", 'C')]
  withOptions "env" { letters := "iu:0C:S:", words := words, inOrder := true } args
    (fun choices operands => do
      let isPlainDash := operands.head? = some ['-']
      let operands := if isPlainDash then operands.drop 1 else operands
      if has choices 'i' || isPlainDash then
        modifyProcess fun p => { p with bindings := [] }
      for c in choices do
        if c.letter = 'u' then dropVariable c.value
      let assignments := operands.takeWhile fun a => a.contains '=' && a.head? ≠ some '='
      let command := operands.drop assignments.length
      for a in assignments do
        let name := a.takeWhile (· ≠ '=')
        setVariable name { value := some (a.drop (name.length + 1)), exported := true }
      if command.isEmpty then
        for (name, value) in ← environment do
          emit (name ++ ['='] ++ value ++ if has choices '0' then [Char.ofNat 0] else ['\n'])
        return 0
      become ev "env" command)
    125

def printenv (args : List (List Char)) : Action Nat :=
  withOptions "printenv" { letters := "0", words := [("null", '0')], inOrder := true } args
    (fun _ operands => do
      let all ← environment
      if operands.isEmpty then
        emit (all.flatMap fun (name, value) => name ++ ['='] ++ value ++ ['\n'])
        return 0
      let mut fine := true
      for name in operands do
        match all.lookup name with
        | some value => emit (value ++ ['\n'])
        | none => fine := false
      return statusOf fine)
    2

def which (args : List (List Char)) : Action Nat := do
  let mut fine := !args.isEmpty
  for name in args.filter (· ≠ ['-', 'a']) do
    match ← findProgram name with
    | .program _ path => emit (path ++ ['\n'])
    | _ => fine := false
  return statusOf fine

/-! ## Many arguments -/

/-- The words of a text in which quotes and backslashes keep blanks, given a bound on their
number; none if a quote is not closed. -/
def quotedWords : Nat → List Char → Option (List (List Char))
  | 0, _ => some []
  | n + 1, cs =>
    match cs.dropWhile fun c => c == ' ' || c == '\t' || c == '\n' with
    | [] => some []
    | rest => do
      let (word, after) ← word true (rest.length + 1) rest
      return word :: (← quotedWords n after)
where
  /-- A word and what follows it; blanks may belong to it. -/
  word (blanksEnd : Bool) : Nat → List Char → Option (List Char × List Char)
    | 0, cs => some ([], cs)
    | _ + 1, [] => some ([], [])
    | n + 1, '\\' :: c :: rest => (word blanksEnd n rest).map fun (w, after) => (c :: w, after)
    | n + 1, c :: rest =>
      if blanksEnd && (c = ' ' || c = '\t' || c = '\n') then some ([], rest)
      else if c = '\x27' || c = '"' then
        let inner := rest.takeWhile (· ≠ c)
        if inner.length = rest.length then none
        else (word blanksEnd n (rest.drop (inner.length + 1))).map fun (w, after) => (inner ++ w, after)
      else (word blanksEnd n rest).map fun (w, after) => (c :: w, after)

/-- A text with a part replaced wherever it stands, given a bound on the number of places. -/
def replaceAll (part by' : List Char) : Nat → List Char → List Char
  | 0, cs => cs
  | _ + 1, [] => []
  | n + 1, c :: cs =>
    if part.isPrefixOf (c :: cs) && !part.isEmpty then
      by' ++ replaceAll part by' n ((c :: cs).drop part.length)
    else c :: replaceAll part by' n cs

/-- Groups of a greatest size. -/
def chunks {α : Type} (size : Nat) : Nat → List α → List (List α)
  | 0, _ => []
  | _ + 1, [] => []
  | n + 1, xs => xs.take size :: chunks size n (xs.drop size)

/-- Runs a program with arguments from the standard input. -/
def xargs (ev : Evaluator) (args : List (List Char)) : Action Nat :=
  let words := [("null", '0'), ("max-args", 'n'), ("replace", 'I'), ("no-run-if-empty", 'r'),
    ("verbose", 't'), ("delimiter", 'd'), ("max-lines", 'L'), ("max-procs", 'P')]
  withOptions "xargs" { letters := "0n:I:rtd:L:P:s:", words := words, inOrder := true } args
    fun choices operands => do
      let text ← match ← readFrom 0 with
        | .ok text => pure text
        | .error _ => pure []
      let command := if operands.isEmpty then [ofText "echo"] else operands
      let pieces (c : Char) : List (List Char) :=
        let all := Text.pieces c text
        if all.getLast? = some [] then all.dropLast else all
      let items :=
        if has choices '0' then some (pieces (Char.ofNat 0))
        else if let some mark := value? choices 'd' then
          some (pieces ((Printing.unescape (mark.length + 1) mark).1.headD '\n'))
        else if has choices 'I' then
          some ((linesOf text).map fun l =>
            let body := l.dropWhile fun c => c == ' ' || c == '\t'
            ((quotedWords.word false (body.length + 1) body).map (·.1)).getD body)
        else quotedWords (text.length + 1) text
      match items with
      | none =>
        complain "xargs" (ofText ("unmatched single quote; by default quotes are special to xargs " ++
          "unless you use the -0 option"))
        return 1
      | some items =>
        let null ← addStream (.device "null")
        let call (fields : List (List Char)) : Action Nat := do
          if has choices 't' then putError ([' '].intercalate (fields.map shown) ++ ['\n'])
          let program := fields.headD []
          match ← located program with
          | .error cause =>
            complain "xargs" (shown program ++ ofText (": " ++ cause.reason))
            return if cause = .noSuchFile then 127 else 126
          | .ok (node, path) =>
            let outcome ← inChild ev (ev.launch node path fields) (·.lead 0 null)
            match outcome with
            | .exited n => return if n = 255 then 124 else if n = 0 then 0 else 123
            | .signaled _ => return 125
        let lines := (value? choices 'L').bind digits?
        let calls : List (List (List Char)) :=
          match value? choices 'I' with
          | some mark =>
            items.filter (!·.isEmpty) |>.map fun item =>
              command.map fun w => replaceAll mark item (w.length + 1) w
          | none =>
            if items.isEmpty then (if has choices 'r' then [] else [command])
            else
              match (value? choices 'n').bind digits? <|> lines with
              | some n =>
                let groups :=
                  if lines.isSome then
                    (chunks (max 1 n) (text.length + 1) (linesOf text)).map fun ls =>
                      (quotedWords (text.length + 1) (unlines ls)).getD []
                  else chunks (max 1 n) (items.length + 1) items
                groups.map (command ++ ·)
              | none => [command ++ items]
        let mut status := 0
        for fields in calls do
          let n ← call fields
          if n = 124 || n = 125 || n = 126 || n = 127 then return n
          if n ≠ 0 then status := n
        return status

/-! ## Finding files -/

/-- What is asked about a file, or done with it. -/
inductive Test where
  | always
  | name (anyCase : Bool) (pattern : List Char)
  | path (pattern : List Char)
  | kind (letters : List Char)
  | empty
  | size (sign : Option Char) (bytes : Nat)
  | executable
  | print (ending : Char)
  | delete
  | prune
  | quit
  | exec (command : List (List Char)) (together : Bool)
  | negation (t : Test)
  | both (a b : Test)
  | either (a b : Test)

/-- Whether a test does something that can be seen. -/
def Test.acts : Test → Bool
  | .print _ | .delete | .exec .. | .quit => true
  | .negation t => t.acts
  | .both a b | .either a b => a.acts || b.acts
  | _ => false

mutual

/-- Alternatives of tests. -/
def testAlternatives : Nat → List (List Char) → Except (List Char) (Test × List (List Char))
  | 0, _ => .error (ofText "expression too long")
  | n + 1, args => do
    let (first, rest) ← testSequence n args
    match rest with
    | a :: more =>
      if ["-o", "-or"].contains (toText a) then
        let (second, rest) ← testAlternatives n more
        return (.either first second, rest)
      else return (first, rest)
    | [] => return (first, [])

/-- Tests that all have to hold. -/
def testSequence : Nat → List (List Char) → Except (List Char) (Test × List (List Char))
  | 0, _ => .error (ofText "expression too long")
  | n + 1, args => do
    let (first, rest) ← singleTest n args
    match rest with
    | [] => return (first, [])
    | a :: more =>
      let s := toText a
      if s = ")" || s = "-o" || s = "-or" then return (first, rest)
      else
        let (second, rest) ← testSequence n (if s = "-a" || s = "-and" then more else rest)
        return (.both first second, rest)

def singleTest : Nat → List (List Char) → Except (List Char) (Test × List (List Char))
  | 0, _ => .error (ofText "expression too long")
  | n + 1, args => do
    match args with
    | [] => return (.always, [])
    | a :: rest =>
      let value : Except (List Char) (List Char × List (List Char)) :=
        match rest with
        | v :: more => .ok (v, more)
        | [] => .error (ofText "missing argument to " ++ ['\x60'] ++ a ++ ['\x27'])
      match toText a with
      | "(" =>
        let (inner, rest) ← testAlternatives n rest
        match rest with
        | [')'] :: more => return (inner, more)
        | _ => .error (ofText "invalid expression; I was expecting to find a ')' somewhere but did not see one.")
      | "!" | "-not" =>
        let (inner, rest) ← singleTest n rest
        return (.negation inner, rest)
      | "-name" => let (v, rest) ← value; return (.name false v, rest)
      | "-iname" => let (v, rest) ← value; return (.name true v, rest)
      | "-path" | "-wholename" => let (v, rest) ← value; return (.path v, rest)
      | "-type" => let (v, rest) ← value; return (.kind v, rest)
      | "-size" =>
        let (v, rest) ← value
        let (sign, digits) : Option Char × List Char :=
          match v with
          | '+' :: ds => (some '+', ds)
          | '-' :: ds => (some '-', ds)
          | ds => (none, ds)
        let number := (digits? (digits.takeWhile Char.isDigit)).getD 0
        return (.size sign number, rest)
      | "-maxdepth" | "-mindepth" => let (_, rest) ← value; return (.always, rest)
      | "-empty" => return (.empty, rest)
      | "-executable" => return (.executable, rest)
      | "-print" => return (.print '\n', rest)
      | "-print0" => return (.print (Char.ofNat 0), rest)
      | "-delete" => return (.delete, rest)
      | "-prune" => return (.prune, rest)
      | "-quit" => return (.quit, rest)
      | "-true" | "-depth" | "-xdev" => return (.always, rest)
      | "-false" => return (.negation .always, rest)
      | "-exec" =>
        let isEnd (w : List Char) : Bool := w = [';'] || w = ['+']
        let command := rest.takeWhile (!isEnd ·)
        match rest.drop command.length with
        | ending :: more => return (.exec command (ending = ['+']), more)
        | [] => .error (ofText "missing argument to " ++ ['\x60'] ++ a ++ ['\x27'])
      | _ =>
        if a.head? = some '-' then
          .error (ofText "unknown predicate " ++ ['\x60'] ++ a ++ ['\x27'])
        else .error (ofText "paths must precede expression: " ++ ['\x60'] ++ a ++ ['\x27'])

end

/-- What has come of a search so far. -/
structure Harvest where
  pruned : Bool := false
  ended : Bool := false
  fine : Bool := true
  /-- the paths for a command that takes them all together -/
  together : List (List Char) := []

/-- Whether a test holds of a file; what it does is done. -/
def Test.holds (ev : Evaluator) (path : List Char) (node : Node) :
    Test → Harvest → Action (Bool × Harvest)
  | .always, h => return (true, h)
  | .name anyCase pattern, h =>
    let fold (cs : List Char) : List Char := if anyCase then cs.map Char.toLower else cs
    return (Pattern.accepts (Glyph.ofChars false (fold pattern)) (fold (lastName path)), h)
  | .path pattern, h => return (Pattern.accepts (Glyph.ofChars false pattern) path, h)
  | .kind letters, h =>
    let letter := match node with
      | .directory _ => 'd'
      | .link _ => 'l'
      | .device _ => 'c'
      | _ => 'f'
    return (letters.contains letter, h)
  | .empty, h =>
    return (match node with
      | .file [] _ | .directory [] => true
      | _ => false, h)
  | .size sign n, h =>
    let actual := (sizeOf node + 511) / 512
    return (match sign with
      | some '+' => n < actual
      | some _ => actual < n
      | none => actual == n, h)
  | .executable, h =>
    return (match node with
      | .file _ e => e
      | .directory _ | .program _ => true
      | _ => false, h)
  | .print ending, h => do
    emit (path ++ [ending])
    return (true, h)
  | .delete, h => do
    match ← nodeAt? path false with
    | .ok (.directory (_ :: _)) =>
      complain "find" (ofText "cannot delete " ++ inQuotes path ++ ofText ": Directory not empty")
      return (false, { h with fine := false })
    | _ =>
      eraseAtPath path
      return (true, h)
  | .prune, h => return (true, { h with pruned := true })
  | .quit, h => return (true, { h with ended := true })
  | .exec command together, h => do
    if together then return (true, { h with together := h.together ++ [path] })
    let fields := command.map fun w => replaceAll ['\x7b', '\x7d'] path (w.length + 1) w
    let outcome ← runCommand ev "find" fields
    return (outcome.status == 0, h)
  | .negation t, h => do
    let (b, h) ← t.holds ev path node h
    return (!b, h)
  | .both a b, h => do
    let (first, h) ← a.holds ev path node h
    if first then b.holds ev path node h else return (false, h)
  | .either a b, h => do
    let (first, h) ← a.holds ev path node h
    if first then return (true, h) else b.holds ev path node h

/-- Walks a tree, given a bound on the number of its nodes in a row.  The list holds what is
still to be visited with its depth; `late` asks for directories behind what they hold. -/
def walkTree (ev : Evaluator) (test : Test) (least most : Nat) (late : Bool) :
    Nat → List (Nat × List Char × Bool) → Harvest → Action Harvest
  | 0, _, h => return h
  | _ + 1, [], h => return h
  | n + 1, (depth, path, visited) :: rest, h => do
    if h.ended then return h
    match ← nodeAt? path false with
    | .error _ => walkTree ev test least most late n rest h
    | .ok node =>
      let inner : List (Nat × List Char × Bool) :=
        match node with
        | .directory entries =>
          if most ≤ depth then []
          else entries.map fun e => (depth + 1, below path (ofText e.1), false)
        | _ => []
      if late && !visited && node.isDirectory then
        walkTree ev test least most late n (inner ++ (depth, path, true) :: rest) h
      else
        let (_, h) ← if least ≤ depth then test.holds ev path node { h with pruned := false }
          else pure (true, { h with pruned := false })
        let next := if late || h.pruned then rest else inner ++ rest
        walkTree ev test least most late n next h

/-- The command of a test that takes all paths together. -/
def Test.together? : Test → Option (List (List Char))
  | .exec command true => some command
  | .negation t => t.together?
  | .both a b | .either a b => a.together? <|> b.together?
  | _ => none

/-- Whether a test removes files. -/
def Test.deletes : Test → Bool
  | .delete => true
  | .negation t => t.deletes
  | .both a b | .either a b => a.deletes || b.deletes
  | _ => false

def find (ev : Evaluator) (args : List (List Char)) : Action Nat := do
  let isTest (a : List Char) : Bool :=
    (a.head? = some '-' && 1 < a.length) || a = ['('] || a = ['!']
  let paths := args.takeWhile (!isTest ·)
  let rest := args.drop paths.length
  let bound (word : String) : Option Nat :=
    match rest.dropWhile (· ≠ word.toList) with
    | _ :: v :: _ => digits? v
    | _ => none
  match testAlternatives (8 * rest.length + 8) rest with
  | .error text =>
    complain "find" text
    return 1
  | .ok (test, left) =>
    if let a :: _ := left then
      complain "find" (ofText "paths must precede expression: " ++ ['\x60'] ++ a ++ ['\x27'])
      return 1
    let test := if test.acts then test else .both test (.print '\n')
    let late := test.deletes || rest.contains "-depth".toList
    let mut harvest : Harvest := {}
    for path in if paths.isEmpty then [['.']] else paths do
      match ← nodeAt? path false with
      | .error e =>
        complain "find" (inQuotes path ++ ofText (": " ++ e.reason))
        harvest := { harvest with fine := false }
      | .ok _ =>
        harvest ← walkTree ev test ((bound "-mindepth").getD 0) ((bound "-maxdepth").getD 1000)
          late 100000 [(0, path, false)] harvest
    if let some command := test.together? then
      if !harvest.together.isEmpty then
        let fields := command.flatMap fun w =>
          if w = ['\x7b', '\x7d'] then harvest.together else [w]
        let outcome ← runCommand ev "find" fields
        if outcome.status ≠ 0 then harvest := { harvest with fine := false }
    return statusOf harvest.fine

/-! ## How programs run -/

/-- The length in microseconds of a time that an argument gives. -/
def duration? (text : List Char) : Option Nat :=
  let whole := text.takeWhile Char.isDigit
  let (fraction, unit) :=
    match text.drop whole.length with
    | '.' :: rest => (rest.takeWhile Char.isDigit, rest.dropWhile Char.isDigit)
    | rest => ([], rest)
  let digits := whole ++ (fraction ++ List.replicate 6 '0').take 6
  let factor? :=
    match unit with
    | [] | ['s'] => some 1
    | ['m'] => some 60
    | ['h'] => some 3600
    | ['d'] => some 86400
    | _ => none
  if whole.isEmpty && fraction.isEmpty then none
  else factor?.map (· * Arithmetic.ofDigits 10 digits)

/-- Runs a program with a limit on its time, which only a pause can reach. -/
def timeout (ev : Evaluator) (args : List (List Char)) : Action Nat :=
  let words := [("signal", 's'), ("kill-after", 'k'), ("preserve-status", 'p'), ("foreground", 'f')]
  withOptions "timeout" { letters := "s:k:pfv", words := words, inOrder := true } args
    (fun _ operands => do
      match operands with
      | [] | [_] =>
        hint "timeout"
        return 125
      | limit :: command =>
        match duration? limit with
        | none => refuse "timeout" 125 (ofText "invalid time interval " ++ inQuotes limit)
        | some limit =>
          let pauses := command.head? = some "sleep".toList
          let asked := ((command.drop 1).filterMap duration?).foldl (· + ·) 0
          if pauses && 0 < limit && limit < asked then return 124
          let outcome ← runCommand ev "timeout" command
          return outcome.status)
    125

/-- Runs a program after options that do not change what it does. -/
def plainly (ev : Evaluator) (name : String) (letters : String) (args : List (List Char)) :
    Action Nat :=
  withOptions name { letters := letters, inOrder := true } args
    (fun _ operands => do
      if operands.isEmpty then refuse name 125 (ofText "missing operand")
      else become ev name operands)
    125

/-- Shows how much a program gives way to others, or runs one that gives way more. -/
def nice (ev : Evaluator) (args : List (List Char)) : Action Nat := do
  if args.isEmpty then
    emit ['0', '\n']
    return 0
  plainly ev "nice" "n:" args

/-- Runs a program in a session of its own. -/
def setsid (ev : Evaluator) (args : List (List Char)) : Action Nat :=
  withOptions "setsid" { letters := "cfw", inOrder := true } args fun _ operands => do
    if operands.isEmpty then refuse "setsid" 1 (ofText "no command specified")
    else become ev "setsid" operands

/-- Pauses, while commands in the background run. -/
def sleep (ev : Evaluator) (args : List (List Char)) : Action Nat :=
  withOptions "sleep" { letters := "" } args fun _ operands => do
    if operands.isEmpty then return ← refuse "sleep" 1 (ofText "missing operand")
    let bad := operands.filter fun a => (duration? a).isNone
    if !bad.isEmpty then
      for a in bad do
        complain "sleep" (ofText "invalid time interval " ++ inQuotes a)
      hint "sleep"
      return 1
    if (operands.filterMap duration?).all (· == 0) then return 0
    if (← get).hurried then throw .paused
    runJobs ev none jobLimit
    return 0

end Utility
end Shell
end FeatureLadder
