import FeatureLadder.Shell.Machine

/-!
# How commands of the shell are called

Their options, and the numbers among their arguments.
-/

namespace FeatureLadder
namespace Shell

/-- The place of a name among those that are shown, where the table of names has some
number of buckets. -/
def bucket (size : Nat) (name : List Char) : Nat :=
  let start := (name.head?.map Char.toNat).getD 0 * 16
  name.foldl (fun n c => n + c.toNat) start % size

/-- An option of a command and its value. -/
structure Choice where
  letter : Char
  value : List Char := []

/-- The options in front of the arguments, given a bound on their number.  A letter with a
colon behind it in `known` takes a value. -/
def optionsOf (known : List Char) :
    Nat → List (List Char) → Action (List Choice × List (List Char))
  | 0, args => return ([], args)
  | n + 1, args => do
    match args with
    | ['-', '-'] :: rest => return ([], rest)
    | ('-' :: c :: more) :: rest =>
      let behind := (known.dropWhile (· ≠ c)).drop 1
      if c = ':' || !known.contains c then failText ("Illegal option -" ++ String.singleton c)
      else if behind.head? = some ':' then
        match more, rest with
        | [], value :: rest =>
          let (others, args) ← optionsOf known n rest
          return (⟨c, value⟩ :: others, args)
        | [], [] => failText ("No arg for -" ++ String.singleton c ++ " option")
        | _, _ =>
          let (others, args) ← optionsOf known n rest
          return (⟨c, more⟩ :: others, args)
      else
        let rest := if more.isEmpty then rest else ('-' :: more) :: rest
        let (others, args) ← optionsOf known n rest
        return (⟨c, []⟩ :: others, args)
    | _ => return ([], args)

/-- The options in front of the arguments, and the other arguments. -/
def options (known : String) (args : List (List Char)) :
    Action (List Choice × List (List Char)) :=
  optionsOf known.toList (args.flatten.length + 1) args

/-- Ends the command because an argument is no number. -/
def illegalNumber {α : Type} (text : List Char) : Action α :=
  fail (ofText "Illegal number: " ++ text)

/-- The number that an argument writes. -/
def number (text : List Char) : Action Nat :=
  match number? text with
  | some n => return n
  | none => illegalNumber text

/-- A text in quotes, as a script could hold it. -/
def quoted (text : List Char) : List Char :=
  go (text.length + 1) text
where
  /-- The text in quotes, given a bound on the number of its parts. -/
  go : Nat → List Char → List Char
    | 0, _ => []
    | n + 1, text =>
      let plain := text.takeWhile (· ≠ '\x27')
      let quotes := (text.drop plain.length).takeWhile (· = '\x27')
      let rest := text.drop (plain.length + quotes.length)
      let middle := if quotes.isEmpty then [] else ['"'] ++ quotes ++ ['"']
      ['\x27'] ++ plain ++ ['\x27'] ++ middle ++ if rest.isEmpty then [] else go n rest

end Shell
end FeatureLadder
