import FeatureLadder.Error
import FeatureLadder.Version.Basic

/-!
# Reading version names

A text that is no version name is refused with an error that carries it unchanged.
-/

namespace FeatureLadder
namespace Version

/-- Reads a version name, or refuses it. -/
def readChars (name : List Char) : Except Error Version :=
  match ofChars? name with
  | some v => .ok v
  | none => .error (.invalidVersion (String.ofList name))

/-- Reads a version name, or refuses it. -/
def read (name : String) : Except Error Version :=
  readChars name.toList

@[simp] theorem readChars_chars (v : Version) : readChars v.chars = .ok v := by
  simp [readChars, ofChars?_chars]

theorem readChars_eq_ok_iff {s : List Char} {v : Version} :
    readChars s = .ok v ↔ s = v.chars := by
  rw [← ofChars?_eq_some_iff, readChars]
  split <;> simp_all

end Version
end FeatureLadder
