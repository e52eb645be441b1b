import FeatureLadder.Text.Blank
import FeatureLadder.Text.Lines
import FeatureLadder.Text.Pieces
import FeatureLadder.Catalog
import FeatureLadder.Log.Noted
import FeatureLadder.Version.Read

/-!
# Manifests

**Input**: the text of a manifest.

**Algorithm**: everything up to and including the first line that holds the section
marker is skipped.  Each following line declares a version as long as the line as a
whole has the form of a version name; the name is what stands before the first equals
sign, without blanks around it.  The first line of another form ends the section.

`scanning` and `loading` give the versions with what is noted on the way; `scan` and
`load` are their results.
-/

namespace FeatureLadder
namespace Manifest

open Log (Entry Noted Span)

/-- The file that is read if no other is named. -/
def defaultPath : String := "Cargo.toml"

/-- The marker of the section that declares the versions. -/
def marker : String := "[features]"

/-- Whether a line opens the section. -/
def opensSection (line : List Char) : Bool :=
  Text.hasInfix marker.toList line

/-- The lines behind the first line that opens the section, if there is one. -/
def afterMarker : List (List Char) → Option (List (List Char))
  | [] => none
  | line :: rest => if opensSection line then some rest else afterMarker rest

/-- The name that a line declares. -/
def declaredName (line : List Char) : List Char :=
  Text.trim (line.takeWhile (· ≠ '='))

/-- The section of a manifest: the lines that declare versions, and the line that ends
it unless the text ends first. -/
structure Block where
  declarations : List (List Char)
  ending : Option (List Char)

/-- The section of a text, if there is one. -/
def block? (text : List Char) : Option Block :=
  (afterMarker (Text.lines text)).map fun lines =>
    { declarations := lines.takeWhile Version.isName
      ending := (lines.dropWhile Version.isName).head? }

def entry (message : String) : Entry where
  level := .debug
  source := "vtest_core::manifest"
  message := message

/-- Notes the line that ends the section, if there is one. -/
def noteEnding : Option (List Char) → Noted Unit
  | none => pure ()
  | some line =>
    .note (entry ("Feature section ends at line " ++ String.ofList (Text.quoted line)))

/-- Finds the versions that a manifest declares; a text without section declares none. -/
def scanning (text : List Char) : Noted Catalog :=
  match block? text with
  | none => do
    .note (entry ("No " ++ marker ++ " section found"))
    return {}
  | some s => do
    let versions ←
      .ofExcept (s.declarations.mapM fun line => Version.readChars (declaredName line))
    noteEnding s.ending
    .note (entry ("Found " ++ toString versions.length ++ " feature versions"))
    return ⟨versions⟩

/-- The versions that a manifest declares. -/
def scan (text : List Char) : Except Error Catalog :=
  (scanning text).result

def span (path : String) : Span where
  name := "list_available_features"
  source := "vtest_core::manifest"
  fields := [⟨"path", .shown (String.ofList (Text.quoted path.toList))⟩]

/-- Finds the versions that the manifest at a path declares, `file` being what reading
that path gives. -/
def loading (path : String) (file : Except Failure String) : Noted Catalog :=
  .within (span path)
    (match file with
    | .error cause => .ofExcept (.error (Error.ofRead path cause))
    | .ok text => scanning text.toList)

/-- The versions that the manifest at a path declares. -/
def load (path : String) (file : Except Failure String) : Except Error Catalog :=
  (loading path file).result

theorem scan_eq (text : List Char) :
    scan text =
      match block? text with
      | none => .ok {}
      | some s => do
        let versions ← s.declarations.mapM fun line => Version.readChars (declaredName line)
        return ⟨versions⟩ := by
  unfold scan scanning
  cases block? text with
  | none => rfl
  | some s =>
      have hending : (noteEnding s.ending).result = .ok () := by
        cases s.ending <;> rfl
      simp only [Noted.result_bind, Noted.result_ofExcept, hending]
      rfl

theorem load_ok_eq (path text : String) : load path (.ok text) = scan text.toList := rfl

theorem load_error_eq (path : String) (cause : Failure) :
    load path (.error cause) = .error (Error.ofRead path cause) := rfl

end Manifest

end FeatureLadder
