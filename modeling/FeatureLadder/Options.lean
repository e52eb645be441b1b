import FeatureLadder.Manifest
import FeatureLadder.Path
import FeatureLadder.Selection.Basic

/-!
# Options of a run
-/

namespace FeatureLadder

/-- Where the output of the tests goes. -/
inductive OutputMode where
  /-- to the output of the program itself -/
  | inherit
  /-- into the result of the run -/
  | capture
  deriving DecidableEq

/-- The build tool that is called if no other is named. -/
def defaultTool : String := "cargo"

/-- What a run is made with. -/
structure Options where
  manifestPath : String := Manifest.defaultPath
  tool : String := defaultTool
  rule : SelectionRule := {}
  mode : OutputMode := .inherit
  deriving DecidableEq

/-- The directory that holds the manifest; none if it is the current one. -/
def Options.workingDir (o : Options) : Option String :=
  Path.parent? o.manifestPath

end FeatureLadder
