import FeatureLadder.Log.Level
import FeatureLadder.Options

/-!
# Arguments of the program

What a command line asks for, once it has been read.
-/

namespace FeatureLadder

/-- The form in which results are printed. -/
inductive OutputFormat where
  | text
  | json
  deriving DecidableEq

/-- The name of an output format. -/
def OutputFormat.name : OutputFormat → String
  | .text => "text"
  | .json => "json"

/-- The output format with a name. -/
def OutputFormat.ofName? (s : String) : Option OutputFormat :=
  [OutputFormat.text, .json].find? (·.name == s)

/-- The name of a catalog order. -/
def CatalogOrder.name : CatalogOrder → String
  | .manifest => "manifest"
  | .version => "version"

/-- The catalog order with a name. -/
def CatalogOrder.ofName? (s : String) : Option CatalogOrder :=
  [CatalogOrder.manifest, .version].find? (·.name == s)

/-- What a command line asks for. -/
structure Arguments where
  target : Option String := none
  manifestPath : String := Manifest.defaultPath
  tool : String := defaultTool
  allowUnlisted : Bool := false
  order : CatalogOrder := .manifest
  capture : Bool := false
  dryRun : Bool := false
  list : Bool := false
  output : OutputFormat := .text
  logFormat : Option Log.Format := none
  logLevel : Log.Level := .warn
  deriving DecidableEq

/-- The options of the run that the arguments ask for. -/
def Arguments.options (a : Arguments) : Options where
  manifestPath := a.manifestPath
  tool := a.tool
  rule :=
    { membership := if a.allowUnlisted then .permissive else .strict
      order := a.order }
  mode := if a.capture then .capture else .inherit

/-- Whether listing is asked for together with something that only a run can do. -/
def Arguments.contradictory (a : Arguments) : Bool :=
  a.list && (a.dryRun || a.capture || a.allowUnlisted)

end FeatureLadder
