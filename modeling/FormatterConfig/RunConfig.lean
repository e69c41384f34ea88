import FormatterConfig.ConfigFile
import FormatterConfig.NameSet
import FormatterConfig.Region

set_option autoImplicit false

/-! # The configuration of a run

All that a run of the formatter needs. It is the caller's to begin with; a configuration file fills
in below the caller's overrides: a setting is the caller's, else the file's, else the one that was
there, and an operator keeps the fixity that was there and else has the file's. The region is given
in one of two forms, and nothing but a change of the region changes it. -/

namespace FormatterConfig

/-- The configuration of a run, by the form of its region. -/
structure RunConfig (ρ : Type) where
  parserOptions : List String
  fixities : FixityTable
  /-- The packages whose operators are in scope. -/
  dependencies : NameSet
  skipsSafetyCheck : Bool
  debugs : Bool
  checksIdempotence : Bool
  sourceKind : SourceKind
  colorMode : ColorMode
  region : ρ
  settings : TotalSettings

namespace RunConfig

variable {ρ σ : Type}

/-- The configuration that nothing was set in. -/
def default : RunConfig Region where
  parserOptions := []
  fixities := []
  dependencies := .empty
  skipsSafetyCheck := false
  debugs := false
  checksIdempotence := false
  sourceKind := .module
  colorMode := .auto
  region := .whole
  settings := .defaults

/-! ## Layers -/

/-- The configuration over a file and below a caller's overrides. -/
def layer (c : RunConfig ρ) (file : Option ConfigFile) (overrides : Option PartialSettings) :
    RunConfig ρ :=
  let fileSettings := (file.map ConfigFile.settings).getD .empty
  { c with
    settings := layerSettings (overrides.getD .empty) fileSettings c.settings
    fixities :=
      match file with
      | none => c.fixities
      | some f => FixityTable.overlay c.fixities f.fixities }

/-! ## Regions -/

/-- Changes the region, and its form. -/
def mapRegion (f : ρ → σ) (c : RunConfig ρ) : RunConfig σ :=
  { parserOptions := c.parserOptions
    fixities := c.fixities
    dependencies := c.dependencies
    skipsSafetyCheck := c.skipsSafetyCheck
    debugs := c.debugs
    checksIdempotence := c.checksIdempotence
    sourceKind := c.sourceKind
    colorMode := c.colorMode
    region := f c.region
    settings := c.settings }

/-- The region as margins in an input of `total` lines, whether it fits or not. -/
def convertRegion (c : RunConfig Region) (total : Int) : RunConfig Margins :=
  c.mapRegion (·.margins total)

/-- The region as margins in an input of `total` lines that it fits. -/
def withMargins (c : RunConfig Region) (total : Int) :
    Except RegionFailure (RunConfig Margins) :=
  (c.region.check total).map fun _ => c.convertRegion total

/-- `withMargins`, with a note of the margins. -/
def withMarginsLogged (c : RunConfig Region) (total : Int) :
    Logged RegionFailure (RunConfig Margins) := do
  Logged.ofExcept (c.region.check total)
  let m ← c.region.marginsLogged total
  return c.mapRegion fun _ => m

/-! ## Written form -/

/-- The forms of a region that have entries in a document. -/
class RegionForm (ρ : Type) where
  entries : ρ → Mapping

instance : RegionForm Region where
  entries r := [(.text "start", ((r.start.map Value.int).getD .null)),
    (.text "end", ((r.stop.map Value.int).getD .null))]

instance : RegionForm Margins where
  entries m := [(.text "prefix-lines", .int m.before), (.text "suffix-lines", .int m.after)]

/-- The configuration as the mapping of a document. -/
def entries [RegionForm ρ] (c : RunConfig ρ) : Except Declaration.Unwritable Mapping := do
  let declarations ← c.fixities.mapM fun (name, f) => Declaration.write name f
  return [
    (.text "dyn-options", .list (c.parserOptions.map Value.text)),
    (.text fixitiesKey, .list (declarations.map Value.text)),
    (.text "dependencies", .list (c.dependencies.names.map Value.text)),
    (.text "unsafe", .bool c.skipsSafetyCheck),
    (.text "debug", .bool c.debugs),
    (.text "check-idempotence", .bool c.checksIdempotence),
    (.text "source-type", .text (Choice.source c.sourceKind).tag),
    (.text "color-mode", .text (Choice.color c.colorMode).tag),
    (.text "region", .map (RegionForm.entries c.region)),
    (.text "printer-opts", .map c.settings.entries)]

/-! ## Equality -/

/-- Whether two configurations are equal; the order of the operators does not matter. -/
def same [DecidableEq ρ] (c d : RunConfig ρ) : Bool :=
  c.parserOptions == d.parserOptions && c.fixities.agrees d.fixities &&
    c.dependencies == d.dependencies && c.skipsSafetyCheck == d.skipsSafetyCheck &&
    c.debugs == d.debugs && c.checksIdempotence == d.checksIdempotence &&
    decide (c.sourceKind = d.sourceKind) && decide (c.colorMode = d.colorMode) &&
    decide (c.region = d.region) && c.settings.same d.settings

end RunConfig

end FormatterConfig
