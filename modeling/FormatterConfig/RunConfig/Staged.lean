import FormatterConfig.RunConfig

set_option autoImplicit false

/-! # A configuration at either stage

The region of a run is given by its bounds until the length of the input is known, and by margins
from then on. What needs bounds is refused once they are gone; everything else works at either
stage. -/

namespace FormatterConfig

/-- A configuration whose region has one form or the other. -/
inductive StagedConfig where
  | bounded (c : RunConfig Region)
  | marginal (c : RunConfig Margins)

/-- Why a region does not become margins. -/
inductive StageFault where
  | region (failure : RegionFailure)
  | noBounds

namespace StagedConfig

/-- The configuration over a file and below a caller's overrides. -/
def layer (c : StagedConfig) (file : Option ConfigFile) (overrides : Option PartialSettings) :
    StagedConfig :=
  match c with
  | .bounded c => .bounded (c.layer file overrides)
  | .marginal c => .marginal (c.layer file overrides)

/-- The configuration with other bounds. -/
def setRegion (c : StagedConfig) (r : Region) : StagedConfig :=
  match c with
  | .bounded c => .bounded (c.mapRegion fun _ => r)
  | .marginal c => .bounded (c.mapRegion fun _ => r)

/-- The region as margins in an input of `total` lines that it fits, with a note of them. -/
def withMargins (c : StagedConfig) (total : Int) : Logged StageFault StagedConfig :=
  match c with
  | .bounded c => do return .marginal (← (c.withMarginsLogged total).mapError .region)
  | .marginal _ => Logged.fail .noBounds

/-- The region as margins in an input of `total` lines, whether it fits or not, with a note of
them. -/
def convertRegion (c : StagedConfig) (total : Int) : Logged StageFault StagedConfig :=
  match c with
  | .bounded c => do
    let m ← c.region.marginsLogged total
    return .marginal (c.mapRegion fun _ => m)
  | .marginal _ => Logged.fail .noBounds

/-- The configuration as the mapping of a document. -/
def entries : StagedConfig → Except Declaration.Unwritable Mapping
  | .bounded c => c.entries
  | .marginal c => c.entries

/-- Whether two configurations are at one stage and equal. -/
def same : StagedConfig → StagedConfig → Bool
  | .bounded c, .bounded d => c.same d
  | .marginal c, .marginal d => c.same d
  | _, _ => false

end StagedConfig

end FormatterConfig
