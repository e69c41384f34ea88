import FormatterConfig.Discovery
import FormatterConfig.RunConfig

set_option autoImplicit false

/-! # Loading the configuration of a run

The configuration of a run for a source file: its configuration file, if there is one, is found,
read and layered. A file that is there and invalid is an error, and neither the defaults nor a
farther file take its place. -/

namespace FormatterConfig.RunConfig

/-- The logger of the loading. -/
def loggerName : String := "fourmolu_config.config.model"

/-- Layers what the search for a configuration file ends in. -/
def layerOutcome (base : RunConfig Region) (overrides : Option PartialSettings) :
    Discovery.Outcome → Logged Failure (RunConfig Region)
  | .invalid _ error => do
    Logged.note .warning loggerName ("Invalid config file: " ++ error.text)
    Logged.fail (.refused error)
  | .notFound searched => do
    Logged.note .debug loggerName
      ("No config file found, using defaults. Searched: " ++
        ", ".intercalate (searched.map Path.text))
    return base.layer none overrides
  | .loaded path config => do
    Logged.note .info loggerName ("Loaded config from " ++ path.text)
    return base.layer (some config) overrides

/-- The configuration of a run for a start, over a base and below a caller's overrides. -/
def load (runtime : Runtime) (env : Environment) (fs : FileSystem) (start : Path)
    (base : RunConfig Region) (overrides : Option PartialSettings) :
    Logged Failure (RunConfig Region) := do
  let outcome ← (Discovery.load runtime env fs start).mapError Failure.broken
  layerOutcome base overrides outcome

end FormatterConfig.RunConfig
