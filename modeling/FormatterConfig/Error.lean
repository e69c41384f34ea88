import FormatterConfig.File.Fault
import FormatterConfig.Fixity.Report
import FormatterConfig.Settings.Check
import FormatterConfig.Yaml.Fault

set_option autoImplicit false

/-! # Configuration errors

A configuration document that cannot be read, decoded or accepted. An error has a cause, and as far
as they are known the file and the line and column in it. A few faults have no place among them: a
scalar whose text does not convert, a decoder that breaks down, a value that nests too deep to be
shown, or a path that nothing can be asked about, breaks the reading off as it is. -/

namespace FormatterConfig

/-- Why a configuration is refused. -/
inductive ConfigError.Cause where
  | unreadable (path : Path) (fault : ReadFault)
  | document (text : List Char) (error : Yaml.Error)
  | notMapping (found : Value)
  | check (fault : CheckFault)
  | declaration (report : Report)
  | stated (message : String)

/-- The wording of a cause. -/
def ConfigError.Cause.message : ConfigError.Cause → String
  | .unreadable path fault => "Cannot read file: " ++ fault.message path
  | .document text error => error.message text
  | .notMapping found =>
    "Expected a mapping at the top level of the document, got " ++ found.kindName
  | .check fault => fault.message
  | .declaration report => report.pretty
  | .stated message => message

/-- A refused configuration. -/
structure ConfigError where
  cause : ConfigError.Cause
  path : Option Path
  line : Option Int
  column : Option Int

namespace ConfigError

/-- An error of unknown place. -/
def of (cause : Cause) : ConfigError := ⟨cause, none, none, none⟩

/-- The wording of the cause. -/
def message (e : ConfigError) : String := e.cause.message

/-- The error in a file. -/
def withPath (e : ConfigError) (path : Path) : ConfigError := { e with path := some path }

/-- The message behind the file, the line and the column, as far as they are known. Without a file
neither line nor column is shown, and without a line no column. -/
def text (e : ConfigError) : String :=
  match e.path with
  | none => e.message
  | some path =>
    let place :=
      match e.line, e.column with
      | none, _ => ""
      | some line, none => ":" ++ toString line
      | some line, some column => ":" ++ toString line ++ ":" ++ toString column
    path.text ++ place ++ ": " ++ e.message

end ConfigError

/-- What breaks the reading of a configuration off. -/
inductive Breakdown where
  | conversion (fault : ConversionFault)
  /-- A decoder that breaks down, or a message that does not come about. -/
  | crash (cause : Yaml.Crash)
  | path (error : PathError)
  /-- A path that holds the null character. -/
  | nullInPath
  /-- A home directory that is none. -/
  | noHome
  deriving DecidableEq

/-- The wording of a breakdown. -/
def Breakdown.message : Breakdown → String
  | .conversion fault => fault.message
  | .crash cause => cause.wording
  | .path error => error.message
  | .nullInPath => "embedded null byte"
  | .noHome => "Could not determine home directory."

/-- What reading a configuration can end with other than a result. -/
inductive Failure where
  | refused (error : ConfigError)
  | broken (breakdown : Breakdown)

/-- Changes the error of a refusal. -/
def Failure.mapError (f : ConfigError → ConfigError) : Failure → Failure
  | .refused e => .refused (f e)
  | .broken breakdown => .broken breakdown

end FormatterConfig
