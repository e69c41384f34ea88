import FormatterConfig.Error
import FormatterConfig.Log.Record
import FormatterConfig.Settings.Basic
import FormatterConfig.Value.Plain

set_option autoImplicit false

/-! # Reading settings

A source of settings is a mapping and a rule that says under which key a setting is found: a
document uses the keys of the settings, a caller their names. All settings are read, in their order,
and the first value that is refused refuses the source. Entries under other keys do not matter. -/

namespace FormatterConfig

/-! ## Refusals -/

/-- The logger of the checks. -/
def checkLogger : String := "fourmolu_config.config.io.getters"

/-- What a refused value ends in: the refusal, with a note of it. A refusal that would show an
integer too long to be written out cannot be worded, and breaks the reading off. -/
def CheckFault.raise {α : Type} (fault : CheckFault) : Logged Failure α :=
  if fault.isUnwritable then Logged.fail (.broken (.conversion .longInteger))
  else do
    Logged.note .debug checkLogger fault.message
    Logged.fail (.refused (.of (.check fault)))

/-- The outcome of a check, with a note of a refusal. -/
def settle {α : Type} : Except CheckFault α → Logged Failure α
  | .ok a => pure a
  | .error fault => fault.raise

/-! ## Sources -/

/-- A mapping that settings are read from. -/
structure SettingSource where
  table : Mapping
  keyOf : Setting → String
  /-- What messages show in front of a key. -/
  scope : String

namespace SettingSource

/-- The settings of a document. -/
def ofDocument (table : Mapping) (scope : String) : SettingSource := ⟨table, Setting.key, scope⟩

/-- The settings that a caller passes. -/
def ofArguments (table : Mapping) : SettingSource := ⟨table, Setting.name, "args"⟩

/-- The value that a source gives a setting. -/
def get (source : SettingSource) (s : Setting) : Except CheckFault (Option Value) :=
  let place : Place := ⟨source.scope, source.keyOf s, none⟩
  match s.kind with
  | .integer minimum => (checkInteger minimum source.table place).map (Option.map Value.int)
  | .truth => (checkTruth source.table place).map (Option.map Value.bool)
  | .choice kind => (checkChoice kind source.table place).map (Option.map Value.choice)

/-- The refusal of a setting's value. -/
def refusal? (source : SettingSource) (s : Setting) : Option CheckFault :=
  match source.get s with
  | .ok _ => none
  | .error fault => some fault

/-- The value that a source gives a setting, if it is accepted. -/
def accepted? (source : SettingSource) (s : Setting) : Option Value :=
  match source.get s with
  | .ok value => value
  | .error _ => none

/-- The settings of a source, or the first refusal in the order of the settings. -/
def read (source : SettingSource) : Except CheckFault PartialSettings :=
  match Setting.all.findSome? source.refusal? with
  | none => .ok source.accepted?
  | some fault => .error fault

end SettingSource

namespace PartialSettings

/-- The settings of a document's mapping. -/
def ofDocument (table : Mapping) (scope : String) : Logged Failure PartialSettings :=
  settle (SettingSource.ofDocument table scope).read

/-- The logger of the settings. -/
def loggerName : String := "fourmolu_config.config.printer_opts"

/-- Writes a record that shows settings. One that would show an integer too long to be written out
is lost, and is no error of whoever writes it. -/
def note (p : PartialSettings) (level : Log.Level) (logger message : String) :
    Logged Failure Unit :=
  if (Value.map p.entries).hasLongInteger then pure () else Logged.note level logger message

@[simp] theorem outcome_note (p : PartialSettings) (level : Log.Level) (logger message : String) :
    (p.note level logger message).outcome = .ok () := by
  unfold note
  split <;> rfl

/-- The settings that a caller passes, and a note of them. -/
def ofArguments (table : Mapping) : Logged Failure PartialSettings := do
  let settings ← settle (SettingSource.ofArguments table).read
  settings.note .debug loggerName
    ("Printer option overrides from arguments: " ++ (Value.map settings.entries).display)
  return settings

/-- How a message shows the settings that a source gives. -/
def display (p : PartialSettings) : String :=
  "PrinterOptsPartial(" ++
    ", ".intercalate (Setting.all.map fun s => s.name ++ "=" ++ ((p s).getD .null).display) ++ ")"

end PartialSettings

end FormatterConfig
