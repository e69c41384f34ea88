import FormatterConfig.Log.Format
import FormatterConfig.Text.Blank
import FormatterConfig.Text.LetterCase
import FormatterConfig.Text.Numeric
import FormatterConfig.Value.Conversion

set_option autoImplicit false

/-! # Setting up the log

The log has a threshold and handlers, which write the records that pass. A set-up finds the level,
which is the caller's, else the one that the environment names, else the highest. Then it sets the
threshold, takes the handlers away one by one and adds one whose format depends on the level. -/

namespace FormatterConfig.Log

/-- The environment variable that names a level. -/
def levelVariable : String := "FOURMOLU_LOG_LEVEL"

/-- The names of levels. -/
def namedLevels : List (String × Level) :=
  [("TRACE", .trace), ("DEBUG", .debug), ("INFO", .info), ("WARNING", .warning),
    ("WARN", .warning), ("ERROR", .error), ("CRITICAL", .critical), ("FATAL", .critical),
    ("NOTSET", 0)]

/-- The level that a value of the environment variable names, by number or by name, in any case of
letters and with white space around it. A run of digits that is no decimal number is an error. -/
def environmentLevel (value : Option String) : Except ConversionFault (Option Level) :=
  match value with
  | none => .ok none
  | some text =>
    let word := Text.upperCase (Text.trimBlanks text.toList)
    if !word.isEmpty && word.all Text.isDigit then
      match Decimal.readInteger 10 word with
      | .ok n => .ok (some n)
      | .error fault => .error (.ofNumeral 10 (String.ofList word) fault)
    else .ok ((namedLevels.find? (·.1 == String.ofList word)).map (·.2))

/-- A log. -/
structure Logging where
  threshold : Level
  handlers : List Format
  deriving DecidableEq

namespace Logging

/-- A log that nothing was set up for. -/
def initial : Logging := ⟨.critical, []⟩

/-- The format of a log with a threshold. -/
def formatFor (threshold : Level) : Format := if threshold ≥ .info then .plain else .detailed

/-- The level of a set-up without one: the environment's unless it is zero, else the highest. -/
def levelOfEnvironment (value : Option String) : Except ConversionFault Level :=
  (environmentLevel value).map fun level? =>
    match level? with
    | some level => if level = 0 then .critical else level
    | none => .critical

/-- The level of a set-up: the caller's, else that of the environment. -/
def levelOfSetUp (value : Option String) (level? : Option Level) : Except ConversionFault Level :=
  match level? with
  | some level => .ok level
  | none => levelOfEnvironment value

/-- A change of a log. What was changed before an error stays changed. -/
abbrev Change := EStateM ConversionFault Logging

/-- Sets the threshold. -/
def setThreshold (level : Level) : Change Unit := modify fun log => { log with threshold := level }

/-- Takes one handler of a format away. -/
def removeHandler (f : Format) : Change Unit :=
  modify fun log => { log with handlers := log.handlers.erase f }

/-- Takes handlers away one after the other. -/
def removeHandlers : List Format → Change Unit
  | [] => pure ()
  | f :: rest => do
    removeHandler f
    removeHandlers rest

/-- Adds a handler behind those that are there. -/
def addHandler (f : Format) : Change Unit :=
  modify fun log => { log with handlers := log.handlers ++ [f] }

/-- Sets the log up, at a level or by the environment. The handlers to take away are those that are
there at the start. -/
def setUp (value : Option String) (level? : Option Level) : Change Unit := do
  let level ←
    match levelOfSetUp value level? with
    | .ok level => pure level
    | .error fault => throw fault
  setThreshold level
  removeHandlers (← get).handlers
  addHandler (formatFor level)

/-- What a log writes of a record: its text and a line feed for each handler, if it passes. There is
no record before its level has a name. -/
def write (paint : Paint) (log : Logging) (level : Level) (site : Site) (message : String) :
    Except ConversionFault String := do
  if passes log.threshold level then
    let name ← level.name
    return String.join (log.handlers.map fun f => f.colored paint level name site message ++ "\n")
  else return ""

end Logging

end FormatterConfig.Log
