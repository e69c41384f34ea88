import FormatterConfig.Fixity.Declaration
import FormatterConfig.Fixity.Table
import FormatterConfig.Runtime
import FormatterConfig.Settings.Read

set_option autoImplicit false

/-! # The configuration file

A configuration file is a document with settings and a list of fixity declarations. It is strict
about values and lenient about keys: a value of the wrong kind or a declaration that cannot be read
refuses the file, and an unknown key is passed over with a note. What decodes the document is
given: nothing here depends on how that is done. -/

namespace FormatterConfig

/-- The name of the configuration file in a directory. -/
def configFileName : String := "fourmolu.yaml"

/-- What a configuration file says. -/
structure ConfigFile where
  settings : PartialSettings
  fixities : FixityTable

namespace ConfigFile

/-- A file that says nothing. -/
def empty : ConfigFile := ⟨.empty, []⟩

/-- The logger of the configuration file. -/
def loggerName : String := "fourmolu_config.config.config_file"

/-! ## Fixity declarations -/

/-- Adds the operators of a declaration to a table, with a note of each that is there already. -/
def declare (table : FixityTable) : List (String × Fixity) → Logged Failure FixityTable
  | [] => pure table
  | (name, f) :: rest => do
    if (table.find? name).isSome then
      Logged.note .debug loggerName
        ("Fixity of " ++ Text.quoted name ++ " redeclared: " ++ f.display)
    declare (table.insert name f) rest

/-- What a declaration that cannot be read ends in. A precedence of too many digits is no matter of
the grammar and breaks the reading off. -/
def rejectDeclaration {α : Type} (declaration : Value) (text : String) :
    Declaration.Failure → Logged Failure α
  | .malformed stop => do
    Logged.note .debug loggerName ("Invalid fixity declaration " ++ declaration.display)
    Logged.fail (.refused (.of (.declaration (stop.report text))))
  | .tooManyDigits count => Logged.fail (.broken (.conversion (.tooManyDigits count)))

/-- Adds declarations to a table one after the other. -/
def declareAll (table : FixityTable) : List Value → Logged Failure FixityTable
  | [] => pure table
  | declaration :: rest => do
    let text := declaration.text?.getD ""
    let pairs ←
      (Declaration.parseLogged text).orElse (rejectDeclaration declaration text)
    let table ← declare table pairs
    declareAll table rest

/-- The table of a list of declarations. -/
def readFixities (declarations : List Value) : Logged Failure FixityTable :=
  declareAll [] declarations

/-- Whatever is noted on the way, a declaration's operators end up in the table. -/
@[simp] theorem outcome_declare (table : FixityTable) (pairs : List (String × Fixity)) :
    (declare table pairs).outcome = .ok (table.insertAll pairs) := by
  induction pairs generalizing table with
  | nil => rfl
  | cons e rest ih =>
    obtain ⟨name, f⟩ := e
    rw [declare]
    split
    · rw [Logged.outcome_bind]
      exact ih _
    · exact ih _

/-! ## The document -/

/-- Whether a key is that of a setting or of the fixity declarations. -/
def isKnownKey (key : Value) : Bool :=
  (Setting.all.map Setting.key ++ [fixitiesKey]).any fun known => key.sameKey (.text known)

/-- Notes the keys that nothing is read from. -/
def noteUnknownKeys : Mapping → Logged Failure Unit
  | [] => pure ()
  | (key, _) :: rest => do
    if !isKnownKey key then
      Logged.note .debug loggerName ("Ignoring unknown key in config file: " ++ key.display)
    noteUnknownKeys rest

@[simp] theorem outcome_noteUnknownKeys (table : Mapping) :
    (noteUnknownKeys table).outcome = .ok () := by
  induction table with
  | nil => rfl
  | cons e rest ih =>
    obtain ⟨key, v⟩ := e
    rw [noteUnknownKeys]
    split
    · rw [Logged.outcome_bind]
      exact ih
    · exact ih

/-- The contents of a file by its document's mapping. -/
def ofMapping (table : Mapping) : Logged Failure ConfigFile := do
  noteUnknownKeys table
  let settings ← PartialSettings.ofDocument table ""
  let declarations ← settle (checkTexts table ⟨"", fixitiesKey, none⟩)
  let fixities ← readFixities declarations
  return ⟨settings, fixities⟩

/-- The mapping of a document whose top level is one, with texts for keys. -/
def decodeMapping (decode : Yaml.Decoder) (text : List Char) : Except Failure Mapping :=
  match decode text with
  | .error (.conversion fault) => .error (.broken (.conversion fault))
  | .error (.crash cause) => .error (.broken (.crash cause))
  | .error error =>
    let line := error.mark?.map fun m => (m.line + 1 : Int)
    let column := error.mark?.map fun m => (m.column + 1 : Int)
    .error (.refused ⟨.document text error, none, line, column⟩)
  | .ok v =>
    match v.isTextMapping, v.map? with
    | true, some table => .ok table
    | _, _ => .error (.refused (.of (.notMapping v)))

/-- The contents of a file by its text. -/
def ofText (runtime : Runtime) (text : List Char) : Logged Failure ConfigFile := do
  let table ← Logged.ofExcept (decodeMapping runtime.decode text)
  runtime.bound (ofMapping table)

/-- The mapping of a document that says the same. -/
def entries (c : ConfigFile) : Except Declaration.Unwritable Mapping := do
  let declarations ← c.fixities.mapM fun (name, f) => Declaration.write name f
  if c.fixities.isEmpty then return c.settings.entries
  else
    return c.settings.entries ++ [(.text fixitiesKey, .list (declarations.map Value.text))]

/-- How a message shows a file's contents. -/
def display (c : ConfigFile) : String :=
  let fixities := c.fixities.map fun (name, f) => Text.quoted name ++ ": " ++ f.display
  "FourmoluConfig(printer_opts=" ++ c.settings.display ++ ", fixities=mappingproxy(\x7b" ++
    ", ".intercalate fixities ++ "\x7d))"

/-! ## Reading a file -/

/-- The logger of the decoding. -/
def decodingLogger : String := "fourmolu_config.config.io.loaders"

/-- The text of a file's bytes: its characters with line feeds for line ends. -/
def textOfBytes (bytes : List UInt8) : Except ReadFault (List Char) :=
  match Text.decodeUtf8 bytes with
  | .ok text => .ok (Text.unifyLineEnds text)
  | .error fault => .error (.notText fault)

/-- Reads the file at a path, given its bytes or why there are none. Every refusal names the path; a
path that holds the null character is no path at all. -/
def read (runtime : Runtime) (path : Path) (bytes : Except ReadFault (List UInt8)) :
    Logged Failure ConfigFile := do
  Logged.note .debug loggerName ("Reading config file: " ++ path.text)
  if path.holdsNull then Logged.fail (.broken .nullInPath)
  else match bytes.bind textOfBytes with
  | .error fault => do
    Logged.note .debug decodingLogger ("Cannot read " ++ path.text ++ ": " ++ fault.message path)
    Logged.fail (.refused ⟨.unreadable path fault, some path, none, none⟩)
  | .ok text => do
    let c ← (ofText runtime text).mapError (Failure.mapError (·.withPath path))
    c.settings.note .trace loggerName ("Parsed " ++ path.text ++ ": " ++ c.display)
    return c

end ConfigFile

end FormatterConfig
