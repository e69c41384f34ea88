import FormatterConfig.ConfigFile
import FormatterConfig.File.System

set_option autoImplicit false

/-! # Finding the configuration file

The configuration file of a source file is looked for in its directory, then in each directory above
that, nearest first, and last in the user's configuration directory. The first one that is there is
taken, and no other is looked at. The way up follows the text of the path and never links. A path
that nothing can be asked about breaks the search off. -/

namespace FormatterConfig

/-! ## Surroundings -/

/-- The parts of a process's surroundings that matter. -/
structure Environment where
  /-- None once it has been removed. -/
  workingDirectory : Option Path
  home : Option String
  /-- The home directory that the account of the process has, if there is an account. -/
  accountHome : Option String
  configHome : Option String
  appData : Option String
  isWindows : Bool

/-- A variable that is set and not empty. -/
def nonEmpty? (value : Option String) : Option String := value.filter (· != "")

namespace Environment

/-- The variable that holds the home directory. -/
def homeVariable : String := "HOME"

/-- The variable that holds the directory for users' configuration. -/
def configHomeVariable : String := "XDG_CONFIG_HOME"

/-- The variable that holds the directory for users' configuration on Windows. -/
def appDataVariable : String := "APPDATA"

/-- Sets a variable, or takes it away. A variable that does not matter changes nothing. -/
def set (env : Environment) (name : String) (value : Option String) : Environment :=
  if name = homeVariable then { env with home := value }
  else if name = configHomeVariable then { env with configHome := value }
  else if name = appDataVariable then { env with appData := value }
  else env

/-- The home directory: the variable's, else the account's. A tilde in front stands for a home that
is not known. -/
def homeDirectory (env : Environment) : Except Breakdown Path :=
  match env.home.or env.accountHome with
  | none => .error .noHome
  | some home =>
    match (home.toList.reverse.dropWhile (· == '/')).reverse with
    | [] => .ok (Path.ofText "/")
    | '~' :: _ => .error .noHome
    | cs => .ok (Path.ofText (String.ofList cs))

/-- The user's configuration directory. -/
def userDirectory (env : Environment) : Except Breakdown Path :=
  let roaming := if env.isWindows then nonEmpty? env.appData else none
  match roaming with
  | some directory => .ok (Path.ofText directory)
  | none =>
    match ((nonEmpty? env.configHome).map Path.ofText).filter Path.isAbsolute with
    | some directory => .ok directory
    | none => env.homeDirectory.map (·.child ".config")

/-- The absolute, normalised form of a path; a relative one needs a working directory. -/
def absolute (env : Environment) (p : Path) : Except Breakdown Path :=
  match env.workingDirectory with
  | some directory => .ok (p.absolute directory)
  | none => if p.isAbsolute then .ok p.normalize else .error (.path ⟨.notFound, []⟩)

end Environment

/-! ## The search -/

namespace Discovery

/-- The logger of the search. -/
def loggerName : String := "fourmolu_config.config.discovery"

/-- The answer of a file system about a path. -/
def ask (question : Path → Except PathFault Bool) (p : Path) : Except Breakdown Bool :=
  (question p).mapError fun fault => .path (fault.of p)

/-- The directory that the search starts in: the start itself, or the one that holds it. -/
def anchor (env : Environment) (fs : FileSystem) (start : Path) : Except Breakdown Path := do
  let p ← env.absolute start
  return if ← ask fs.isDirectory p then p else p.parent

/-- The directories that are searched, in order. -/
def searchDirectories (env : Environment) (fs : FileSystem) (start : Path) :
    Except Breakdown (List Path) := do
  let first ← anchor env fs start
  let last ← env.userDirectory
  return first :: first.ancestors ++ [last]

/-- The configuration file of a directory. -/
def candidate (directory : Path) : Path := directory.child configFileName

/-- Whether a candidate is a file, with notes that it is looked for and that it is there. -/
def lookAt (fs : FileSystem) (p : Path) : Logged Breakdown Bool := do
  Logged.note .trace loggerName ("Looking for config file: " ++ p.text)
  let found ← Logged.ofExcept (ask fs.isFile p)
  if found then Logged.note .debug loggerName ("Discovered config file: " ++ p.text)
  return found

/-- The first of some candidates that is a file. -/
def firstFile (fs : FileSystem) : List Path → Logged Breakdown (Option Path)
  | [] => return none
  | p :: rest => do if ← lookAt fs p then return some p else firstFile fs rest

/-- The first configuration file that is there. -/
def find? (env : Environment) (fs : FileSystem) (start : Path) :
    Logged Breakdown (Option Path) := do
  let directories ← Logged.ofExcept (searchDirectories env fs start)
  firstFile fs (directories.map candidate)

/-! ## Loading -/

/-- What the search and the reading of what it finds end in. -/
inductive Outcome where
  | loaded (path : Path) (config : ConfigFile)
  | invalid (path : Path) (error : ConfigError)
  | notFound (searched : List Path)

/-- The outcome for a file that was found. -/
def readFound (runtime : Runtime) (fs : FileSystem) (path : Path) :
    Logged Breakdown Outcome :=
  let reading := ConfigFile.read runtime path (fs.read path)
  match reading.outcome with
  | .ok config => ⟨.ok (.loaded path config), reading.records⟩
  | .error (.refused error) => ⟨.ok (.invalid path error), reading.records⟩
  | .error (.broken breakdown) => ⟨.error breakdown, reading.records⟩

/-- The outcome of a search that has found nothing. -/
def noteNotFound (searched : List Path) : Logged Breakdown Outcome := do
  Logged.note .debug loggerName
    ("No " ++ configFileName ++ " found; searched " ++ toString searched.length ++ " directories")
  return .notFound searched

/-- Goes through directories after those that have been searched, and reads the first configuration
file. -/
def loadFrom (runtime : Runtime) (fs : FileSystem) (searched : List Path) :
    List Path → Logged Breakdown Outcome
  | [] => noteNotFound searched
  | directory :: rest => do
    let searched := searched ++ [directory]
    if ← lookAt fs (candidate directory) then readFound runtime fs (candidate directory)
    else loadFrom runtime fs searched rest

/-- Finds the configuration file of a start and reads it. -/
def load (runtime : Runtime) (env : Environment) (fs : FileSystem) (start : Path) :
    Logged Breakdown Outcome := do
  let directories ← Logged.ofExcept (searchDirectories env fs start)
  loadFrom runtime fs [] directories

end Discovery

end FormatterConfig
