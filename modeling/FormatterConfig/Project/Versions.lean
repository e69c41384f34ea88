import FormatterConfig.Decimal.Numeral
import FormatterConfig.Project.Metadata
import FormatterConfig.Text.Blank
import FormatterConfig.Text.Cut

set_option autoImplicit false

/-! # Supported versions

A project tells by its classifiers which versions of the interpreter it supports. Of the classifiers
with the right beginning those count that go on with two numbers and a point between them. The
versions are listed in ascending order, each once; where there are none, the running version is the
only one. -/

namespace FormatterConfig.Project

/-- A version: its major and its minor number. -/
structure Version where
  major : Int
  minor : Int
  deriving DecidableEq

namespace Version

/-- The text of a version. -/
def text (v : Version) : String := toString v.major ++ "." ++ toString v.minor

/-- Whether a version comes before another one. -/
def before (v w : Version) : Bool :=
  decide (v.major < w.major) || (decide (v.major = w.major) && decide (v.minor < w.minor))

/-- Puts a version into an ascending list, unless it is there. -/
def insert (v : Version) : List Version → List Version
  | [] => [v]
  | w :: rest =>
    if v.before w then v :: w :: rest else if v = w then w :: rest else w :: insert v rest

end Version

/-- Why the classifiers cannot be read. -/
inductive ClassifierFault where
  | notText (found : Value)
  | conversion (fault : ConversionFault)

/-- The wording of a fault. -/
def ClassifierFault.message : ClassifierFault → String
  | .notText found =>
    Text.quoted found.fullKindName ++ " object has no attribute 'removeprefix'"
  | .conversion fault => fault.message

/-- How the classifiers begin that name a version. -/
def versionClassifier : List Char := "Programming Language :: Python :: ".toList

/-- Whether a part of a version is a run of digits. -/
def isVersionPart (cs : List Char) : Bool := !cs.isEmpty && cs.all Text.isDigit

/-- The number that a part of a version denotes. -/
def readVersionPart (cs : List Char) : Except ClassifierFault Int :=
  match Decimal.readInteger 10 cs with
  | .ok n => .ok n
  | .error fault => .error (.conversion (.ofNumeral 10 (String.ofList cs) fault))

/-- The two parts of the version that a classifier names. -/
def versionParts? (classifier : List Char) : Option (List Char × List Char) :=
  if versionClassifier.isPrefixOf classifier then
    match Text.cutAt '.' (Text.trimBlanks (classifier.drop versionClassifier.length)) with
    | [major, minor] =>
      if isVersionPart major && isVersionPart minor then some (major, minor) else none
    | _ => none
  else none

/-- The version that a classifier names, if it names one. -/
def readClassifier (found : Value) : Except ClassifierFault (Option Version) :=
  match found with
  | .text s =>
    match versionParts? s.toList with
    | none => .ok none
    | some (major, minor) => do
      let major ← readVersionPart major
      let minor ← readVersionPart minor
      return some ⟨major, minor⟩
  | _ => .error (.notText found)

/-- The versions that classifiers name, ascending. -/
def readClassifiers (classifiers : List Value) : Except ClassifierFault (List Version) := do
  let versions ← classifiers.mapM readClassifier
  return (versions.filterMap id).foldr Version.insert []

/-- The list of classifiers in a project's metadata. -/
def classifiers? (metadata : Mapping) : Option (List Value) := do
  let project ← metadata.get? "project"
  let entries ← project.map?
  let found ← Mapping.get? entries "classifiers"
  found.list?

/-- The supported versions, and whether they are a guess because there are no classifiers. -/
structure Support where
  versions : List String
  guessed : Bool
  deriving DecidableEq

/-- The versions that a project supports, given the running one. -/
def supportedVersions (running : String) (metadata : Mapping) :
    Except ClassifierFault Support :=
  match classifiers? metadata with
  | none => .ok ⟨[running], true⟩
  | some classifiers =>
    match readClassifiers classifiers with
    | .error fault => .error fault
    | .ok [] => .ok ⟨[running], false⟩
    | .ok versions => .ok ⟨versions.map Version.text, false⟩

/-- The warning that the supported versions are a guess. -/
def guessWarning (running : String) : String :=
  "Could not find 'classifiers' in pyproject.toml. Falling back to Python " ++ running ++ "."

end FormatterConfig.Project
