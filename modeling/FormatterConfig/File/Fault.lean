import FormatterConfig.File.Path
import FormatterConfig.Text.Quoted
import FormatterConfig.Text.Utf8

set_option autoImplicit false

/-! # Faults of paths and files

Why a file system refuses a path, and why a file cannot be read as text. -/

namespace FormatterConfig

/-- Why a file system refuses a path: an error of the operating system, which is whatever that
gives it a number and a wording for. -/
structure PathFault where
  number : Nat
  wording : String
  deriving DecidableEq

namespace PathFault

/-! A tree in memory gives six of them. -/

def notFound : PathFault := ⟨2, "No such file or directory"⟩
def alreadyThere : PathFault := ⟨17, "File exists"⟩
def notDirectory : PathFault := ⟨20, "Not a directory"⟩
def isDirectory : PathFault := ⟨21, "Is a directory"⟩
def nameTooLong : PathFault := ⟨36, "File name too long"⟩
def tooManyLinks : PathFault := ⟨40, "Too many levels of symbolic links"⟩

/-- The wording of a fault, with its number. -/
def description (fault : PathFault) : String :=
  "[Errno " ++ toString fault.number ++ "] " ++ fault.wording

/-- The numbers of the faults that say that there is nothing at a path: no such entry, a closed
file, no directory on the way, and links that go round. -/
def absenceNumbers : List Nat := [2, 9, 20, 40]

/-- Whether a fault says that there is nothing at a path. -/
def isAbsence (fault : PathFault) : Bool := absenceNumbers.contains fault.number

end PathFault

/-- A fault and the paths that it is about. -/
structure PathError where
  fault : PathFault
  paths : List String
  deriving DecidableEq

/-- The wording of an error: the fault and the paths, if there are any. -/
def PathError.message (e : PathError) : String :=
  if e.paths.isEmpty then e.fault.description
  else e.fault.description ++ ": " ++ " -> ".intercalate (e.paths.map Text.quoted)

/-- A fault of one path. -/
def PathFault.of (fault : PathFault) (path : Path) : PathError := ⟨fault, [path.text]⟩

/-- Why a file cannot be read as text. -/
inductive ReadFault where
  | path (fault : PathFault)
  | notText (fault : Text.Utf8Fault)
  deriving DecidableEq

/-- The wording of a fault of the file at a path. -/
def ReadFault.message (path : Path) : ReadFault → String
  | .path fault => (fault.of path).message
  | .notText fault => fault.message

end FormatterConfig
