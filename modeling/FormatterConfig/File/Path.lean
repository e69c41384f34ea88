import FormatterConfig.Text.Cut

set_option autoImplicit false

/-! # Paths

A path is a root, if it has one, and its components. Reading a path drops repeated slashes, trailing
slashes and components that are a single point; two points stay. A root is one slash, or exactly
two, which are kept apart. `Path.normalize` resolves two points by the text alone and never looks at
links. -/

namespace FormatterConfig

/-- A path. -/
structure Path where
  /-- The slashes of the root: none for a relative path, one or two for an absolute one. -/
  slashes : Nat
  parts : List String
  deriving DecidableEq

namespace Path

/-- How many slashes a text starts with count as its root. -/
def rootSlashes (cs : List Char) : Nat :=
  let n := (cs.takeWhile (· == '/')).length
  if n = 0 then 0 else if n = 2 then 2 else 1

/-- The components of a text. -/
def components (cs : List Char) : List String :=
  ((Text.cutAt '/' cs).map String.ofList).filter fun part => part != "" && part != "."

/-- The path that a text denotes. -/
def ofText (s : String) : Path := ⟨rootSlashes s.toList, components s.toList⟩

/-- The text of a path; the empty relative path is a point. -/
def text (p : Path) : String :=
  if p.slashes = 0 ∧ p.parts = [] then "."
  else String.ofList (List.replicate p.slashes '/') ++ "/".intercalate p.parts

/-- Whether a path has a root. -/
def isAbsolute (p : Path) : Bool := p.slashes != 0

/-- Whether a path holds the null character. -/
def holdsNull (p : Path) : Bool := p.parts.any fun part => part.toList.contains '\x00'

/-- A path inside a directory. -/
def child (p : Path) (part : String) : Path := { p with parts := p.parts ++ [part] }

/-- A path taken from a directory: an absolute one stands for itself. -/
def join (directory p : Path) : Path :=
  if p.isAbsolute then p else { directory with parts := directory.parts ++ p.parts }

/-- The directory that holds a path; a path without components is its own. -/
def parent (p : Path) : Path := { p with parts := p.parts.dropLast }

/-- The directories above a path, nearest first. -/
def ancestorsOf (slashes : Nat) : (reversed : List String) → List Path
  | [] => []
  | _ :: rest => ⟨slashes, rest.reverse⟩ :: ancestorsOf slashes rest

/-- The directories above a path, nearest first. -/
def ancestors (p : Path) : List Path := ancestorsOf p.slashes p.parts.reverse

/-- Resolves two points against the components before them, which come last one first. Above a root
there is nothing; in a relative path, two points that nothing precedes stay. -/
def resolveDots (rooted : Bool) : (before : List String) → List String → List String
  | before, [] => before.reverse
  | before, part :: rest =>
    if part != ".." then resolveDots rooted (part :: before) rest
    else
      match before with
      | [] => resolveDots rooted (if rooted then [] else [".."]) rest
      | b :: bs =>
        if b == ".." then resolveDots rooted (".." :: b :: bs) rest else resolveDots rooted bs rest

/-- The path without two points, by its text alone. -/
def normalize (p : Path) : Path := { p with parts := resolveDots p.isAbsolute [] p.parts }

/-- The absolute, normalised form of a path in a working directory. -/
def absolute (p workingDirectory : Path) : Path := (workingDirectory.join p).normalize

@[simp] theorem ancestors_root (slashes : Nat) : (Path.mk slashes []).ancestors = [] := rfl

@[simp] theorem ancestors_snoc (slashes : Nat) (parts : List String) (part : String) :
    (Path.mk slashes (parts ++ [part])).ancestors =
      ⟨slashes, parts⟩ :: (Path.mk slashes parts).ancestors := by
  simp [ancestors, ancestorsOf]

end Path

end FormatterConfig
