import FormatterConfig.File.System
import FormatterConfig.Text.Cut

set_option autoImplicit false

/-! # Directory trees

A tree of directories, files and links in memory. Each place in it is named by the components that
lead to it from the root, none of them a link. A path is followed component by component, and a link
on the way is replaced by its target, up to a number of links. -/

namespace FormatterConfig

/-- What stands at a place. A link holds its target as it was given. -/
inductive Tree.Entry where
  | directory
  | file (bytes : List UInt8)
  | link (target : String)

/-- A place: the components that lead to it. -/
abbrev Tree.Place := List String

/-- A tree: what stands at each place. The root is a directory and not listed. -/
structure Tree where
  entries : List (Tree.Place × Tree.Entry)

namespace Tree

/-- A root and nothing in it. -/
def empty : Tree := ⟨[]⟩

/-- What stands at a place. -/
def at? (t : Tree) (place : Place) : Option Entry :=
  if place.isEmpty then some .directory else (t.entries.find? (·.1 == place)).map (·.2)

/-- The tree with something else at a place. -/
def put (t : Tree) (place : Place) (e : Entry) : Tree :=
  ⟨(place, e) :: t.entries.filter (·.1 != place)⟩

/-- The tree without a place and all below it. -/
def erase (t : Tree) (place : Place) : Tree :=
  ⟨t.entries.filter fun e => !place.isPrefixOf e.1⟩

/-! ## Limits -/

/-- How many links are followed on the way to one place. -/
def linkLimit : Nat := 40

/-- The most bytes that a component may have. -/
def nameLimit : Nat := 255

/-- The most bytes that a path may have. -/
def pathLimit : Nat := 4095

/-- Whether a component has too many bytes. -/
def isLongName (name : String) : Bool := decide (nameLimit < name.utf8ByteSize)

/-- Whether a path has too many bytes. -/
def isLongPath (path : String) : Bool := decide (pathLimit < path.utf8ByteSize)

/-! ## Following paths -/

/-- Where the target of a link starts. -/
def linkStart (directory : Place) (target : String) : Place :=
  if target.toList.head? = some '/' then [] else directory

/-- The components of the target of a link. One slash or more at the end count as an empty component
there. -/
def linkParts (target : String) : List String :=
  let parts := (Text.cutAt '/' target.toList).map String.ofList
  parts.filter (· != "") ++ (if parts.getLast? = some "" then [""] else [])

/-- The place that a path starts from, given the working directory if there is one. -/
def start (workingDirectory : Option Place) (p : Path) : Except PathFault Place :=
  if isLongPath p.text then .error .nameTooLong
  else if p.isAbsolute then .ok []
  else
    match workingDirectory with
    | some place => .ok place
    | none => .error .notFound

/-- The place of a name in a directory. -/
def enter (t : Tree) (directory : Place) (name : String) : Except PathFault Place :=
  match t.at? directory with
  | some .directory =>
    if isLongName name then .error .nameTooLong else .ok (directory ++ [name])
  | some _ => .error .notDirectory
  | none => .error .notFound

/-- Follows components from a place; the last one is followed too if it is a link. An empty
component and a single point ask for a directory and stay there. -/
def walk (t : Tree) (links : Nat) (place : Place) (parts : List String) :
    Except PathFault Place :=
  match parts with
  | [] => .ok place
  | part :: rest =>
    match t.enter place part with
    | .error fault => .error fault
    | .ok inner =>
      if part == "" || part == "." then walk t links place rest
      else if part == ".." then walk t links place.dropLast rest
      else
        match t.at? inner with
        | none => .error .notFound
        | some (.link target) =>
          match links with
          | 0 => .error .tooManyLinks
          | links + 1 => walk t links (linkStart place target) (linkParts target ++ rest)
        | some _ => walk t links inner rest
termination_by (links, parts.length)

/-- The place that a path leads to. -/
def resolve (t : Tree) (workingDirectory : Option Place) (p : Path) : Except PathFault Place := do
  t.walk linkLimit (← start workingDirectory p) p.parts

/-- What stands at the end of a path. -/
def find (t : Tree) (workingDirectory : Option Place) (p : Path) : Except PathFault Entry := do
  match t.at? (← t.resolve workingDirectory p) with
  | some e => return e
  | none => throw .notFound

/-- Whether what stands at the end of a path is of some sort; where nothing stands it is not. -/
def ask (t : Tree) (workingDirectory : Option Place) (sort : Entry → Bool) (p : Path) :
    Except PathFault Bool :=
  if p.holdsNull then .ok false
  else
    match t.find workingDirectory p with
    | .ok e => .ok (sort e)
    | .error fault => if fault.isAbsence then .ok false else .error fault

/-- Whether a path leads to a directory. -/
def isDirectory (t : Tree) (workingDirectory : Option Place) : Path → Except PathFault Bool :=
  t.ask workingDirectory fun
    | .directory => true
    | _ => false

/-- Whether a path leads to a file. -/
def isFile (t : Tree) (workingDirectory : Option Place) : Path → Except PathFault Bool :=
  t.ask workingDirectory fun
    | .file _ => true
    | _ => false

/-- What the file at the end of a path holds. -/
def read (t : Tree) (workingDirectory : Option Place) (p : Path) :
    Except ReadFault (List UInt8) :=
  match t.find workingDirectory p with
  | .ok (.file bytes) => .ok bytes
  | .ok .directory => .error (.path .isDirectory)
  | .ok (.link _) => .error (.path .tooManyLinks)
  | .error fault => .error (.path fault)

/-- The file system that the tree is for a process in a working directory. -/
def fileSystem (t : Tree) (workingDirectory : Option Place) : FileSystem where
  isDirectory := t.isDirectory workingDirectory
  isFile := t.isFile workingDirectory
  read := t.read workingDirectory

end Tree

end FormatterConfig
