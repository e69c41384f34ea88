import FormatterConfig.Error
import FormatterConfig.File.Tree

set_option autoImplicit false

/-! # Changes to a tree

Making directories, writing files, making links and removing things. A change that fails keeps what
it has done so far: the directories above a path are made before the path is tried. -/

namespace FormatterConfig.Tree

/-- A change: a tree to a tree, whether it succeeds or not. -/
abbrev Change := EStateM Breakdown Tree

/-- The change to a tree that is worked out at once; a fault is one of some paths. -/
def commit (paths : List String) (x : Tree → Except PathFault Tree) : Change Unit := do
  match x (← get) with
  | .ok t => set t
  | .error fault => throw (.path ⟨fault, paths⟩)

/-- The place that the last component of a path names, not followed if it is a link. A path that
ends in two points or has no components names none. -/
def lastPlace (t : Tree) (workingDirectory : Option Place) (p : Path) :
    Except PathFault (Option Place) := do
  let place ← start workingDirectory p
  match p.parts.getLast? with
  | none => return none
  | some name =>
    let directory ← t.walk linkLimit place p.parts.dropLast
    let inner ← t.enter directory name
    return if name == ".." then none else some inner

/-! ## Directories -/

/-- Makes a directory in one that is there. -/
def makeDirectoryAt (workingDirectory : Option Place) (p : Path) (t : Tree) :
    Except PathFault Tree := do
  match ← t.lastPlace workingDirectory p with
  | none => throw .alreadyThere
  | some place =>
    if (t.at? place).isSome then throw .alreadyThere else return t.put place .directory

/-- What making a directory ends in when it fails: nothing is wrong if the directory is there. -/
def unlessDirectory (workingDirectory : Option Place) (p : Path) (fault : PathFault) :
    Change Unit := do
  match (← get).isDirectory workingDirectory p with
  | .ok true => return
  | .ok false => throw (.path (fault.of p))
  | .error other => throw (.path (other.of p))

/-- Makes a directory unless it is there, and those above it where they are missing. Each try goes
one directory up, so the number of components bounds the tries. -/
def makeDirectories (workingDirectory : Option Place) : (fuel : Nat) → Path → Change Unit
  | fuel, p => do
    if p.holdsNull then throw .nullInPath
    match makeDirectoryAt workingDirectory p (← get) with
    | .ok t => set t
    | .error fault =>
      if fault ≠ .notFound then unlessDirectory workingDirectory p fault
      else
        match fuel with
        | 0 => throw (.path (fault.of p))
        | fuel + 1 =>
          makeDirectories workingDirectory fuel p.parent
          match makeDirectoryAt workingDirectory p (← get) with
          | .ok t => set t
          | .error fault =>
            if fault = .notFound then throw (.path (fault.of p))
            else unlessDirectory workingDirectory p fault

/-- Makes a directory and those above it. -/
def makeDirectory (workingDirectory : Option Place) (p : Path) : Change Unit :=
  makeDirectories workingDirectory p.parts.length p

/-! ## Files -/

/-- Follows components from a place to that of a file that is there or can be made: nothing needs to
stand at the last one. An empty last component asks for a directory. -/
def walkToFile (t : Tree) (links : Nat) (place : Place) (parts : List String) :
    Except PathFault Place :=
  match parts with
  | [] => .error .isDirectory
  | part :: rest =>
    match t.enter place part with
    | .error fault => .error (if fault = .nameTooLong && rest = [""] then .isDirectory else fault)
    | .ok inner =>
      if part == "" || part == "." then walkToFile t links place rest
      else if part == ".." then walkToFile t links place.dropLast rest
      else if rest = [""] then .error .isDirectory
      else
        match t.at? inner with
        | none => if rest.isEmpty then .ok inner else .error .notFound
        | some (.link target) =>
          match links with
          | 0 => .error .tooManyLinks
          | links + 1 => walkToFile t links (linkStart place target) (linkParts target ++ rest)
        | some (.file _) => if rest.isEmpty then .ok inner else walkToFile t links inner rest
        | some .directory => walkToFile t links inner rest
termination_by (links, parts.length)

/-- Writes a file and makes the directories above it. -/
def writeFile (workingDirectory : Option Place) (p : Path) (bytes : List UInt8) :
    Change Unit := do
  makeDirectory workingDirectory p.parent
  if p.holdsNull then throw .nullInPath
  commit [p.text] fun t => do
    let place ← t.walkToFile linkLimit (← start workingDirectory p) p.parts
    return t.put place (.file bytes)

/-! ## Links -/

/-- Makes a link where nothing is. -/
def makeLinkAt (workingDirectory : Option Place) (p : Path) (target : String) (t : Tree) :
    Except PathFault Tree := do
  if target.isEmpty then throw .notFound
  if isLongPath target then throw .nameTooLong
  match ← t.lastPlace workingDirectory p with
  | none => throw .alreadyThere
  | some place =>
    if (t.at? place).isSome then throw .alreadyThere else return t.put place (.link target)

/-- Makes a link, and the directories above it. -/
def makeLink (workingDirectory : Option Place) (p : Path) (target : String) : Change Unit := do
  makeDirectory workingDirectory p.parent
  if p.holdsNull || target.toList.contains '\x00' then throw .nullInPath
  commit [target, p.text] (makeLinkAt workingDirectory p target)

/-! ## Removal -/

/-- Removes a file, a link, or a directory that is no link with all below it. -/
def removeAt (workingDirectory : Option Place) (p : Path) (t : Tree) : Except PathFault Tree := do
  let isDirectory ← t.isDirectory workingDirectory p
  match ← t.lastPlace workingDirectory p with
  | none => return t.erase (← t.resolve workingDirectory p)
  | some place =>
    match t.at? place with
    | none => throw .notFound
    | some .directory => if isDirectory then return t.erase place else throw .isDirectory
    | some _ => return t.erase place

/-- Removes what stands at a path. -/
def remove (workingDirectory : Option Place) (p : Path) : Change Unit := do
  if p.holdsNull then throw .nullInPath
  commit [p.text] (removeAt workingDirectory p)

end FormatterConfig.Tree
