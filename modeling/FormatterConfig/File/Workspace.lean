import FormatterConfig.Discovery
import FormatterConfig.File.Change

set_option autoImplicit false

/-! # Working in a tree

A tree together with the surroundings of whoever works in it, who changes the tree, sets variables
and moves from directory to directory. The working directory may be removed, and then there is none
until another is entered. -/

namespace FormatterConfig

/-- A tree and the surroundings of whoever works in it. -/
structure Workspace where
  tree : Tree
  environment : Environment

namespace Workspace

/-- The place of the working directory. -/
def place (w : Workspace) : Option Tree.Place := w.environment.workingDirectory.map Path.parts

/-- The file system as it is seen from the working directory. -/
def files (w : Workspace) : FileSystem := w.tree.fileSystem w.place

/-- The workspace after a change and what the change failed with. The working directory is gone if
the change has removed it. -/
def change (w : Workspace) (c : Tree.Change Unit) : Workspace × Option Breakdown :=
  let (tree, failure) :=
    match c.run w.tree with
    | .ok _ t => (t, none)
    | .error e t => (t, some e)
  let directory := w.environment.workingDirectory.filter fun d => (tree.at? d.parts).isSome
  (⟨tree, { w.environment with workingDirectory := directory }⟩, failure)

/-- The workspace with another working directory. -/
def enter (w : Workspace) (path : Path) : Except Breakdown Workspace := do
  if path.holdsNull then throw .nullInPath
  match w.tree.resolve w.place path with
  | .error fault => throw (.path (fault.of path))
  | .ok place =>
    match w.tree.at? place with
    | some .directory =>
      return { w with environment := { w.environment with workingDirectory := some ⟨1, place⟩ } }
    | _ => throw (.path (PathFault.notDirectory.of path))

end Workspace

end FormatterConfig
