import FormatterConfig.Value.Basic

set_option autoImplicit false

/-! # Tables under construction

A document sets values in tables that are named by paths, in any order of the tables. Going down a
path makes the tables on the way that are missing, and enters the last one of an array of tables. A
value that is set is final: nothing is set inside it, and nothing in its place. -/

namespace FormatterConfig.Toml

/-- What stands under a key. -/
inductive Node where
  | leaf (v : Value)
  | table (entries : List (String × Node))
  /-- An array of tables: the finished ones, and the entries of the last one. -/
  | tables (finished : List Value) (last : List (String × Node))

/-- The entries of a table, in order. -/
abbrev Entries := List (String × Node)

namespace Entries

/-- What stands under a key. -/
def find? (es : Entries) (key : String) : Option Node :=
  (List.find? (fun e => e.1 == key) es).map (·.2)

/-- Puts something else under a key that is there. -/
def replace (es : Entries) (key : String) (node : Node) : Entries :=
  es.map fun e => if e.1 == key then (key, node) else e

/-- Changes the table at a path. -/
def modifyAt (change : Entries → Option Entries) : (path : List String) → Entries → Option Entries
  | [], es => change es
  | key :: path, es =>
    match es.find? key with
    | none => (modifyAt change path []).map fun sub => es ++ [(key, .table sub)]
    | some (.table sub) =>
      (modifyAt change path sub).map fun sub => es.replace key (.table sub)
    | some (.tables finished last) =>
      (modifyAt change path last).map fun last => es.replace key (.tables finished last)
    | some (.leaf _) => none

mutual

/-- The value of a node. -/
def nodeValue : Node → Value
  | .leaf v => v
  | .table es => .map (values es)
  | .tables finished last => .list (finished ++ [.map (values last)])

/-- The mapping of a table. -/
def values : List (String × Node) → List (Value × Value)
  | [] => []
  | (key, node) :: rest => (.text key, nodeValue node) :: values rest

end

/-- Sets a value at a path. -/
def set (es : Entries) (path : List String) (v : Value) : Option Entries :=
  match path.getLast? with
  | none => none
  | some key =>
    es.modifyAt
      (fun table => if (table.find? key).isSome then none else some (table ++ [(key, .leaf v)]))
      path.dropLast

/-- Adds an empty table to the array at a path. -/
def append (es : Entries) (path : List String) : Option Entries :=
  match path.getLast? with
  | none => none
  | some key =>
    es.modifyAt
      (fun table =>
        match table.find? key with
        | none => some (table ++ [(key, .tables [] [])])
        | some (.tables finished last) =>
          some (table.replace key (.tables (finished ++ [.map (values last)]) []))
        | some _ => none)
      path.dropLast

end Entries

/-- A document under construction. -/
structure Draft where
  entries : Entries
  /-- The path of the table that values are set in. -/
  header : List String
  /-- The paths that no table can be opened at any more. -/
  opened : List (List String)
  /-- The paths that join them at the next header. -/
  pending : List (List String)

namespace Draft

/-- A document of which nothing is read. -/
def empty : Draft := ⟨[], [], [], []⟩

/-- The paths that no table can be opened at from the next header on. -/
def settled (d : Draft) : List (List String) := d.pending ++ d.opened

/-- Opens the table at a path. -/
def openTable (d : Draft) (path : List String) : Option Draft :=
  if d.settled.contains path then none
  else (d.entries.modifyAt some path).map fun entries => ⟨entries, path, path :: d.settled, []⟩

/-- Opens a new table in the array at a path, in which nothing is open yet. -/
def appendTable (d : Draft) (path : List String) : Option Draft :=
  (d.entries.append path).map fun entries =>
    ⟨entries, path, path :: d.settled.filter (fun p => !path.isPrefixOf p), []⟩

/-- The paths on the way to a key of several parts, below the header. -/
def wayTo (d : Draft) (key : List String) : List (List String) :=
  (List.range (key.length - 1)).map fun i => d.header ++ key.take (i + 1)

/-- Sets the value of a key below the header. A key of several parts goes through no table that a
header opened. -/
def setValue (d : Draft) (key : List String) (v : Value) : Option Draft :=
  if (d.wayTo key).any d.opened.contains then none
  else
    (d.entries.set (d.header ++ key) v).map fun entries =>
      { d with entries := entries, pending := d.wayTo key ++ d.pending }

end Draft

end FormatterConfig.Toml
