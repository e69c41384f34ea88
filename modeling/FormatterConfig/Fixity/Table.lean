import FormatterConfig.Fixity.Basic

set_option autoImplicit false

/-! # Fixity tables

The fixities of several operators, each operator once and in the order in which they were first
declared. A later entry for an operator replaces its fixity and leaves its place. -/

namespace FormatterConfig

/-- Operators with their fixities, in order. -/
abbrev FixityTable := List (String × Fixity)

namespace FixityTable

/-- The fixity of an operator. -/
def find? (t : FixityTable) (name : String) : Option Fixity :=
  (List.find? (fun e => e.1 == name) t).map (·.2)

/-- Sets the fixity of an operator. -/
def insert (t : FixityTable) (name : String) (f : Fixity) : FixityTable :=
  match t with
  | [] => [(name, f)]
  | (n, g) :: rest => if n = name then (n, f) :: rest else (n, g) :: FixityTable.insert rest name f

/-- Sets the fixities of operators one after the other. -/
def insertAll (t : FixityTable) (entries : List (String × Fixity)) : FixityTable :=
  entries.foldl (fun t e => t.insert e.1 e.2) t

/-- The table of a list of entries. -/
def ofList (entries : List (String × Fixity)) : FixityTable := insertAll [] entries

/-- A table with the entries of another, which win, laid over it. -/
def overlay (high low : FixityTable) : FixityTable := low.insertAll high

/-- Whether two tables give every operator the same fixity. -/
def agrees (s t : FixityTable) : Bool :=
  s.length == t.length && s.all fun e => FixityTable.find? t e.1 == some e.2

@[simp] theorem insertAll_nil (t : FixityTable) : t.insertAll [] = t := rfl

theorem insertAll_append (t : FixityTable) (xs ys : List (String × Fixity)) :
    t.insertAll (xs ++ ys) = (t.insertAll xs).insertAll ys := by
  simp [insertAll, List.foldl_append]

theorem find?_insert (t : FixityTable) (name other : String) (f : Fixity) :
    (t.insert name f).find? other = if name = other then some f else t.find? other := by
  induction t with
  | nil => by_cases h : name = other <;> simp [insert, find?, h]
  | cons e rest ih =>
    obtain ⟨n, g⟩ := e
    unfold insert
    by_cases h : n = name
    · subst h
      by_cases h' : n = other <;> simp [find?, h']
    · by_cases h' : n = other
      · subst h'
        simp [find?, h, Ne.symm h]
      · simp only [find?] at ih
        simp [find?, h, h', ih]

end FixityTable

end FormatterConfig
