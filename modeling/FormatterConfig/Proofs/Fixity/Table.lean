import FormatterConfig.Fixity.Table
import Mathlib.Data.List.Nodup

set_option autoImplicit false

/-! # Entries of a fixity table

An insertion replaces the fixity of an operator where it stands, or puts a new operator at the end.
So no operator ever stands in a table twice, every entry is one that was inserted, and inserting the
entries of such a table one after the other makes it again. -/

namespace FormatterConfig.FixityTable

variable {t : FixityTable} {name : String} {f : Fixity}

/-- The operators of a table, in order. -/
def operators (t : FixityTable) : List String := t.map Prod.fst

theorem operators_insert (t : FixityTable) (name : String) (f : Fixity) :
    (t.insert name f).operators =
      if name ∈ t.operators then t.operators else t.operators ++ [name] := by
  induction t with
  | nil => simp [insert, operators]
  | cons e rest ih =>
    obtain ⟨n, g⟩ := e
    rw [insert]
    by_cases h : n = name
    · subst h
      simp [operators]
    · rw [if_neg h]
      simp only [operators, List.map_cons, List.mem_cons, Ne.symm h, false_or] at ih ⊢
      by_cases hmem : name ∈ rest.map Prod.fst
      · simp [ih, hmem]
      · simp [ih, hmem]

theorem insert_of_notMem (h : name ∉ t.operators) : t.insert name f = t ++ [(name, f)] := by
  induction t with
  | nil => rfl
  | cons e rest ih =>
    obtain ⟨n, g⟩ := e
    rw [operators, List.map_cons, List.mem_cons, not_or] at h
    rw [insert, if_neg (Ne.symm h.1), ih h.2]
    rfl

theorem mem_insert {e : String × Fixity} (h : e ∈ t.insert name f) : e ∈ t ∨ e = (name, f) := by
  induction t with
  | nil => exact .inr (List.mem_singleton.1 h)
  | cons e' rest ih =>
    obtain ⟨n, g⟩ := e'
    rw [insert] at h
    split at h
    · next heq =>
      subst heq
      rcases List.mem_cons.1 h with rfl | hmem
      · exact .inr rfl
      · exact .inl (List.mem_cons_of_mem _ hmem)
    · rcases List.mem_cons.1 h with rfl | hmem
      · exact .inl List.mem_cons_self
      · rcases ih hmem with hrest | rfl
        · exact .inl (List.mem_cons_of_mem _ hrest)
        · exact .inr rfl

theorem nodup_insert (h : t.operators.Nodup) : (t.insert name f).operators.Nodup := by
  rw [operators_insert]
  split
  · exact h
  · next hnew => exact List.nodup_append.2 ⟨h, List.nodup_singleton name, fun a ha b hb => by
      rintro rfl
      exact hnew (List.mem_singleton.1 hb ▸ ha)⟩

/-- No operator stands in a table twice, whatever is inserted. -/
theorem nodup_insertAll (entries : List (String × Fixity)) (h : t.operators.Nodup) :
    (t.insertAll entries).operators.Nodup := by
  induction entries generalizing t with
  | nil => exact h
  | cons e entries ih => exact ih (nodup_insert h)

theorem mem_insertAll {entries : List (String × Fixity)} {e : String × Fixity}
    (h : e ∈ t.insertAll entries) : e ∈ t ∨ e ∈ entries := by
  induction entries generalizing t with
  | nil => exact .inl h
  | cons e' entries ih =>
    rcases ih h with hmem | hmem
    · rcases mem_insert hmem with hmem | rfl
      · exact .inl hmem
      · exact .inr List.mem_cons_self
    · exact .inr (List.mem_cons_of_mem _ hmem)

/-- New operators end up behind those that are there, in their order. -/
theorem insertAll_of_nodup {entries : List (String × Fixity)}
    (h : (t.operators ++ operators entries).Nodup) : t.insertAll entries = t ++ entries := by
  induction entries generalizing t with
  | nil => simp
  | cons e entries ih =>
    obtain ⟨name, f⟩ := e
    have hnew : name ∉ t.operators := by
      intro hmem
      exact (List.nodup_append.1 h).2.2 name hmem name List.mem_cons_self rfl
    have hrest : (operators (t ++ [(name, f)]) ++ operators entries).Nodup := by
      simpa [operators] using h
    show (t.insert name f).insertAll entries = _
    rw [insert_of_notMem hnew, ih hrest, List.append_assoc]
    rfl

/-- Inserting the entries of a table one after the other makes the table again. -/
theorem insertAll_nil_self (h : t.operators.Nodup) : insertAll [] t = t :=
  insertAll_of_nodup h

/-- So does inserting what declarations of one entry each state. -/
theorem insertAll_flatten_singletons (h : t.operators.Nodup) :
    insertAll [] (t.map fun e => [e]).flatten = t := by
  rw [← List.flatMap_def, List.flatMap_singleton', insertAll_nil_self h]

end FormatterConfig.FixityTable
