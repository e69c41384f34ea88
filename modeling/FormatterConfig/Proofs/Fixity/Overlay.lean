import FormatterConfig.Proofs.Fixity.Table
import Mathlib.Data.List.Induction

set_option autoImplicit false

/-! # Overlaid fixity tables

A table laid over another wins for every operator that it holds. The operators of the lower table
come first, in their order, and the new ones of the upper table behind them. Insertions of different
operators can be exchanged as long as no operator is new, and that is all that associativity needs:
it does not matter which of three tables are laid over one another first, for the fixities and for
their order. -/

namespace FormatterConfig.FixityTable

variable {t : FixityTable} {name other : String} {f g : Fixity}

/-! ## Insertions -/

theorem mem_operators_insert (t : FixityTable) (name : String) (f : Fixity) :
    name ∈ (t.insert name f).operators := by
  rw [operators_insert]
  split
  · assumption
  · exact List.mem_append_right _ (List.mem_singleton_self name)

/-- The last of two insertions of an operator wins. -/
theorem insert_insert (t : FixityTable) (name : String) (f g : Fixity) :
    (t.insert name g).insert name f = t.insert name f := by
  induction t with
  | nil => simp [insert]
  | cons e rest ih =>
    obtain ⟨n, h⟩ := e
    by_cases hn : n = name
    · simp [insert, hn]
    · simp [insert, hn, ih]

/-- An operator that is there keeps its place, so it may as well be inserted before another. -/
theorem insert_comm (hmem : name ∈ t.operators) (hne : other ≠ name) :
    (t.insert other g).insert name f = (t.insert name f).insert other g := by
  induction t with
  | nil => exact absurd hmem (by simp [operators])
  | cons e rest ih =>
    obtain ⟨n, h⟩ := e
    by_cases hn : n = name
    · subst hn
      simp [insert, Ne.symm hne]
    · have hrest : name ∈ operators rest := by
        simpa [operators, Ne.symm hn] using hmem
      by_cases ho : n = other
      · subst ho
        simp [insert, hne]
      · simp [insert, hn, ho, ih hrest]

/-- Inserting what is there already changes nothing. -/
theorem insert_of_find? (h : t.find? name = some f) : t.insert name f = t := by
  induction t with
  | nil => exact absurd h (by simp [find?])
  | cons e rest ih =>
    obtain ⟨n, g⟩ := e
    by_cases hn : n = name
    · subst hn
      obtain rfl : g = f := by simpa [find?] using h
      simp [insert]
    · have hrest : find? rest name = some f := by simpa [find?, hn] using h
      rw [insert, if_neg hn, ih hrest]

theorem find?_eq_none_of_notMem (h : name ∉ t.operators) : t.find? name = none := by
  rw [find?, Option.map_eq_none_iff, List.find?_eq_none]
  rintro ⟨n, g⟩ he hn
  exact h (List.mem_map.2 ⟨(n, g), he, by simpa using hn⟩)

theorem find?_of_mem (hnodup : t.operators.Nodup) {e : String × Fixity} (he : e ∈ t) :
    t.find? e.1 = some e.2 := by
  induction t with
  | nil => exact absurd he (by simp)
  | cons e' rest ih =>
    obtain ⟨n, g⟩ := e'
    obtain ⟨hnew, hrest⟩ := List.nodup_cons.1 hnodup
    rcases List.mem_cons.1 he with rfl | hmem
    · simp [find?]
    · have hne : n ≠ e.1 := fun heq => hnew (List.mem_map.2 ⟨e, hmem, heq.symm⟩)
      simpa [find?, hne] using ih hrest hmem

/-! ## Several insertions -/

theorem insertAll_cons (t : FixityTable) (e : String × Fixity) (entries : List (String × Fixity)) :
    t.insertAll (e :: entries) = (t.insert e.1 e.2).insertAll entries := rfl

theorem insertAll_insert_comm {entries : List (String × Fixity)} (hmem : name ∈ t.operators)
    (hnew : name ∉ operators entries) :
    (t.insertAll entries).insert name f = (t.insert name f).insertAll entries := by
  induction entries generalizing t with
  | nil => rfl
  | cons e entries ih =>
    obtain ⟨n, g⟩ := e
    obtain ⟨hne, hrest⟩ : name ≠ n ∧ name ∉ operators entries := by
      simpa [operators, not_or] using hnew
    have hstill : name ∈ (t.insert n g).operators := by
      rw [operators_insert]
      split
      · exact hmem
      · exact List.mem_append_left _ hmem
    rw [insertAll_cons, insertAll_cons, ih hstill hrest, insert_comm hmem (Ne.symm hne)]

/-- Inserting the entries of a table with one more is inserting them and then that one. -/
theorem insertAll_insert {s : FixityTable} (hs : s.operators.Nodup) :
    t.insertAll (s.insert name f) = (t.insertAll s).insert name f := by
  induction s generalizing t with
  | nil => rfl
  | cons e rest ih =>
    obtain ⟨n, g⟩ := e
    obtain ⟨hnew, hrest⟩ := List.nodup_cons.1 hs
    by_cases hn : n = name
    · subst hn
      have hinsert : insert ((n, g) :: rest) n f = (n, f) :: rest := by simp [insert]
      rw [hinsert, insertAll_cons, insertAll_cons,
        insertAll_insert_comm (mem_operators_insert t n g) hnew, insert_insert]
    · have hinsert : insert ((n, g) :: rest) name f = (n, g) :: insert rest name f := by
        simp [insert, hn]
      rw [hinsert, insertAll_cons, insertAll_cons, ih hrest]

theorem insertAll_insertAll {s : FixityTable} (hs : s.operators.Nodup)
    (entries : List (String × Fixity)) :
    t.insertAll (s.insertAll entries) = (t.insertAll s).insertAll entries := by
  induction entries generalizing s with
  | nil => rfl
  | cons e entries ih => rw [insertAll_cons, insertAll_cons, ih (nodup_insert hs), insertAll_insert hs]

theorem find?_insertAll {entries : List (String × Fixity)} (hnodup : (operators entries).Nodup)
    (name : String) :
    (t.insertAll entries).find? name = (find? entries name).or (t.find? name) := by
  induction entries generalizing t with
  | nil => rfl
  | cons e entries ih =>
    obtain ⟨n, g⟩ := e
    obtain ⟨hnew, hrest⟩ := List.nodup_cons.1 hnodup
    rw [insertAll_cons, ih hrest, find?_insert]
    by_cases hn : n = name
    · subst hn
      rw [find?_eq_none_of_notMem hnew]
      simp [find?]
    · simp [find?, hn]

theorem insertAll_of_find? {entries : List (String × Fixity)}
    (h : ∀ e ∈ entries, t.find? e.1 = some e.2) : t.insertAll entries = t := by
  induction entries with
  | nil => rfl
  | cons e entries ih =>
    obtain ⟨he, hrest⟩ := List.forall_mem_cons.1 h
    rw [insertAll_cons, insert_of_find? he, ih hrest]

/-! ## Repeated entries

Where an operator stands is decided by its first entry, and its fixity by its last one. -/

theorem operators_insertAll_nil (entries : List (String × Fixity)) :
    (insertAll [] entries).operators = (operators entries).eraseDups := by
  induction entries using List.reverseRecOn with
  | nil => rfl
  | append_singleton entries e ih =>
    obtain ⟨name, f⟩ := e
    have hstep : insertAll [] (entries ++ [(name, f)]) = (insertAll [] entries).insert name f :=
      insertAll_append [] entries [(name, f)]
    have hoperators : operators (entries ++ [(name, f)]) = operators entries ++ [name] := by
      simp [operators]
    rw [hstep, operators_insert, ih, hoperators, List.eraseDups_append]
    by_cases hmem : name ∈ operators entries <;>
      simp [hmem, List.removeAll, List.eraseDups_cons]

theorem find?_insertAll_reverse (t : FixityTable) (entries : List (String × Fixity))
    (name : String) :
    (t.insertAll entries).find? name = (find? entries.reverse name).or (t.find? name) := by
  induction entries generalizing t with
  | nil => rfl
  | cons e entries ih =>
    obtain ⟨n, f⟩ := e
    have hlast : find? ((n, f) :: entries).reverse name =
        (find? entries.reverse name).or (find? [(n, f)] name) := by
      rw [List.reverse_cons, find?, List.find?_append, Option.map_or]
      rfl
    rw [insertAll_cons, ih, find?_insert, hlast, Option.or_assoc]
    by_cases hn : n = name <;> simp [find?, hn]

/-! ## Overlays -/

/-- The upper table wins, and for other operators the lower one is asked. -/
theorem find?_overlay {high : FixityTable} (hhigh : high.operators.Nodup) (low : FixityTable)
    (name : String) : (overlay high low).find? name = (high.find? name).or (low.find? name) :=
  find?_insertAll hhigh name

theorem nodup_overlay {low : FixityTable} (high : FixityTable) (hlow : low.operators.Nodup) :
    (overlay high low).operators.Nodup :=
  nodup_insertAll high hlow

theorem overlay_nil {high : FixityTable} (hhigh : high.operators.Nodup) : overlay high [] = high :=
  insertAll_nil_self hhigh

theorem overlay_self (h : t.operators.Nodup) : overlay t t = t :=
  insertAll_of_find? fun _ he => find?_of_mem h he

theorem overlay_assoc {middle : FixityTable} (hmiddle : middle.operators.Nodup)
    (high low : FixityTable) :
    overlay (overlay high middle) low = overlay high (overlay middle low) :=
  insertAll_insertAll hmiddle high

/-- Several tables laid over one another, the uppermost first. -/
def overlayAll (tables : List FixityTable) : FixityTable := tables.foldr overlay []

theorem overlayAll_cons (t : FixityTable) (tables : List FixityTable) :
    overlayAll (t :: tables) = overlay t (overlayAll tables) := rfl

/-- An operator has the fixity of the first table that holds it. -/
theorem find?_overlayAll {tables : List FixityTable} (h : ∀ t ∈ tables, t.operators.Nodup)
    (name : String) : (overlayAll tables).find? name = tables.findSome? fun t => t.find? name := by
  induction tables with
  | nil => rfl
  | cons t tables ih =>
    obtain ⟨ht, hrest⟩ := List.forall_mem_cons.1 h
    rw [overlayAll_cons, find?_overlay ht, ih hrest, List.findSome?_cons]
    cases t.find? name <;> rfl

end FormatterConfig.FixityTable
