import FormatterConfig.Settings.Check
import Mathlib.Data.List.Perm.Basic

set_option autoImplicit false

/-! # Looking up text keys

A mapping is looked up by the text of a key, and a choice as a key counts as its tag. What is found
depends on the entries of that key alone, and if no key occurs twice, not on their order either. -/

namespace FormatterConfig

/-- A text is the same key as the texts and choices that are spelled like it. -/
theorem Value.sameKey_text {k : Value} {key : String} :
    k.sameKey (.text key) = true ↔ k.text? = some key := by
  cases k with
  | real x =>
    cases h : x.toInt? <;> simp [sameKey, keyForm?, text?, h]
  | tuple items =>
    cases h : keyForms? items <;> simp [sameKey, keyForm?, text?, h]
  | moment m =>
    cases h : m.offset.isSome <;> simp [sameKey, keyForm?, text?, h]
  | text s =>
    simp only [sameKey, keyForm?, text?, beq_iff_eq, Option.some.injEq, List.cons.injEq,
      KeyPiece.text.injEq, and_true]
    exact eq_comm
  | choice c =>
    simp only [sameKey, keyForm?, text?, beq_iff_eq, Option.some.injEq, List.cons.injEq,
      KeyPiece.text.injEq, and_true]
    exact eq_comm
  | _ => simp [sameKey, keyForm?, text?]

namespace Mapping

/-- Whether an entry is that of a text key. -/
def isEntryOf (key : String) (e : Value × Value) : Bool := e.1.text? == some key

theorem get?_eq_find? (table : Mapping) (key : String) :
    table.get? key = (List.find? (isEntryOf key) table).map Prod.snd := by
  have hsame : (fun e : Value × Value => e.1.sameKey (.text key)) = isEntryOf key := by
    funext e
    rw [Bool.eq_iff_iff, Value.sameKey_text, isEntryOf, beq_iff_eq]
  rw [get?, find?, hsame]

@[simp] theorem get?_nil (key : String) : get? [] key = none := rfl

theorem get?_cons (e : Value × Value) (table : Mapping) (key : String) :
    get? (e :: table) key = if e.1.text? = some key then some e.2 else table.get? key := by
  rw [get?_eq_find?, get?_eq_find?, List.find?_cons]
  by_cases h : e.1.text? = some key
  · simp [isEntryOf, h]
  · have hother : isEntryOf key e = false := by simpa [isEntryOf] using h
    rw [hother, if_neg h]

theorem get?_append (table table' : Mapping) (key : String) :
    get? (table ++ table') key = (table.get? key).or (table'.get? key) := by
  rw [get?_eq_find?, get?_eq_find?, get?_eq_find?, List.find?_append]
  cases List.find? (isEntryOf key) table <;> rfl

/-- A key is looked up among its own entries, so dropping others changes nothing. -/
theorem get?_filter {keep : Value × Value → Bool} {key : String}
    (hkeep : ∀ e, isEntryOf key e = true → keep e = true) (table : Mapping) :
    get? (table.filter keep) key = table.get? key := by
  rw [get?_eq_find?, get?_eq_find?, List.find?_filter]
  congr 2
  funext e
  rw [Bool.eq_iff_iff, decide_eq_true_eq]
  exact ⟨fun h => h.2, fun h => ⟨hkeep e h, h⟩⟩

theorem mem_of_get? {table : Mapping} {key : String} {v : Value} (h : table.get? key = some v) :
    ∃ k, k.text? = some key ∧ (k, v) ∈ table := by
  rw [get?_eq_find?] at h
  obtain ⟨⟨k, w⟩, hfind, rfl⟩ := Option.map_eq_some_iff.1 h
  exact ⟨k, by simpa [isEntryOf] using List.find?_some hfind, List.mem_of_find?_eq_some hfind⟩

theorem given?_eq_some {table : Mapping} {key : String} {v : Value} :
    table.given? key = some v ↔ table.get? key = some v ∧ v ≠ .null := by
  unfold given?
  split
  · next h =>
    rw [h]
    simp [eq_comm]
  · next h =>
    constructor
    · intro hv
      refine ⟨hv, ?_⟩
      rintro rfl
      exact h hv
    · exact fun hv => hv.1

theorem given?_congr {table table' : Mapping} {key key' : String}
    (h : table.get? key = table'.get? key') : table.given? key = table'.given? key' := by
  rw [given?, given?, h]

/-! ## The order of entries -/

/-- No key occurs twice. -/
def KeysDistinct (table : Mapping) : Prop :=
  table.Pairwise fun e f => e.1.sameKey f.1 = false

/-- Two entries of one text key have the same key. -/
theorem not_isEntryOf_of_sameKey {key : String} {e f : Value × Value}
    (h : e.1.sameKey f.1 = false) (he : isEntryOf key e = true) : isEntryOf key f = false := by
  rw [Bool.eq_false_iff]
  intro hf
  rw [isEntryOf, beq_iff_eq] at he hf
  -- texts and choices have their spelling for a form
  have hform : ∀ k : Value, k.text? = some key → k.keyForm? = some [.text key] := by
    intro k hk
    cases k <;> simp_all [Value.text?, Value.keyForm?]
  rw [Value.sameKey, hform _ he, hform _ hf] at h
  exact absurd h (by simp)

end Mapping

end FormatterConfig
