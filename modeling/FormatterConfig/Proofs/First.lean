import Mathlib.Data.List.Basic

set_option autoImplicit false

/-! # The first of a list

A reader that goes through a list stops at the first item that it does not get past. Either it gets
past all of them, or the list falls apart at that item. -/

namespace FormatterConfig

variable {α : Type}

/-- All items of a list have a property, or there is a first one that has not. -/
theorem exists_first (p : α → Prop) (items : List α) :
    (∀ a ∈ items, p a) ∨
      ∃ before a after, items = before ++ a :: after ∧ (∀ b ∈ before, p b) ∧ ¬ p a := by
  induction items with
  | nil => exact .inl (by simp)
  | cons a rest ih =>
    by_cases ha : p a
    · rcases ih with hall | ⟨before, b, after, rfl, hbefore, hb⟩
      · exact .inl (List.forall_mem_cons.2 ⟨ha, hall⟩)
      · exact .inr ⟨a :: before, b, after, rfl, List.forall_mem_cons.2 ⟨ha, hbefore⟩, hb⟩
    · exact .inr ⟨[], a, rest, rfl, by simp, ha⟩

end FormatterConfig
