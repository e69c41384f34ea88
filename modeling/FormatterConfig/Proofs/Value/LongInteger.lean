import FormatterConfig.Value.Display

set_option autoImplicit false

/-! # Values without long integers

A value without an integer too long to be written out has none in any part of it either, nor does
looking into a collection that contains itself bring one up. -/

namespace FormatterConfig.Value

variable {label : Nat} {whole : Value}

theorem anyLongInteger_eq_false {items : List Value} :
    anyLongInteger items = false ↔ ∀ v ∈ items, v.hasLongInteger = false := by
  induction items with
  | nil => simp [anyLongInteger]
  | cons v rest ih => simp [anyLongInteger, ih]

end FormatterConfig.Value
