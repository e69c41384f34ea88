set_option autoImplicit false

/-! # Character classes as code point ranges

A class of characters is a list of inclusive code point ranges. The classes of the character
database (letters, symbols, digits, …) are tables of this form, one module each; here is the
membership test, and the check that two classes have no character in common. -/

namespace FormatterConfig.Text

/-- Inclusive ranges of code points. -/
abbrev Ranges := List (Nat × Nat)

/-- Whether a character lies in one of the ranges. -/
def Ranges.has (rs : Ranges) (c : Char) : Bool :=
  rs.any fun r => decide (r.1 ≤ c.toNat) && decide (c.toNat ≤ r.2)

/-- Whether no range of one list meets a range of the other. -/
def Ranges.apart (rs ss : Ranges) : Bool :=
  rs.all fun r => ss.all fun s => decide (r.2 < s.1) || decide (s.2 < r.1)

theorem Ranges.has_iff {rs : Ranges} {c : Char} :
    rs.has c = true ↔ ∃ r ∈ rs, r.1 ≤ c.toNat ∧ c.toNat ≤ r.2 := by
  simp [Ranges.has]

/-- A character of one class lies outside every class that is apart from it. -/
theorem Ranges.has_eq_false_of_apart {rs ss : Ranges} {c : Char}
    (h : rs.apart ss = true) (hc : rs.has c = true) : ss.has c = false := by
  obtain ⟨r, hr, h₁, h₂⟩ := Ranges.has_iff.1 hc
  rw [Bool.eq_false_iff]
  intro hs
  obtain ⟨s, hs, h₃, h₄⟩ := Ranges.has_iff.1 hs
  have := List.all_eq_true.1 (List.all_eq_true.1 h r hr) s hs
  simp only [Bool.or_eq_true, decide_eq_true_eq] at this
  omega

end FormatterConfig.Text
