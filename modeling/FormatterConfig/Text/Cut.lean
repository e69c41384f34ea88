set_option autoImplicit false

/-! # Cutting a text

A text is cut at each occurrence of a separator, which leaves one part more than there are
separators. Joining the parts with the separator gives the text back. -/

namespace FormatterConfig.Text

/-- The parts of a text between the occurrences of a separator. -/
def cutAt (sep : Char) : List Char → List (List Char)
  | [] => [[]]
  | c :: rest =>
    if c = sep then [] :: cutAt sep rest
    else
      match cutAt sep rest with
      | part :: parts => (c :: part) :: parts
      | [] => [[c]]

theorem cutAt_ne_nil (sep : Char) (cs : List Char) : cutAt sep cs ≠ [] := by
  cases cs with
  | nil => simp [cutAt]
  | cons c rest =>
    unfold cutAt
    split
    · simp
    · split <;> simp

theorem length_cutAt (sep : Char) (cs : List Char) :
    (cutAt sep cs).length = cs.count sep + 1 := by
  induction cs with
  | nil => rfl
  | cons c rest ih =>
    unfold cutAt
    split
    · rename_i h; simp [ih, h]
    · rename_i h
      rw [List.count_cons_of_ne h]
      split
      · rename_i heq; rw [heq] at ih; simpa using ih
      · rename_i heq; exact absurd heq (cutAt_ne_nil sep rest)

/-- A text without separators stays whole. -/
theorem cutAt_of_notMem {sep : Char} {cs : List Char} (h : sep ∉ cs) : cutAt sep cs = [cs] := by
  induction cs with
  | nil => rfl
  | cons c rest ih =>
    rw [List.mem_cons, not_or] at h
    rw [cutAt, if_neg (Ne.symm h.1), ih h.2]

end FormatterConfig.Text
