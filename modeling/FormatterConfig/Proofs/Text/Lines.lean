import FormatterConfig.Proofs.Text.Runs
import FormatterConfig.Text.Cut
import Mathlib.Algebra.Ring.Nat

set_option autoImplicit false

/-! # Texts by their lines

Any text is some lines that are ended by a separator, and what is left behind the last one. The cut
of a text is read off this form: first come the lines, and then the cut of the rest. -/

namespace FormatterConfig.Text

variable {sep : Char} {lines : List (List Char)}

/-- Lines with a separator behind each. -/
def terminated (sep : Char) (lines : List (List Char)) : List Char :=
  lines.flatMap (· ++ [sep])

@[simp] theorem terminated_nil : terminated sep [] = [] := rfl

@[simp] theorem terminated_cons (line : List Char) :
    terminated sep (line :: lines) = line ++ sep :: terminated sep lines := by
  simp [terminated]

@[simp] theorem terminated_append (more : List (List Char)) :
    terminated sep (lines ++ more) = terminated sep lines ++ terminated sep more :=
  List.flatMap_append

theorem cutAt_append_cons (xs ys : List Char) :
    cutAt sep (xs ++ sep :: ys) = cutAt sep xs ++ cutAt sep ys := by
  induction xs with
  | nil => simp [cutAt]
  | cons c rest ih =>
    rw [List.cons_append, cutAt, cutAt, ih]
    by_cases hc : c = sep
    · rw [if_pos hc, if_pos hc, List.cons_append]
    · rw [if_neg hc, if_neg hc]
      cases hcut : cutAt sep rest with
      | nil => exact absurd hcut (cutAt_ne_nil sep rest)
      | cons part parts => rfl

/-- Ended lines are parts of a cut. -/
theorem cutAt_terminated_append (hlines : ∀ line ∈ lines, sep ∉ line) (rest : List Char) :
    cutAt sep (terminated sep lines ++ rest) = lines ++ cutAt sep rest := by
  induction lines with
  | nil => rfl
  | cons line lines ih =>
    obtain ⟨hline, hlines⟩ := List.forall_mem_cons.1 hlines
    rw [terminated_cons, List.append_assoc, List.cons_append, cutAt_append_cons,
      cutAt_of_notMem hline, ih hlines, List.singleton_append, List.cons_append]

/-- Every text has its ended lines and a rest. -/
theorem exists_terminated (sep : Char) (cs : List Char) :
    ∃ lines left,
      (∀ line ∈ lines, sep ∉ line) ∧ sep ∉ left ∧ cs = terminated sep lines ++ left := by
  induction cs with
  | nil => exact ⟨[], [], by simp, by simp, rfl⟩
  | cons c cs ih =>
    obtain ⟨lines, left, hlines, hleft, rfl⟩ := ih
    by_cases hc : c = sep
    · subst hc
      exact ⟨[] :: lines, left, by simpa using hlines, hleft, by simp⟩
    · -- the character joins the first line, or the rest if there is none
      cases lines with
      | nil => exact ⟨[], c :: left, by simp, by simp [hleft, Ne.symm hc], rfl⟩
      | cons line lines =>
        obtain ⟨hline, hlines⟩ := List.forall_mem_cons.1 hlines
        refine ⟨(c :: line) :: lines, left, List.forall_mem_cons.2 ⟨?_, hlines⟩, hleft, by simp⟩
        simp [hline, Ne.symm hc]

/-- No part of a cut has a separator. -/
theorem notMem_of_mem_cutAt {cs part : List Char} (h : part ∈ cutAt sep cs) : sep ∉ part := by
  obtain ⟨lines, left, hlines, hleft, rfl⟩ := exists_terminated sep cs
  rw [cutAt_terminated_append hlines, cutAt_of_notMem hleft] at h
  rcases List.mem_append.1 h with h | h
  · exact hlines part h
  · obtain rfl := List.mem_singleton.1 h
    exact hleft

/-- There is a separator for each ended line. -/
theorem count_terminated (hlines : ∀ line ∈ lines, sep ∉ line) :
    (terminated sep lines).count sep = lines.length := by
  induction lines with
  | nil => rfl
  | cons line lines ih =>
    obtain ⟨hline, hlines⟩ := List.forall_mem_cons.1 hlines
    rw [terminated_cons, List.count_append, List.count_eq_zero.2 hline, List.count_cons_self,
      ih hlines, List.length_cons, Nat.zero_add]

theorem length_terminated :
    (terminated sep lines).length = (lines.map fun line => line.length + 1).sum := by
  induction lines with
  | nil => rfl
  | cons line lines ih =>
    rw [terminated_cons, List.length_append, List.length_cons, ih, List.map_cons, List.sum_cons]
    omega

theorem all_bne_of_notMem {cs : List Char} (h : sep ∉ cs) : cs.all (· != sep) = true := by
  rw [List.all_eq_true]
  rintro c hc
  rw [bne_iff_ne]
  rintro rfl
  exact h hc

/-- Ended lines end in a separator. -/
theorem stops_reverse_terminated : Stops (· != sep) (terminated sep lines).reverse := by
  cases h : lines.getLast? with
  | none =>
    rw [List.getLast?_eq_none_iff.1 h]
    exact stops_nil
  | some line =>
    obtain ⟨front, rfl⟩ := List.getLast?_eq_some_iff.1 h
    simp

/-- A look back from a place in a line runs over what is before the place in it. -/
theorem takeWhile_reverse_terminated {left : List Char} (hleft : sep ∉ left) :
    (terminated sep lines ++ left).reverse.takeWhile (· != sep) = left.reverse := by
  have hrun : left.reverse.all (· != sep) = true :=
    all_bne_of_notMem fun h => hleft (List.mem_reverse.1 h)
  rw [List.reverse_append, takeWhile_append_of_stops hrun stops_reverse_terminated]

/-- The rest of a line is what is before the next separator. -/
theorem cutAt_eq_cons (rest : List Char) :
    ∃ parts, cutAt sep rest = rest.takeWhile (· != sep) :: parts := by
  induction rest with
  | nil => exact ⟨[], rfl⟩
  | cons c rest ih =>
    obtain ⟨parts, ih⟩ := ih
    rw [cutAt, ih]
    by_cases hc : c = sep
    · exact ⟨_, by rw [if_pos hc, List.takeWhile_cons_of_neg (by simp [hc]), ← ih]⟩
    · exact ⟨parts, by rw [if_neg hc, List.takeWhile_cons_of_pos (by simp [hc])]⟩

/-- A beginning without separators is part of the first line. -/
theorem cutAt_append_of_notMem {left : List Char} (hleft : sep ∉ left) (rest : List Char) :
    ∃ parts, cutAt sep (left ++ rest) = (left ++ rest.takeWhile (· != sep)) :: parts := by
  obtain ⟨parts, hcut⟩ := @cutAt_eq_cons sep (left ++ rest)
  rw [List.takeWhile_append_of_pos (List.all_eq_true.1 (all_bne_of_notMem hleft))] at hcut
  exact ⟨parts, hcut⟩

/-- A cut in two parts is a cut at the only separator. -/
theorem cutAt_eq_pair {cs front back : List Char} :
    cutAt sep cs = [front, back] ↔ cs = front ++ sep :: back ∧ sep ∉ front ∧ sep ∉ back := by
  constructor
  · intro h
    have hnone : ∀ part ∈ [front, back], sep ∉ part := by
      intro part hpart
      rw [← h] at hpart
      exact notMem_of_mem_cutAt hpart
    refine ⟨?_, hnone front (by simp), hnone back (by simp)⟩
    obtain ⟨lines, left, hlines, hleft, rfl⟩ := exists_terminated sep cs
    rw [cutAt_terminated_append hlines, cutAt_of_notMem hleft] at h
    obtain ⟨rfl, hback⟩ := List.append_inj' (show lines ++ [left] = [front] ++ [back] from h) rfl
    obtain rfl := List.singleton_inj.1 hback
    simp
  · rintro ⟨rfl, hfront, hback⟩
    rw [cutAt_append_cons, cutAt_of_notMem hfront, cutAt_of_notMem hback, List.singleton_append]

/-! ## Written numbers -/

theorem notMem_toString_nat (hsep : sep.isDigit = false) (n : Nat) :
    sep ∉ (toString n).toList := by
  intro hmem
  rw [Nat.toString_eq_ofList_toDigits, String.toList_ofList] at hmem
  have hdigit : sep.isDigit = true := Nat.isDigit_of_mem_toDigits (by decide) (by decide) hmem
  rw [hsep] at hdigit
  exact Bool.false_ne_true hdigit

theorem notMem_toString_int (hsep : sep.isDigit = false) (hsign : sep ≠ '-') (n : Int) :
    sep ∉ (toString n).toList := by
  cases n with
  | ofNat n => exact notMem_toString_nat hsep n
  | negSucc n =>
    show sep ∉ ("-" ++ toString (n + 1)).toList
    rw [String.toList_append, List.mem_append, not_or]
    exact ⟨by simp [hsign], notMem_toString_nat hsep (n + 1)⟩

end FormatterConfig.Text
