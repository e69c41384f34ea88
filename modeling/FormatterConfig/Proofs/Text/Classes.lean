import FormatterConfig.Text.Letter
import FormatterConfig.Text.Symbol
import Mathlib.Data.List.Chain

set_option autoImplicit false

/-! # Classes without a common character

Two classes whose tables are in ascending order are compared by going along both tables at once:
the range that ends first is passed over as soon as it ends before the other one starts. That takes
as many steps as there are ranges, where comparing each pair of ranges is too much for the tables of
the character database. -/

namespace FormatterConfig.Text

namespace Ranges

/-- The ranges start one after the other. -/
def Ascending (rs : Ranges) : Prop := (rs.map Prod.fst).IsChain (· ≤ ·)

instance (rs : Ranges) : Decidable rs.Ascending :=
  inferInstanceAs (Decidable ((rs.map Prod.fst).IsChain (· ≤ ·)))

/-- Goes along two tables at once, in as many steps as the fuel allows; the answer is no as soon as
two ranges meet. -/
def walkApart : (fuel : Nat) → Ranges → Ranges → Bool
  | _, [], _ => true
  | _, _ :: _, [] => true
  | 0, _ :: _, _ :: _ => false
  | fuel + 1, r :: rs, s :: ss =>
    if r.2 < s.1 then walkApart fuel rs (s :: ss)
    else if s.2 < r.1 then walkApart fuel (r :: rs) ss
    else false

theorem Ascending.head_le {r s : Nat × Nat} {rs : Ranges} (h : Ascending (r :: rs))
    (hs : s ∈ r :: rs) : r.1 ≤ s.1 := by
  rcases List.mem_cons.1 hs with rfl | hmem
  · exact Nat.le_refl _
  · exact List.rel_of_pairwise_cons (List.IsChain.pairwise h) (List.mem_map_of_mem hmem)

theorem Ascending.tail {r : Nat × Nat} {rs : Ranges} (h : Ascending (r :: rs)) : rs.Ascending :=
  List.IsChain.of_cons h

/-- Where the walk comes to an end, no range of one table meets a range of the other. -/
theorem apart_of_walkApart {fuel : Nat} {rs ss : Ranges} (hrs : rs.Ascending) (hss : ss.Ascending)
    (h : walkApart fuel rs ss = true) : rs.apart ss = true := by
  rw [apart, List.all_eq_true]
  intro r hr
  rw [List.all_eq_true]
  intro s hs
  rw [Bool.or_eq_true, decide_eq_true_eq, decide_eq_true_eq]
  induction fuel generalizing rs ss with
  | zero => cases rs <;> cases ss <;> simp_all [walkApart]
  | succ fuel ih =>
    cases rs with
    | nil => exact absurd hr List.not_mem_nil
    | cons r' rs =>
      cases ss with
      | nil => exact absurd hs List.not_mem_nil
      | cons s' ss =>
        rw [walkApart] at h
        split at h
        · next hlt =>
          -- the range in front ends before everything in the other table
          rcases List.mem_cons.1 hr with rfl | hr
          · exact .inl (Nat.lt_of_lt_of_le hlt (hss.head_le hs))
          · exact ih hrs.tail hss h hr hs
        · split at h
          · next hlt =>
            rcases List.mem_cons.1 hs with rfl | hs
            · exact .inr (Nat.lt_of_lt_of_le hlt (hrs.head_le hr))
            · exact ih hrs hss.tail h hr hs
          · exact absurd h Bool.false_ne_true

end Ranges

/-- No letter is a symbol. -/
theorem letterRanges_apart_symbolRanges : letterRanges.apart symbolRanges = true := by
  have hletters : letterRanges.Ascending := by decide +kernel
  have hsymbols : symbolRanges.Ascending := by decide +kernel
  have hwalk : Ranges.walkApart (letterRanges.length + symbolRanges.length) letterRanges
      symbolRanges = true := by decide +kernel
  exact Ranges.apart_of_walkApart hletters hsymbols hwalk

theorem isSymbol_of_isLetter {c : Char} (h : isLetter c = true) : isSymbol c = false :=
  Ranges.has_eq_false_of_apart letterRanges_apart_symbolRanges h

end FormatterConfig.Text
