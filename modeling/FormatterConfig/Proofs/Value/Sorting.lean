import FormatterConfig.Proofs.Outcome
import FormatterConfig.Value.Sortable
import Mathlib.Data.List.Sort
import Mathlib.Data.String.Basic

set_option autoImplicit false

/-! # Items in ascending order

Items are sorted without a fault if any two of them have an order, since only items are ever
compared. Texts have one, and sorted they are the one ascending list of the same texts. -/

namespace FormatterConfig.Value

open scoped List

/-! ## Items with an order -/

/-- Any two of some items have an order. -/
def Comparable (items : List Value) : Prop :=
  ∀ a ∈ items, ∀ b ∈ items, comparisonFault? a b = none

variable {v : Value} {items items' placed : List Value}

theorem Comparable.mono (h : Comparable items) (hsub : items' ⊆ items) : Comparable items' :=
  fun a ha b hb => h a (hsub ha) b (hsub hb)

theorem isBefore_eq_ok {a b : Value} (h : comparisonFault? a b = none) :
    isBefore a b = .ok (order a b == .lt) := by
  rw [isBefore, h]

theorem exists_runLength (descending : Bool) (h : Comparable (v :: items)) :
    ∃ n, runLength descending v items = .ok n := by
  induction items generalizing v with
  | nil => exact ⟨0, rfl⟩
  | cons w rest ih =>
    obtain ⟨n, hn⟩ := ih (h.mono (List.subset_cons_self v _))
    rw [runLength, isBefore_eq_ok (h w (by simp) v (by simp)), ok_bind, hn]
    split
    · exact ⟨n + 1, rfl⟩
    · exact ⟨0, rfl⟩

/-- An item is compared with sorted ones alone, as long as the range stays within them. -/
theorem exists_placeAmong (h : ∀ w ∈ placed, comparisonFault? v w = none) (fuel : Nat)
    {low high : Nat} (hhigh : high ≤ placed.length) :
    ∃ place, placeAmong placed.toArray v fuel low high = .ok place := by
  induction fuel generalizing low high with
  | zero => exact ⟨low, rfl⟩
  | succ fuel ih =>
    rw [placeAmong]
    by_cases hempty : high ≤ low
    · rw [if_pos hempty]
      exact ⟨low, rfl⟩
    · -- the middle of a range that is not empty is the place of one of them
      have hmiddle : low + (high - low) / 2 < placed.length := by omega
      have hmem : placed.toArray.getD (low + (high - low) / 2) .null ∈ placed := by
        rw [Array.getD_eq_getD_getElem?, List.getElem?_toArray, List.getElem?_eq_getElem hmiddle]
        exact List.getElem_mem hmiddle
      rw [if_neg hempty]
      show ∃ place, (isBefore _ _ >>= _) = .ok place
      rw [isBefore_eq_ok (h _ hmem), ok_bind]
      split
      · exact ih hmiddle.le
      · exact ih hhigh

theorem exists_placeAll (h : Comparable (placed ++ items)) :
    ∃ result, placeAll placed items = .ok result := by
  induction items generalizing placed with
  | nil => exact ⟨placed, rfl⟩
  | cons v rest ih =>
    have hcomparable : ∀ w ∈ placed, comparisonFault? v w = none :=
      fun w hw => h v (by simp) w (by simp [hw])
    obtain ⟨place, hplace⟩ :
        ∃ place, placeAmong placed.toArray v (placed.length + 1) 0 placed.length = .ok place :=
      exists_placeAmong hcomparable _ le_rfl
    have hperm : (placed.take place ++ v :: placed.drop place ++ rest).Perm (placed ++ v :: rest) :=
      calc placed.take place ++ v :: placed.drop place ++ rest
        _ ~ v :: (placed.take place ++ placed.drop place) ++ rest :=
          List.perm_middle.append_right rest
        _ = v :: placed ++ rest := by rw [List.take_append_drop]
        _ ~ placed ++ v :: rest := List.perm_middle.symm
    rw [placeAll, hplace, ok_bind]
    exact ih (h.mono hperm.subset)

theorem exists_sorted (h : Comparable items) : ∃ result, sorted items = .ok result := by
  unfold sorted
  split
  · next first second rest =>
    obtain ⟨n, hn⟩ := exists_runLength (order second first == .lt)
      (h.mono (List.subset_cons_self first _))
    rw [isBefore_eq_ok (h second (by simp) first (by simp)), ok_bind, hn, ok_bind]
    refine exists_placeAll (h.mono ?_)
    -- the run at the start may have been turned round
    conv_rhs => rw [← List.take_append_drop (n + 2) (first :: second :: rest)]
    refine (List.Perm.append_right _ ?_).subset
    split
    · exact List.reverse_perm _
    · exact .refl _
  · exact ⟨_, rfl⟩

/-! ## Texts -/

theorem comparable_texts (texts : List String) : Comparable (texts.map .text) := by
  intro a ha b hb
  obtain ⟨s, -, rfl⟩ := List.mem_map.1 ha
  obtain ⟨t, -, rfl⟩ := List.mem_map.1 hb
  rfl

theorem isLE_order_text (s t : String) : (order (.text s) (.text t)).isLE = true ↔ s ≤ t := by
  rw [order, orderOf]
  by_cases hts : t ≤ s
  · by_cases hst : s ≤ t
    · simp [hts, hst]
    · simp [hts, hst]
  · simp [hts, le_of_not_ge hts]

theorem insertSorted_texts (s : String) (texts : List String) :
    insertSorted (.text s) (texts.map .text) = (texts.orderedInsert (· ≤ ·) s).map .text := by
  induction texts with
  | nil => rfl
  | cons t rest ih =>
    rw [List.map_cons, insertSorted, List.orderedInsert_cons]
    by_cases hle : s ≤ t
    · rw [if_pos ((isLE_order_text s t).2 hle), if_pos hle]
      rfl
    · rw [if_neg (mt (isLE_order_text s t).1 hle), if_neg hle, ih]
      rfl

theorem sortItems_texts (texts : List String) :
    sortItems (texts.map .text) = (texts.insertionSort (· ≤ ·)).map .text := by
  induction texts with
  | nil => rfl
  | cons s rest ih =>
    rw [List.map_cons, List.insertionSort_cons, ← insertSorted_texts, ← ih]
    rfl

/-- Sorted texts are the one ascending list of the same texts. -/
theorem insertionSort_eq_iff {texts ascending : List String} :
    ascending = texts.insertionSort (· ≤ ·) ↔
      ascending.Pairwise (· ≤ ·) ∧ ascending.Perm texts := by
  constructor
  · rintro rfl
    exact ⟨List.pairwise_insertionSort _ _, List.perm_insertionSort _ _⟩
  · rintro ⟨hascending, hperm⟩
    exact (hperm.trans (List.perm_insertionSort _ texts).symm).eq_of_pairwise' hascending
      (List.pairwise_insertionSort _ _)

end FormatterConfig.Value
