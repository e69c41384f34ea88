import FormatterConfig.Value.Basic

set_option autoImplicit false

/-! # Deciding whether values are built alike

`Value.same` compares values as keys are compared, so that 1 and a true truth value are the same.
Whether two values are one and the same term can be decided as well, collection by collection; that
is what evaluates statements about what a document decodes to. -/

namespace FormatterConfig.Value

mutual

/-- Whether two values are built alike. -/
def identical : Value → Value → Bool
  | .null, .null => true
  | .bool a, .bool b => a == b
  | .int m, .int n => m == n
  | .real x, .real y => x == y
  | .text s, .text t => s == t
  | .bytes as, .bytes bs => as == bs
  | .date a, .date b => a == b
  | .time a, .time b => a == b
  | .moment a, .moment b => a == b
  | .choice a, .choice b => a == b
  | .list as, .list bs => identicalItems as bs
  | .tuple as, .tuple bs => identicalItems as bs
  | .set as, .set bs => identicalItems as bs
  | .map as, .map bs => identicalEntries as bs
  | .knot l a, .knot m b => l == m && identical a b
  | .again l, .again m => l == m
  | _, _ => false

/-- `identical` item by item. -/
def identicalItems : List Value → List Value → Bool
  | [], [] => true
  | a :: as, b :: bs => identical a b && identicalItems as bs
  | _, _ => false

/-- `identical` entry by entry. -/
def identicalEntries : List (Value × Value) → List (Value × Value) → Bool
  | [], [] => true
  | (j, a) :: as, (k, b) :: bs => identical j k && identical a b && identicalEntries as bs
  | _, _ => false

end

theorem identical_iff (v w : Value) : identical v w = true ↔ v = w := by
  refine (identical.mutual_induct (fun v w => identical v w = true ↔ v = w)
    (fun as bs => identicalEntries as bs = true ↔ as = bs)
    (fun as bs => identicalItems as bs = true ↔ as = bs)
    ?null ?bool ?int ?real ?text ?bytes ?date ?time ?moment ?choice ?list ?tuple ?set ?map ?knot
    ?again ?other ?noItem ?item ?otherItems ?noEntry ?entry ?otherEntries).1 v w
  case null | noItem | noEntry => simp [identical, identicalItems, identicalEntries]
  case bool | int | real | text | bytes | date | time | moment | choice | again =>
    intros
    simp [identical]
  case list | tuple | set | map =>
    intro as bs ih
    simp [identical, ih]
  case knot =>
    intro l a m b ih
    simp [identical, ih]
  case item =>
    intro a as b bs ih ihs
    simp [identicalItems, ih, ihs]
  case entry =>
    intro j a as k b bs ihk ih ihs
    simp [identicalEntries, ihk, ih, ihs]
  -- values of different kinds, and collections of different lengths
  case other =>
    intro v w
    intros
    constructor
    · intro h
      rw [identical] at h
      · exact absurd h (by simp)
      all_goals assumption
    · rintro rfl
      cases v <;> grind
  case otherItems =>
    intro as bs hnil hcons
    cases as with
    | nil =>
      cases bs with
      | nil => exact (hnil rfl rfl).elim
      | cons b bs => simp [identicalItems]
    | cons a as =>
      cases bs with
      | nil => simp [identicalItems]
      | cons b bs => exact (hcons a as b bs rfl rfl).elim
  case otherEntries =>
    intro as bs hnil hcons
    cases as with
    | nil =>
      cases bs with
      | nil => exact (hnil rfl rfl).elim
      | cons e bs => simp [identicalEntries]
    | cons d as =>
      cases bs with
      | nil => simp [identicalEntries]
      | cons e bs => exact (hcons d.1 d.2 as e.1 e.2 bs rfl rfl).elim

instance : DecidableEq Value := fun v w => decidable_of_iff _ (identical_iff v w)

end FormatterConfig.Value
