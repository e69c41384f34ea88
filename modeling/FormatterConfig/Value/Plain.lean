import FormatterConfig.Value.Display

set_option autoImplicit false

/-! # Plain values

The values that a document can hold directly: scalars other than choices, lists, and mappings whose
keys are texts. `Value.plain` turns any value into a plain one: a choice into its tag, a key into
its text, a tuple into a list, and a set into the ascending list of its items. -/

namespace FormatterConfig.Value

/-- The text of a key: a text stands for itself, a choice shows its member, anything else shows as
in a message. -/
def keyText : Value → String
  | .text s => s
  | .choice c => c.kind.name ++ "." ++ c.memberName
  | .date d => d.isoText
  | .time t => t.isoText
  | .moment m => m.isoText " "
  | v => v.display

/-- Whether a byte string comes before another one or is equal to it, by its bytes from the first
on. -/
def bytesAtMost : List UInt8 → List UInt8 → Bool
  | [], _ => true
  | _ :: _, [] => false
  | a :: as, b :: bs => decide (a.toNat < b.toNat) || (a == b && bytesAtMost as bs)

/-- Where a number stands among all numbers: on which side of the finite ones, and how many times it
holds the smallest positive real. What is not a number stands nowhere. -/
def rank? : Value → Option (Int × Int)
  | .bool b => some (0, if b then Nat.pow 2 1074 else 0)
  | .int n => some (0, n * Nat.pow 2 1074)
  | .real x =>
    if x.isNaN then none
    else if x.isInfinite then some (if x.isNegative then -1 else 1, 0)
    else some (0, x.smallestUnits)
  | _ => none

/-- Whether a value is a number of some kind. -/
def isNumber : Value → Bool
  | .bool _ | .int _ | .real _ => true
  | _ => false

/-- The order of two things, each of which is known to be at most the other or not. -/
def orderOf (first second : Bool) : Ordering :=
  if !second then .lt else if !first then .gt else .eq

mutual

/-- The order of two values: numbers by value, texts by code points, dates and moments by time,
lists by their first difference. Values of different sorts are left as they are. -/
def order : Value → Value → Ordering
  | .text a, .text b => orderOf (decide (a ≤ b)) (decide (b ≤ a))
  | .bytes a, .bytes b => orderOf (bytesAtMost a b) (bytesAtMost b a)
  | .date a, .date b =>
    orderOf (decide (a.dayNumber ≤ b.dayNumber)) (decide (b.dayNumber ≤ a.dayNumber))
  | .moment a, .moment b =>
    orderOf (decide (a.microseconds ≤ b.microseconds)) (decide (b.microseconds ≤ a.microseconds))
  | .list as, .list bs => orderItems as bs
  | a, b =>
    match rank? a, rank? b with
    | some (s, m), some (t, n) =>
      (orderOf (decide (s ≤ t)) (decide (t ≤ s))).then (orderOf (decide (m ≤ n)) (decide (n ≤ m)))
    | _, _ => .eq

/-- The order of two lists: the first items that differ decide, and a list comes before those that
it begins. -/
def orderItems : List Value → List Value → Ordering
  | [], [] => .eq
  | [], _ :: _ => .lt
  | _ :: _, [] => .gt
  | a :: as, b :: bs => (order a b).then (orderItems as bs)

end

/-- Puts an item before the first one that does not come before it. -/
def insertSorted (v : Value) : List Value → List Value
  | [] => [v]
  | w :: rest => if (order v w).isLE then v :: w :: rest else w :: insertSorted v rest

/-- Items in ascending order. -/
def sortItems (items : List Value) : List Value := items.foldr insertSorted []

mutual

/-- The plain value of a value. -/
def plain : Value → Value
  | .choice c => .text c.tag
  | .list items => .list (plainItems items)
  | .tuple items => .list (plainItems items)
  | .set items => .list (sortItems (plainItems items))
  | .map entries => .map (Mapping.ofList (plainEntries entries))
  | v => v

/-- The plain values of items. -/
def plainItems : List Value → List Value
  | [] => []
  | v :: rest => plain v :: plainItems rest

/-- The texts of keys and the plain values of entries. -/
def plainEntries : List (Value × Value) → List (Value × Value)
  | [] => []
  | (k, v) :: rest => (.text k.keyText, plain v) :: plainEntries rest

end

end FormatterConfig.Value
