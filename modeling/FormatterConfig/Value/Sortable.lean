import FormatterConfig.Value.Conversion
import FormatterConfig.Value.Plain

set_option autoImplicit false

/-! # Sets that can be sorted

A set is written in ascending order, and so has no written form unless its items have an order.
Items are sorted by putting each one into its place among those before it, which is found by
halving; the fault that is reported is that of the first two items compared that have no order. -/

namespace FormatterConfig.Value

mutual

/-- Why two plain values have no order. Of lists, the first items that differ are compared. -/
def comparisonFault? : Value → Value → Option ConversionFault
  | .text _, .text _ | .bytes _, .bytes _ | .date _, .date _ | .time _, .time _ => none
  | .moment a, .moment b => if a.offset.isSome = b.offset.isSome then none else some .mixedOffsets
  | .date _, .moment _ | .moment _, .date _ => some .dateAndMoment
  | .list as, .list bs => itemFault? as bs
  | a, b =>
    if (isNumber a && isNumber b) then none else some (.notOrdered a.fullKindName b.fullKindName)

/-- Why the first items in which two lists differ have no order. -/
def itemFault? : List Value → List Value → Option ConversionFault
  | a :: as, b :: bs => if a.same b then itemFault? as bs else comparisonFault? a b
  | _, _ => none

end

/-- Whether a value comes before another one, or why they have no order. -/
def isBefore (a b : Value) : Except ConversionFault Bool :=
  match comparisonFault? a b with
  | some fault => .error fault
  | none => .ok (order a b == .lt)

/-- The number of items that come in order at the start, each before or each not before the one that
precedes it. -/
def runLength (descending : Bool) (previous : Value) : List Value → Except ConversionFault Nat
  | [] => .ok 0
  | v :: rest => do
    if (← isBefore v previous) = descending then return (← runLength descending v rest) + 1
    else return 0

/-- The place of an item among sorted ones, behind those that it does not come before. -/
def placeAmong (sorted : Array Value) (v : Value) : (fuel low high : Nat) →
    Except ConversionFault Nat
  | 0, low, _ => .ok low
  | fuel + 1, low, high => do
    if high ≤ low then return low
    let middle := low + (high - low) / 2
    if ← isBefore v (sorted.getD middle .null) then placeAmong sorted v fuel low middle
    else placeAmong sorted v fuel (middle + 1) high

/-- Puts items into their places among sorted ones. -/
def placeAll (sorted : List Value) : List Value → Except ConversionFault (List Value)
  | [] => .ok sorted
  | v :: rest => do
    let place ← placeAmong sorted.toArray v (sorted.length + 1) 0 sorted.length
    placeAll (sorted.take place ++ v :: sorted.drop place) rest

/-- The items in ascending order, or why they have none. -/
def sorted : List Value → Except ConversionFault (List Value)
  | first :: second :: rest => do
    let descending ← isBefore second first
    let length := (← runLength descending second rest) + 2
    let items := first :: second :: rest
    let start := items.take length
    placeAll (if descending then start.reverse else start) (items.drop length)
  | items => .ok items

mutual

/-- Why a value has no plain form, if it has none: a set in it has items without an order, or a key
is an integer too long to be written out. -/
def unsortable? : Value → Option ConversionFault
  | .list items | .tuple items => anyUnsortable? items
  | .set items =>
    match anyUnsortable? items with
    | some fault => some fault
    | none =>
      match sorted (plainItems items) with
      | .ok _ => none
      | .error fault => some fault
  | .map entries => anyUnsortableEntry? entries
  | _ => none

/-- The fault of the first item that has no plain form. -/
def anyUnsortable? : List Value → Option ConversionFault
  | [] => none
  | v :: rest => (unsortable? v).orElse fun _ => anyUnsortable? rest

/-- The fault of the first entry that has no plain form. -/
def anyUnsortableEntry? : List (Value × Value) → Option ConversionFault
  | [] => none
  | (k, v) :: rest =>
    if k.hasLongInteger then some .longInteger
    else (unsortable? v).orElse fun _ => anyUnsortableEntry? rest

end

end FormatterConfig.Value
