import FormatterConfig.Value.Basic

set_option autoImplicit false

/-! # The order of a set's items

A set keeps its items in a table of slots. An item goes into the first free slot of a fixed sequence
that its hash begins, and the items are read off slot by slot, so that their order depends on their
hashes and on the size of the table. Numbers and tuples of numbers have hashes that follow from
their values; a set with any other item keeps its items in the order in which they came. -/

namespace FormatterConfig

open Decimal

/-! ## Hashes -/

namespace Hash

/-- The prime that the hashes of numbers are taken by. -/
def modulus : Nat := Nat.pow 2 61 - 1

/-- The hash of a number with a sign and the residue of its magnitude. The hash -1 is not used. -/
def signed (negative : Bool) (residue : Nat) : UInt64 :=
  if negative then (if residue = 1 then 0 - 2 else 0 - UInt64.ofNat residue)
  else UInt64.ofNat residue

/-- The hash of an integer. -/
def ofInteger (n : Int) : UInt64 := signed (decide (n < 0)) (n.natAbs % modulus)

/-- The hash of a real: that of the integer if it is one. Two to the 61st is congruent to one, so an
exponent counts by its residue. -/
def ofReal? (x : Binary64) : Option UInt64 :=
  if x.isNaN then none
  else if x.isInfinite then some (signed x.isNegative 314159)
  else
    let power := Nat.pow 2 (x.exponent % 61).toNat
    some (signed x.isNegative (x.significand % modulus * power % modulus))

def firstPrime : UInt64 := 11400714785074694791
def secondPrime : UInt64 := 14029467366897019727
def fifthPrime : UInt64 := 2870177450012600261

/-- Mixes the hash of one more item into that of a tuple. -/
def mix (sum hash : UInt64) : UInt64 :=
  let sum := sum + hash * secondPrime
  ((sum <<< 31) ||| (sum >>> 33)) * firstPrime

/-- The hash of a tuple whose items have been mixed. -/
def finish (sum : UInt64) (length : Nat) : UInt64 :=
  let sum := sum + (UInt64.ofNat length ^^^ (fifthPrime ^^^ 3527539))
  if sum = 0 - 1 then 1546275796 else sum

mutual

/-- The hash of a value, where it follows from the value alone. -/
def ofValue? : Value → Option UInt64
  | .bool b => some (if b then 1 else 0)
  | .int n => some (ofInteger n)
  | .real x => ofReal? x
  | .tuple items => (mixItems? fifthPrime items).map fun sum => finish sum items.length
  | _ => none

/-- Mixes the hashes of items. -/
def mixItems? (sum : UInt64) : List Value → Option UInt64
  | [] => some sum
  | v :: rest => (ofValue? v).bind fun hash => mixItems? (mix sum hash) rest

end

end Hash

/-! ## Slots -/

/-- A table of slots, some of them taken by an item with its hash. -/
abbrev Slots := Array (Option (UInt64 × Value))

namespace Slots

/-- The number of slots of the smallest table. -/
def smallest : Nat := 8

/-- The number of slots of the smallest table that has more than `n`. -/
def sizeAbove (n : Nat) : Nat := if n < smallest then smallest else Nat.pow 2 (Nat.log2 n + 1)

/-- A table of free slots. -/
def free (size : Nat) : Slots := Array.replicate size none

/-- How many slots after the first one are tried in a row, where the table has that many. -/
def rowLength : Nat := 9

/-- The first free slot in a row that begins at a slot. -/
def freeInRow? (slots : Slots) (start : Nat) : Option Nat :=
  let count := if start + rowLength < slots.size then rowLength + 1 else 1
  ((List.range count).map (start + ·)).find? fun i => (slots.getD i none).isNone

/-- The slot for a hash: the rows that are tried begin at slots that depend on ever higher digits of
the hash. Once the digits are used up every slot begins a row in turn, so `fuel` need not exceed the
number of slots by more than the number of digits. -/
def slotFor (slots : Slots) : (fuel : Nat) → (perturbation : UInt64) → (start : Nat) → Nat
  | 0, _, start => start
  | fuel + 1, perturbation, start =>
    match slots.freeInRow? start with
    | some i => i
    | none =>
      let perturbation := perturbation >>> 5
      slotFor slots fuel perturbation ((start * 5 + 1 + perturbation.toNat) % slots.size)

/-- Puts an item into its slot. -/
def put (slots : Slots) (entry : UInt64 × Value) : Slots :=
  let start := entry.1.toNat % slots.size
  slots.setIfInBounds (slots.slotFor (slots.size + 64) entry.1 start) (some entry)

/-- The items slot by slot, with their hashes. -/
def entries (slots : Slots) : List (UInt64 × Value) := slots.toList.filterMap id

/-- The same items in a larger table. -/
def grow (slots : Slots) (size : Nat) : Slots := slots.entries.foldl put (free size)

/-- Puts items into a table that holds `count` items. Once three fifths of it are taken it grows. -/
def fill : (count : Nat) → Slots → List (UInt64 × Value) → Slots
  | _, slots, [] => slots
  | count, slots, entry :: rest =>
    let slots := slots.put entry
    let count := count + 1
    let slots :=
      if count * 5 < (slots.size - 1) * 3 then slots
      else slots.grow (sizeAbove (if 50000 < count then count * 2 else count * 4))
    fill count slots rest

end Slots

/-! ## Sets -/

namespace Value

/-- Distinct items in the order of a table that has some number of slots at first. -/
def inTableOrder (size : Nat) (items : List Value) : List Value :=
  match items.mapM Hash.ofValue? with
  | some hashes => (Slots.fill 0 (.free size) (hashes.zip items)).entries.map (·.2)
  | none => items

/-- Items without those that repeat an earlier one. -/
def distinct (items : List Value) : List Value :=
  (Mapping.ofList (items.map fun v => (v, .null))).map (·.1)

/-- The set of some items, put into it one by one. -/
def setOf (items : List Value) : Value := .set (inTableOrder Slots.smallest (distinct items))

/-- The set of the keys of a mapping, put into it all at once: the table is as large as their number
asks for from the start. -/
def setOfKeys (keys : List Value) : Value :=
  let items := distinct keys
  let size :=
    if items.length * 5 < (Slots.smallest - 1) * 3 then Slots.smallest
    else Slots.sizeAbove (items.length * 2)
  .set (inTableOrder size items)

end Value

end FormatterConfig
