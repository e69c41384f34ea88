import FormatterConfig.Decimal.Layout
import FormatterConfig.Decimal.Numeral
import FormatterConfig.Text.Quoted
import FormatterConfig.Value.Basic

set_option autoImplicit false

/-! # Values in messages

How a message shows a value: literals for scalars, brackets around items, braces around entries, and
three dots in brackets where a collection occurs inside itself. A set of integers is shown in
ascending order, any other in the order in which it was filled. -/

namespace FormatterConfig.Value

open FormatterConfig.Text

/-- What stands for a collection inside itself. -/
def ellipsisOf : Value → String
  | .map _ => "\x7b...\x7d"
  | .set _ => "set(...)"
  | _ => "[...]"

mutual

/-- The text of a value inside the collections that are being shown, each by its label and its
ellipsis. -/
def displayWithin (shown : List (Nat × String)) : Value → String
  | .null => "None"
  | .bool b => if b then "True" else "False"
  | .int n => toString n
  | .real x => x.text
  | .text s => quoted s
  | .bytes bs => quotedBytes bs
  | .date d => d.display
  | .time t => t.display
  | .moment m => m.display
  | .choice c => c.display
  | .list items => "[" ++ ", ".intercalate (displayItems shown items) ++ "]"
  | .tuple items =>
    match displayItems shown items with
    | [item] => "(" ++ item ++ ",)"
    | texts => "(" ++ ", ".intercalate texts ++ ")"
  | .set [] => "set()"
  | .set items => "\x7b" ++ ", ".intercalate (displayItems shown items) ++ "\x7d"
  | .map entries => "\x7b" ++ ", ".intercalate (displayEntries shown entries) ++ "\x7d"
  | .knot label body =>
    match shown.find? (·.1 == label) with
    | some (_, ellipsis) => ellipsis
    | none => displayWithin ((label, ellipsisOf body) :: shown) body
  | .again label =>
    match shown.find? (·.1 == label) with
    | some (_, ellipsis) => ellipsis
    | none => "[...]"

/-- The texts of items. -/
def displayItems (shown : List (Nat × String)) : List Value → List String
  | [] => []
  | v :: rest => displayWithin shown v :: displayItems shown rest

/-- The texts of entries. -/
def displayEntries (shown : List (Nat × String)) : List (Value × Value) → List String
  | [] => []
  | (k, v) :: rest =>
    (displayWithin shown k ++ ": " ++ displayWithin shown v) :: displayEntries shown rest

end

/-- How a message shows a value. -/
def display (v : Value) : String := displayWithin [] v

/-- The member of an enumeration that a value is the tag of, or the wording of the refusal. -/
def member (kind : ChoiceKind) (v : Value) : Except String Choice :=
  match v.text?.bind kind.ofTag? with
  | some c => .ok c
  | none => .error (v.display ++ " is not a valid " ++ kind.name)

mutual

/-- Whether a value holds an integer too long to be written out. -/
def hasLongInteger : Value → Bool
  | .int n => Decimal.exceedsDigitLimit n
  | .list items => anyLongInteger items
  | .tuple items => anyLongInteger items
  | .set items => anyLongInteger items
  | .map entries => anyLongEntry entries
  | .knot _ body => hasLongInteger body
  | _ => false

/-- Whether an item holds an integer too long to be written out. -/
def anyLongInteger : List Value → Bool
  | [] => false
  | v :: rest => hasLongInteger v || anyLongInteger rest

/-- Whether an entry holds an integer too long to be written out. -/
def anyLongEntry : List (Value × Value) → Bool
  | [] => false
  | (k, v) :: rest => hasLongInteger k || hasLongInteger v || anyLongEntry rest

end

end FormatterConfig.Value
