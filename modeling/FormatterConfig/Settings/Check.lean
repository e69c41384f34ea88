import FormatterConfig.Value.Conversion
import FormatterConfig.Value.Display

set_option autoImplicit false

/-! # Checked reading of values

Values are taken from a mapping by key. A missing key and a null value mean that nothing is given;
any other value must be of the kind asked for, and nothing is converted on the way: a truth value is
no integer and a real never one. -/

namespace FormatterConfig

/-- What a value was expected to be. -/
inductive ExpectedKind where
  | truth
  | integer
  | choiceTag
  | list
  | text
  deriving DecidableEq

/-- The wording of an expected kind. -/
def ExpectedKind.wording : ExpectedKind → String
  | .truth => "bool"
  | .integer => "int"
  | .choiceTag => "string enum value"
  | .list => "list"
  | .text => "string"

/-- Where a value was found: perhaps a scope, a key, and perhaps the number of a list's item. -/
structure Place where
  scope : String
  key : String
  item : Option Nat
  deriving DecidableEq

/-- The wording of a place. -/
def Place.text (p : Place) : String :=
  (if p.scope = "" then p.key else p.scope ++ "." ++ p.key) ++
    (match p.item with
     | some i => "[" ++ toString i ++ "]"
     | none => "")

/-- Why a value is refused. -/
inductive CheckFault where
  | wrongKind (expected : ExpectedKind) (place : Place) (found : Value)
  | belowMinimum (minimum : Int) (place : Place) (found : Int)
  | unknownTag (kind : ChoiceKind) (place : Place) (found : Value)

/-- The wording of a refusal. -/
def CheckFault.message : CheckFault → String
  | .wrongKind expected place found =>
    "Expected " ++ expected.wording ++ " in " ++ place.text ++ ", got " ++ found.kindName ++ ": " ++
      found.display
  | .belowMinimum minimum place found =>
    "Expected int >= " ++ toString minimum ++ " in " ++ place.text ++ ", got " ++ toString found
  | .unknownTag kind place found =>
    "Invalid value for " ++ place.text ++ ": " ++ found.display ++ " (allowed: " ++
      ", ".intercalate (kind.members.map Choice.tag) ++ ")"

/-- Whether the wording of a refusal would show an integer too long to be written out. -/
def CheckFault.isUnwritable : CheckFault → Bool
  | .wrongKind _ _ found => found.hasLongInteger
  | .belowMinimum minimum _ found =>
    Decimal.exceedsDigitLimit minimum || Decimal.exceedsDigitLimit found
  | .unknownTag _ _ found => found.hasLongInteger

/-- A value that is given: neither missing nor null. -/
def Mapping.given? (table : Mapping) (key : String) : Option Value :=
  match table.get? key with
  | some .null => none
  | found => found

/-- The truth value of a key. -/
def checkTruth (table : Mapping) (place : Place) : Except CheckFault (Option Bool) :=
  match table.given? place.key with
  | none => .ok none
  | some (.bool b) => .ok (some b)
  | some v => .error (.wrongKind .truth place v)

/-- The integer of a key, perhaps with a least value. -/
def checkInteger (minimum : Option Int) (table : Mapping) (place : Place) :
    Except CheckFault (Option Int) :=
  match table.given? place.key with
  | none => .ok none
  | some (.int n) =>
    match minimum with
    | some m => if n < m then .error (.belowMinimum m place n) else .ok (some n)
    | none => .ok (some n)
  | some v => .error (.wrongKind .integer place v)

/-- The choice of a key: a choice of the kind itself, or a text that is the tag of one. -/
def checkChoice (kind : ChoiceKind) (table : Mapping) (place : Place) :
    Except CheckFault (Option Choice) :=
  match table.given? place.key with
  | none => .ok none
  | some v =>
    match v.text? with
    | none => .error (.wrongKind .choiceTag place v)
    | some tag =>
      match kind.ofTag? tag with
      | some c => .ok (some c)
      | none => .error (.unknownTag kind place v)

/-- The first item that is no text, with its number. -/
def firstNonText? : (index : Nat) → List Value → Option (Nat × Value)
  | _, [] => none
  | i, v :: rest => if v.isText then firstNonText? (i + 1) rest else some (i, v)

/-- The texts of a key, none if it is not given. -/
def checkTexts (table : Mapping) (place : Place) : Except CheckFault (List Value) :=
  match table.given? place.key with
  | none => .ok []
  | some v =>
    match v.list? with
    | none => .error (.wrongKind .list place v)
    | some items =>
      match firstNonText? 0 items with
      | none => .ok items
      | some (i, item) => .error (.wrongKind .text { place with item := some i } item)

end FormatterConfig
