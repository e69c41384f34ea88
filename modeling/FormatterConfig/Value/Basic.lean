import FormatterConfig.Calendar.Basic
import FormatterConfig.Choice
import FormatterConfig.Decimal.Binary64

set_option autoImplicit false

/-! # Decoded values

What a document holds once it is decoded, and what a caller may pass in its place: scalars, members
of enumerations, and collections. A mapping is the list of its entries in order. A document may hold
a collection that contains itself; such a collection is a `knot` with a number, and the places where
it occurs again inside itself are `again` with that number, so that every value is a finite tree.
`Value.unroll` looks one step into a knot. -/

namespace FormatterConfig

open Calendar Decimal

/-- A decoded value. -/
inductive Value where
  | null
  | bool (b : Bool)
  | int (n : Int)
  | real (x : Binary64)
  | text (s : String)
  | bytes (bs : List UInt8)
  | date (d : Date)
  | time (t : TimeOfDay)
  | moment (m : Moment)
  | choice (c : Choice)
  | list (items : List Value)
  | tuple (items : List Value)
  | set (items : List Value)
  | map (entries : List (Value × Value))
  | knot (label : Nat) (body : Value)
  | again (label : Nat)

instance : Inhabited Value := ⟨.null⟩

/-- A mapping from values to values, in order. -/
abbrev Mapping := List (Value × Value)

namespace Value

/-! ## Self-containing collections -/

mutual

/-- A value with the places that repeat the collection `label` replaced by that collection. -/
def plug (label : Nat) (whole : Value) : Value → Value
  | .list items => .list (plugItems label whole items)
  | .tuple items => .tuple (plugItems label whole items)
  | .set items => .set (plugItems label whole items)
  | .map entries => .map (plugEntries label whole entries)
  | .knot l body => if l = label then .knot l body else .knot l (plug label whole body)
  | .again l => if l = label then whole else .again l
  | v => v

/-- `plug` on each item. -/
def plugItems (label : Nat) (whole : Value) : List Value → List Value
  | [] => []
  | v :: rest => plug label whole v :: plugItems label whole rest

/-- `plug` on each key and value. -/
def plugEntries (label : Nat) (whole : Value) : List (Value × Value) → List (Value × Value)
  | [] => []
  | (k, v) :: rest => (plug label whole k, plug label whole v) :: plugEntries label whole rest

end

/-- The value itself, without the knot around it. -/
def unroll : Value → Value
  | .knot label body => plug label (.knot label body) body
  | v => v

/-! ## Kinds -/

/-- The name of a value's kind in messages. -/
def kindName : Value → String
  | .null => "NoneType"
  | .bool _ => "bool"
  | .int _ => "int"
  | .real _ => "float"
  | .text _ => "str"
  | .bytes _ => "bytes"
  | .date _ => "date"
  | .time _ => "time"
  | .moment _ => "datetime"
  | .choice c => c.kind.name
  | .list _ => "list"
  | .tuple _ => "tuple"
  | .set _ => "set"
  | .map _ => "dict"
  | .knot _ body => body.kindName
  | .again _ => "list"

/-- The full name of a value's kind. -/
def fullKindName : Value → String
  | .date d => "datetime." ++ (Value.date d).kindName
  | .time t => "datetime." ++ (Value.time t).kindName
  | .moment m => "datetime." ++ (Value.moment m).kindName
  | v => v.kindName

/-- The text of a value that is one; a choice counts as its tag. -/
def text? : Value → Option String
  | .text s => some s
  | .choice c => some c.tag
  | _ => none

/-- Whether a value is a text. -/
def isText (v : Value) : Bool := v.text?.isSome

/-- The items of a list. -/
def list? (v : Value) : Option (List Value) :=
  match v.unroll with
  | .list items => some items
  | _ => none

/-- The entries of a mapping. -/
def map? (v : Value) : Option Mapping :=
  match v.unroll with
  | .map entries => some entries
  | _ => none

/-- Whether a value is a list. -/
def isList (v : Value) : Bool := v.list?.isSome

/-- Whether a value is a list of texts. -/
def isTextList (v : Value) : Bool :=
  match v.list? with
  | some items => items.all isText
  | none => false

/-- Whether a value is a mapping whose keys are all texts. -/
def isTextMapping (v : Value) : Bool :=
  match v.map? with
  | some entries => entries.all (·.1.isText)
  | none => false

@[simp] theorem unroll_list (items : List Value) : (Value.list items).unroll = .list items := rfl

@[simp] theorem unroll_map (entries : Mapping) : (Value.map entries).unroll = .map entries := rfl

@[simp] theorem list?_list (items : List Value) : (Value.list items).list? = some items := rfl

@[simp] theorem map?_map (entries : Mapping) : (Value.map entries).map? = some entries := rfl

/-! ## Keys

Two keys of a mapping are one key when their forms agree: numbers by their value whatever their
kind, truth values as 0 and 1, choices as their tags, moments with a known offset by the instant.
One "not a number" is the same key as another only if their bits agree. What may not be a key has no
form. -/

/-- A piece of a key's form; a tuple's form is those of its items between brackets. -/
inductive KeyPiece where
  | null
  | integer (n : Int)
  | real (bits : UInt64)
  | text (s : String)
  | bytes (bs : List UInt8)
  | date (d : Date)
  | time (t : TimeOfDay)
  | localMoment (microseconds : Int)
  | instant (microseconds : Int)
  | opened
  | closed
  deriving DecidableEq

mutual

/-- The form of a key. -/
def keyForm? : Value → Option (List KeyPiece)
  | .null => some [.null]
  | .bool b => some [.integer (if b then 1 else 0)]
  | .int n => some [.integer n]
  | .real x =>
    match x.toInt? with
    | some n => some [.integer n]
    | none => some [.real x.bits]
  | .text s => some [.text s]
  | .bytes bs => some [.bytes bs]
  | .date d => some [.date d]
  | .time t => some [.time t]
  | .moment m =>
    some [if m.offset.isSome then .instant m.microseconds else .localMoment m.microseconds]
  | .choice c => some [.text c.tag]
  | .tuple items => (keyForms? items).map fun form => .opened :: form ++ [.closed]
  | _ => none

/-- The forms of a tuple's items, one after the other. -/
def keyForms? : List Value → Option (List KeyPiece)
  | [] => some []
  | v :: rest =>
    match keyForm? v, keyForms? rest with
    | some form, some forms => some (form ++ forms)
    | _, _ => none

end

mutual

/-- What keeps a value from being a key: a collection that is no tuple, by itself or in a tuple. -/
def unhashable? : Value → Option Value
  | .tuple items => firstUnhashable? items
  | .list items => some (.list items)
  | .set items => some (.set items)
  | .map entries => some (.map entries)
  | .knot label body => some (.knot label body)
  | .again label => some (.again label)
  | _ => none

/-- What keeps the first of some items that may not be a key from being one. -/
def firstUnhashable? : List Value → Option Value
  | [] => none
  | v :: rest => (unhashable? v).orElse fun _ => firstUnhashable? rest

end

/-- Whether two keys are one key. -/
def sameKey (a b : Value) : Bool :=
  match a.keyForm? with
  | some form => b.keyForm? == some form
  | none => false

end Value

/-! ## Mappings -/

namespace Mapping

/-- The value of a key. -/
def find? (m : Mapping) (key : Value) : Option Value :=
  (List.find? (fun e => e.1.sameKey key) m).map (·.2)

/-- The value of a text key. -/
def get? (m : Mapping) (key : String) : Option Value := m.find? (.text key)

/-- Sets the value of a key: an entry that is there keeps its key and place. -/
def insert (m : Mapping) (key value : Value) : Mapping :=
  match m with
  | [] => [(key, value)]
  | (k, v) :: rest =>
    if k.sameKey key then (k, value) :: rest else (k, v) :: Mapping.insert rest key value

/-- The mapping of a list of pairs, the last value of a key winning. -/
def ofList (pairs : List (Value × Value)) : Mapping :=
  pairs.foldl (fun m e => m.insert e.1 e.2) []

end Mapping

/-! ## Equality of values

Scalars are equal as keys are; collections are equal item by item, mappings and sets whatever their
order. -/

namespace Value

mutual

/-- Whether two values are equal. -/
def same : Value → Value → Bool
  | .list xs, .list ys => sameItems xs ys
  | .tuple xs, .tuple ys => sameItems xs ys
  | .set xs, .set ys => xs.length == ys.length && xs.all fun x => ys.any (x.sameKey ·)
  | .map xs, .map ys => xs.length == ys.length && sameEntries xs ys
  | .knot i x, .knot j y => i == j && same x y
  | .again i, .again j => i == j
  | x, y => x.sameKey y

/-- Whether two lists of items are equal one by one. -/
def sameItems : List Value → List Value → Bool
  | [], [] => true
  | x :: xs, y :: ys => same x y && sameItems xs ys
  | _, _ => false

/-- Whether each entry has an equal one in a mapping. -/
def sameEntries : List (Value × Value) → Mapping → Bool
  | [], _ => true
  | (k, v) :: rest, ys =>
    (match List.find? (fun e => e.1.sameKey k) ys with
     | some e => same v e.2
     | none => false) && sameEntries rest ys

end

end Value

end FormatterConfig
