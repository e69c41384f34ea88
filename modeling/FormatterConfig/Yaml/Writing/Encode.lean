import FormatterConfig.Text.Base64
import FormatterConfig.Value.Sortable
import FormatterConfig.Yaml.Writing.Scalar

set_option autoImplicit false

/-! # Writing a document

A value is written in block style: an entry a line, two spaces of indentation a level, the entries
of a mapping in their order. A list below a key stands at the key's own indentation. A key that is
empty, long or of several lines is written behind a question mark, and its value behind a colon on a
line of its own. -/

namespace FormatterConfig.Yaml

/-! ## Scalars -/

/-- A scalar: its tag, its text, and whether it is written as a literal if it can be. -/
structure ScalarNode where
  tag : String
  text : List Char
  isLiteral : Bool

/-- The text of a real: its exponent follows a point. -/
def realText (x : Decimal.Binary64) : List Char :=
  if x.isNaN then ".nan".toList
  else if x.isInfinite then (if x.isNegative then "-.inf" else ".inf").toList
  else
    let cs := x.text.toList
    if cs.contains '.' then cs
    else
      let mantissa := cs.takeWhile (· != 'e')
      if mantissa.length = cs.length then cs
      else mantissa ++ ['.', '0'] ++ cs.drop mantissa.length

namespace ScalarNode

/-- A text. -/
def ofText (s : String) : ScalarNode := ⟨coreTag "str", s.toList, false⟩

/-- A scalar with a standard tag. -/
def ofCore (tag : String) (cs : List Char) : ScalarNode := ⟨coreTag tag, cs, false⟩

/-- The scalar of a value that is no collection. -/
def ofValue : Value → ScalarNode
  | .null => ofCore "null" "null".toList
  | .bool b => ofCore "bool" (if b then "true" else "false").toList
  | .int n => ofCore "int" (toString n).toList
  | .real x => ofCore "float" (realText x)
  | .text s => ofText s
  | .bytes bs => ⟨coreTag "binary", Text.encodeBase64 bs, true⟩
  | .date d => ofCore "timestamp" d.isoText.toList
  | .moment m => ofCore "timestamp" (m.isoText " ").toList
  | v => ofText v.keyText

/-- The style of a scalar; a literal has at least one line. -/
def style (node : ScalarNode) (keyed : Bool) : Style :=
  if !node.isLiteral then chooseStyle node.tag keyed node.text
  else if node.text.isEmpty then .double
  else .literal

/-- The short form of a tag. -/
def shortTag (node : ScalarNode) : String :=
  "!!" ++ String.ofList (node.tag.toList.drop coreTagStart.length)

/-- The greatest length of a key, its tag included, on one line with its value. -/
def keyLimit : Nat := 128

/-- Whether a scalar may be a key on one line with its value. -/
def fitsKey (node : ScalarNode) : Bool :=
  decide (node.shortTag.length + node.text.length < keyLimit) && !node.text.isEmpty &&
    !node.text.any isScalarBreak

/-- Writes a scalar below an indentation, its tag in front if the style does not tell it. -/
def write (node : ScalarNode) (out : Output) (indent : Nat) (keyed : Bool) : Output :=
  let style := node.style keyed
  let out := if needsTag node.tag style node.text then out.indicate node.shortTag else out
  writeStyled style ⟨indent, !keyed⟩ out node.text

end ScalarNode

/-! ## Collections -/

/-- The step from one indentation to the next. -/
def indentStep : Nat := 2

mutual

/-- Writes a value below an indentation; `keyed` tells that it is the value of a key. -/
def writeValue (out : Output) (indent : Option Nat) (keyed : Bool) : Value → Output
  | .list [] => out.indicate "[]"
  | .map [] => out.indicate "\x7b\x7d"
  | .list items =>
    let deeper :=
      match indent with
      | none => 0
      | some n => if keyed && !out.indented then n else n + indentStep
    writeItems out deeper items
  | .map entries =>
    let deeper :=
      match indent with
      | none => 0
      | some n => n + indentStep
    writeEntries out deeper entries
  | .knot _ body => writeValue out indent keyed body
  | v => (ScalarNode.ofValue v).write out ((indent.map (· + indentStep)).getD indentStep) false

/-- Writes the items of a list at an indentation. -/
def writeItems (out : Output) (indent : Nat) : List Value → Output
  | [] => out
  | v :: rest =>
    writeItems (writeValue ((out.indentTo indent).openEntry "-") (some indent) false v) indent rest

/-- Writes the entries of a mapping at an indentation. -/
def writeEntries (out : Output) (indent : Nat) : List (Value × Value) → Output
  | [] => out
  | (k, v) :: rest =>
    let key := ScalarNode.ofText k.keyText
    let out := out.indentTo indent
    let out :=
      if key.fitsKey then (key.write out (indent + indentStep) true).attach ":"
      else
        ((key.write (out.openEntry "?") (indent + indentStep) false).indentTo indent).openEntry ":"
    writeEntries (writeValue out (some indent) true v) indent rest

end

/-- Whether a value is written as a plain scalar. -/
def isPlainScalar : Value → Bool
  | .list _ | .map _ | .knot .. => false
  | v => (ScalarNode.ofValue v).style false == .plain

/-- The text of a document that holds a value, a plain one. A document that is a plain scalar has an
end mark. An integer too long to be written out has no text. -/
def encode (v : Value) : Except ConversionFault String :=
  if v.hasLongInteger then .error .longInteger
  else
    let out := (writeValue .empty none false v).indentTo 0
    let out := if isPlainScalar v then (out.indicate "...").indentTo 0 else out
    .ok out.text

end FormatterConfig.Yaml

namespace FormatterConfig

/-- The text of a document that holds the plain value of a value. -/
def Value.yaml (v : Value) : Except ConversionFault String :=
  match v.unsortable? with
  | some fault => .error fault
  | none => if v.hasLongInteger then .error .longInteger else Yaml.encode v.plain

/-- The text of a document that holds a mapping. -/
def Mapping.yaml (m : Mapping) : Except ConversionFault String := (Value.map m).yaml

end FormatterConfig
