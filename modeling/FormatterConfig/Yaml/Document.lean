import FormatterConfig.Yaml.Graph.Reader
import FormatterConfig.Yaml.Graph.Value

set_option autoImplicit false

/-! # Decoding a document

A text is a document if all its characters are acceptable, its tokens follow the grammar, and its
nodes convert. A text without a document stands for null. -/

namespace FormatterConfig.Yaml

/-- Whether a character may occur in a document. -/
def isAcceptable (c : Char) : Bool :=
  let n := c.toNat
  c == '\t' || c == '\n' || c == '\r' || (decide (0x20 ≤ n) && decide (n ≤ 0x7E)) || n == 0x85 ||
    (decide (0xA0 ≤ n) && decide (n ≤ 0xD7FF)) || (decide (0xE000 ≤ n) && decide (n ≤ 0xFFFD)) ||
    decide (0x10000 ≤ n)

/-- The first character that may not occur, with its position. -/
def firstUnacceptable? (text : List Char) : Option (Char × Nat) :=
  let before := text.takeWhile isAcceptable
  (text.drop before.length).head?.map fun c => (c, before.length)

/-- Decodes a text. -/
def decode (text : List Char) : Except Error Value := do
  if let some (c, position) := firstUnacceptable? text then throw (.unacceptable c position)
  let (graph, root) ← Graph.ofTokens (Token.scan text)
  match root with
  | some root => graph.value root
  | none => return .null

end FormatterConfig.Yaml
