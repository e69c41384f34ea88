import FormatterConfig.Yaml.Fault

set_option autoImplicit false

/-! # Reading through a document

A cursor is a position in a document together with the text after it. Everything that reads tokens
moves a cursor forward. -/

namespace FormatterConfig.Yaml

/-- A position and the text after it. -/
structure Cursor where
  rest : List Char
  index : Nat
  line : Nat
  column : Nat

namespace Cursor

/-- The start of a text. -/
def ofText (text : List Char) : Cursor := ⟨text, 0, 0, 0⟩

/-- The cursor's position. -/
def mark (c : Cursor) : Mark := ⟨c.index, c.line, c.column⟩

/-- The next character. -/
def peek (c : Cursor) : Option Char := c.rest.head?

/-- The character after `n` more. -/
def peekAt (c : Cursor) (n : Nat) : Option Char := (c.rest.drop n).head?

/-- Moves over one character. A line ends after a break, and after a carriage return that no line
feed follows; a byte order mark takes no column. -/
def next (c : Cursor) : Cursor :=
  match c.rest with
  | [] => c
  | ch :: rest =>
    let ends := (isBreak ch && ch != '\r') || (ch == '\r' && rest.head? != some '\n')
    if ends then ⟨rest, c.index + 1, c.line + 1, 0⟩
    else ⟨rest, c.index + 1, c.line, if ch == '\uFEFF' then c.column else c.column + 1⟩

/-- Moves over `n` characters. -/
def skip : Nat → Cursor → Cursor
  | 0, c => c
  | n + 1, c => skip n c.next

/-- Moves over the characters of a kind. -/
def skipWhile (p : Char → Bool) (c : Cursor) : Cursor := skip (c.rest.takeWhile p).length c

/-- The characters of a kind at the cursor. -/
def run (p : Char → Bool) (c : Cursor) : List Char := c.rest.takeWhile p

end Cursor

/-! ## Classes of characters -/

/-- The end of the text or a line break. -/
def isBreakOrEnd : Option Char → Bool
  | none => true
  | some c => isBreak c

/-- The end of the text, a line break or a space. -/
def isSpaceOrEnd : Option Char → Bool
  | none => true
  | some c => isBreak c || c == ' '

/-- The end of the text, a line break, a space or a tab. -/
def isBlankOrEnd : Option Char → Bool
  | none => true
  | some c => isBreak c || c == ' ' || c == '\t'

/-- The characters of names: ASCII letters and digits, the hyphen and the low line. -/
def isWordCharacter (c : Char) : Bool := c.isAlphanum || c == '-' || c == '_'

/-- The hexadecimal digits. -/
def isHexDigit (c : Char) : Bool :=
  c.isDigit || (decide ('a' ≤ c) && decide (c ≤ 'f')) || (decide ('A' ≤ c) && decide (c ≤ 'F'))

/-- The value of hexadecimal digits. -/
def hexValue (cs : List Char) : Nat :=
  cs.foldl (fun n c => n * 16 + (Decimal.digitValue? c).getD 0) 0

/-- Whether the cursor is at a line that separates documents. -/
def Cursor.atSeparator (c : Cursor) : Bool :=
  (c.rest.take 3 == ['-', '-', '-'] || c.rest.take 3 == ['.', '.', '.']) &&
    isBlankOrEnd (c.peekAt 3)

/-- The line break at the cursor as it is read, and the cursor after it: a separator of lines or
paragraphs stays, any other break is a line feed. -/
def Cursor.lineBreak (c : Cursor) : List Char × Cursor :=
  match c.rest with
  | '\r' :: '\n' :: _ => (['\n'], Cursor.skip 2 c)
  | ch :: _ =>
    if ch == '\u2028' || ch == '\u2029' then ([ch], c.next)
    else if isBreak ch then (['\n'], c.next)
    else ([], c)
  | [] => ([], c)

end FormatterConfig.Yaml
