import FormatterConfig.Text.Printable

set_option autoImplicit false

/-! # Quoted texts

How messages show a text: between single quotes, or between double quotes when it holds a single
and no double one. The quote in use and the backslash are escaped, tab and line breaks have names,
other unprintable characters are shown by their code point in hexadecimal, and everything else
stands for itself. Byte strings follow the same rule, with printable ASCII standing for itself and a
`b` in front. -/

namespace FormatterConfig.Text

/-- The character of a value below sixteen, in lower case. -/
def hexDigit (n : Nat) : Char :=
  if n < 10 then Char.ofNat (48 + n) else Char.ofNat (87 + n)

/-- The last `width` hexadecimal digits of a number. -/
def hexDigits : Nat → Nat → List Char
  | 0, _ => []
  | width + 1, n => hexDigits width (n / 16) ++ [hexDigit (n % 16)]

/-- A backslash, a letter and the digits of a code point, as many as its size asks for. -/
def escapeByCode (n : Nat) : List Char :=
  if n < 0x100 then ['\\', 'x'] ++ hexDigits 2 n
  else if n < 0x10000 then ['\\', 'u'] ++ hexDigits 4 n
  else ['\\', 'U'] ++ hexDigits 8 n

/-- The quote to put around a text: single unless only that would have to be escaped. -/
def chooseQuote (cs : List Char) : Char :=
  if cs.contains '\x27' && !cs.contains '\x22' then '\x22' else '\x27'

/-- One character of a quoted text. -/
def quoteChar (quote c : Char) : List Char :=
  if c = quote || c = '\\' then ['\\', c]
  else if c = '\t' then ['\\', 't']
  else if c = '\n' then ['\\', 'n']
  else if c = '\r' then ['\\', 'r']
  else if isPrintable c then [c]
  else escapeByCode c.toNat

/-- The quoted form of a text. -/
def quoteChars (cs : List Char) : List Char :=
  let quote := chooseQuote cs
  quote :: cs.flatMap (quoteChar quote) ++ [quote]

/-- The quoted form of a text. -/
def quoted (s : String) : String := String.ofList (quoteChars s.toList)

/-- The quoted form of one character. -/
def quotedChar (c : Char) : String := String.ofList (quoteChars [c])

/-- One byte of a quoted byte string. -/
def quoteByte (quote : Char) (b : UInt8) : List Char :=
  let c := Char.ofNat b.toNat
  if b.toNat < 0x80 then quoteChar quote c else escapeByCode b.toNat

/-- The quoted form of a byte string. -/
def quotedBytes (bs : List UInt8) : String :=
  let quote := chooseQuote (bs.map fun b => Char.ofNat b.toNat)
  String.ofList ('b' :: quote :: bs.flatMap (quoteByte quote) ++ [quote])

end FormatterConfig.Text
