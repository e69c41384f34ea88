import FormatterConfig.Yaml.Resolve

set_option autoImplicit false

/-! # Styles of scalars

A scalar is written plain if that leaves no doubt about its text and its tag, else in single quotes
if these can hold it, else in double quotes. A key on one line with its value holds no
line break. -/

namespace FormatterConfig.Yaml

/-- A style of writing a scalar. -/
inductive Style where
  | plain
  | single
  | double
  | literal
  deriving DecidableEq

/-- The characters that end a line inside a scalar. -/
def isScalarBreak (c : Char) : Bool := c == '\n' || c == '\x85' || c == '\u2028' || c == '\u2029'

/-- The characters that set an indicator off from what is beside it. -/
def isGap (c : Char) : Bool := c == '\x00' || c == ' ' || c == '\t' || c == '\r' || isScalarBreak c

/-- Whether a character can stand only in double quotes. -/
def needsEscape (c : Char) : Bool :=
  let n := c.toNat
  !(c == '\n' || (decide (0x20 ≤ n) && decide (n ≤ 0x7E)) ||
    ((n == 0x85 || (decide (0xA0 ≤ n) && decide (n ≤ 0xD7FF)) ||
      (decide (0xE000 ≤ n) && decide (n ≤ 0xFFFD)) ||
      (decide (0x10000 ≤ n) && decide (n < 0x10FFFF))) && n != 0xFEFF))

/-- Whether a text has two neighbouring characters of two sorts. -/
def hasNeighbours (p q : Char → Bool) (cs : List Char) : Bool :=
  (cs.zip cs.tail).any fun (a, b) => p a && q b

/-- Whether a text is empty or starts with a gap. -/
def startsWithGap (cs : List Char) : Bool := cs.head?.all isGap

/-- The characters that a plain scalar never starts with. -/
def leadingIndicators : List Char :=
  ['#', ',', '[', ']', '\x7b', '\x7d', '&', '*', '!', '|', '>', '\x27', '\x22', '%', '@', '\x60']

/-- Whether a text starts like an indicator or like a mark between documents. -/
def startsLikeIndicator (cs : List Char) : Bool :=
  match cs with
  | '-' :: '-' :: '-' :: _ => true
  | '.' :: '.' :: '.' :: _ => true
  | c :: rest => leadingIndicators.contains c || ((c == '?' || c == '-') && startsWithGap rest)
  | [] => false

/-- Whether a text holds the end of a key, or the start of a comment after a gap. -/
def holdsIndicator : List Char → Bool
  | [] => false
  | c :: rest =>
    (c == ':' && startsWithGap rest) || (isGap c && rest.head? == some '#') || holdsIndicator rest

/-- Whether a space or a line break stands at either end of a text. -/
def hasOpenEnd (cs : List Char) : Bool :=
  let isOpen (c : Char) : Bool := c == ' ' || isScalarBreak c
  cs.head?.any isOpen || cs.getLast?.any isOpen

/-- Whether single quotes can hold a text. -/
def fitsSingle (cs : List Char) : Bool :=
  !(cs.any needsEscape || hasNeighbours (· == ' ') isScalarBreak cs ||
    hasNeighbours isScalarBreak (· == ' ') cs)

/-- Whether a text can be written without quotes. -/
def fitsPlain (cs : List Char) : Bool :=
  fitsSingle cs && !(hasOpenEnd cs || cs.any isScalarBreak || startsLikeIndicator cs ||
    holdsIndicator cs)

/-- The style of a scalar with a tag; `keyed` tells that it is a key on one line with its value. -/
def chooseStyle (tag : String) (keyed : Bool) (cs : List Char) : Style :=
  let multiline := cs.any isScalarBreak
  if resolveScalar cs == tag && fitsPlain cs && !(keyed && (cs.isEmpty || multiline)) then .plain
  else if fitsSingle cs && !(keyed && multiline) then .single
  else .double

/-- Whether a tag has to be written, because the style does not tell it. -/
def needsTag (tag : String) (style : Style) (cs : List Char) : Bool :=
  match style with
  | .plain => resolveScalar cs != tag
  | _ => tag != coreTag "str"

end FormatterConfig.Yaml
