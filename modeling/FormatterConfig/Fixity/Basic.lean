import FormatterConfig.Choice
import FormatterConfig.Decimal.Numeral
import FormatterConfig.Text.Numeric
import FormatterConfig.Text.Symbol

set_option autoImplicit false

/-! # Fixities and operator names

The fixity of an operator says which way it associates and how tightly it binds; where it is known
only in part, the direction is missing or the precedence is a range. Operators are named by symbols
or by identifiers. -/

namespace FormatterConfig

/-- What is known of an operator's fixity. -/
structure Fixity where
  direction : Option Direction
  lowest : Int
  highest : Int
  deriving DecidableEq

namespace Fixity

/-- The fixity that a declaration states. -/
def declared (direction : Direction) (precedence : Nat) : Fixity :=
  ⟨some direction, precedence, precedence⟩

/-- How a message shows a fixity. -/
def display (f : Fixity) : String :=
  "FixityInfo(direction=" ++
    (match f.direction with
     | some d => (Choice.direction d).display
     | none => "None") ++
    ", min_precedence=" ++ toString f.lowest ++ ", max_precedence=" ++ toString f.highest ++ ")"

/-- Whether a bound of the precedence is too long to be written out. -/
def hasLongBound (f : Fixity) : Bool :=
  Decimal.exceedsDigitLimit f.lowest || Decimal.exceedsDigitLimit f.highest

end Fixity

/-! ## Names of operators -/

/-- Symbols and punctuation that no operator is written with. -/
def reservedSymbols : List Char :=
  ['(', ')', ',', ';', '[', ']', '\x60', '\x7b', '\x7d', '_', '\x22', '\x27']

/-- Whether an operator may be written with a character. -/
def isOperatorChar (c : Char) : Bool := Text.isSymbol c && !reservedSymbols.contains c

/-- Whether an identifier may go on with a character. -/
def isIdentifierChar (c : Char) : Bool := Text.isAlphanumeric c || c == '_' || c == '\x27'

/-- Whether a name is a run of operator characters. -/
def isSymbolicName (cs : List Char) : Bool := !cs.isEmpty && cs.all isOperatorChar

/-- Whether a name is an identifier. -/
def isIdentifier : List Char → Bool
  | c :: rest => Text.isLetter c && rest.all isIdentifierChar
  | [] => false

/-- Whether a name starts with a letter, and so is written between backticks. -/
def startsWithLetter (cs : List Char) : Bool := cs.head?.any Text.isLetter

end FormatterConfig
