import FormatterConfig.Decimal.Binary64
import FormatterConfig.Text.Blank
import FormatterConfig.Text.Numeric

set_option autoImplicit false

/-! # Reading numerals

Integers and reals as people write them: white space around, a sign, digits of any script with
single low lines between them; a base marker in front of the digits where the base has one; for
reals a point and an exponent, or the words for infinity and "not a number". A decimal integer is
read up to 4300 digits and no further. -/

namespace FormatterConfig.Decimal

open FormatterConfig.Text

/-- The most decimal digits that are converted between text and integer. -/
def digitLimit : Nat := 4300

/-- Why a text is no integer. -/
inductive NumeralFault where
  | malformed
  | tooManyDigits (count : Nat)
  deriving DecidableEq

/-- The value of a digit or letter in bases up to 36. -/
def digitValue? (c : Char) : Option Nat :=
  if '0' ≤ c ∧ c ≤ '9' then some (c.toNat - 48)
  else if 'a' ≤ c ∧ c ≤ 'z' then some (c.toNat - 87)
  else if 'A' ≤ c ∧ c ≤ 'Z' then some (c.toNat - 55)
  else none

/-- The ASCII form of a text: decimal digits of other scripts become `0` to `9`, other white space
becomes a blank, and what is neither becomes a question mark. -/
def asciiForm (cs : List Char) : List Char :=
  cs.map fun c =>
    if c.toNat < 0x7F then c
    else if isBlank c then ' '
    else
      match decimalValue? c with
      | some v => Char.ofNat (48 + v)
      | none => '?'

/-- White space that may stand around an ASCII numeral. -/
def isPadding (c : Char) : Bool := c == ' ' || (decide ('\t' ≤ c) && decide (c ≤ '\r'))

/-- A sign in front and the rest. -/
def splitSign : List Char → Bool × List Char
  | '-' :: rest => (true, rest)
  | '+' :: rest => (false, rest)
  | cs => (false, cs)

/-- Reads digits of a base with single low lines between them, as far as they go: their value, their
number, whether a low line is misplaced, and the rest. -/
def scanDigits (base : Nat) : (value count : Nat) → (afterLine : Bool) → List Char →
    Nat × Nat × Bool × List Char
  | value, count, afterLine, [] => (value, count, afterLine, [])
  | value, count, afterLine, c :: rest =>
    if c = '_' then
      if afterLine then (value, count, true, c :: rest) else scanDigits base value count true rest
    else
      match digitValue? c with
      | some d =>
        if d < base then scanDigits base (value * base + d) (count + 1) false rest
        else (value, count, afterLine, c :: rest)
      | none => (value, count, afterLine, c :: rest)

/-- The digits after a base marker, and after a low line that follows the marker. -/
def dropBaseMarker (base : Nat) (cs : List Char) : List Char :=
  let marked (lower upper : Char) : List Char :=
    match cs with
    | '0' :: m :: rest =>
      if m = lower ∨ m = upper then
        match rest with
        | '_' :: digits => digits
        | _ => rest
      else cs
    | _ => cs
  if base = 16 then marked 'x' 'X'
  else if base = 8 then marked 'o' 'O'
  else if base = 2 then marked 'b' 'B'
  else cs

/-- The integer that a text denotes in a base. Only bases that are no power of two limit the number
of digits. -/
def readInteger (base : Nat) (cs : List Char) : Except NumeralFault Int :=
  let trimmed := (asciiForm cs).dropWhile isPadding
  let (negative, unsigned) := splitSign trimmed
  let (value, count, misplaced, rest) := scanDigits base 0 0 true (dropBaseMarker base unsigned)
  if misplaced then .error .malformed
  else if base = 10 ∧ digitLimit < count then .error (.tooManyDigits count)
  else if rest.all isPadding then .ok (if negative then -(value : Int) else value)
  else .error .malformed

/-- Whether an integer has more decimal digits than are written out. -/
def exceedsDigitLimit (n : Int) : Bool := decide (Nat.pow 10 digitLimit ≤ n.natAbs)

theorem exceedsDigitLimit_iff {n : Int} :
    exceedsDigitLimit n = true ↔ Nat.pow 10 digitLimit ≤ n.natAbs :=
  decide_eq_true_iff

/-- An integer of few digits is written out. -/
theorem exceedsDigitLimit_of_lt {n : Int} {count : Nat} (hcount : count ≤ digitLimit)
    (h : n.natAbs < Nat.pow 10 count) : exceedsDigitLimit n = false := by
  have hpow : ∀ limit, count ≤ limit → Nat.pow 10 count ≤ Nat.pow 10 limit := fun _ =>
    Nat.pow_le_pow_right (Nat.succ_pos 9)
  exact decide_eq_false (Nat.not_le.2 (Nat.lt_of_lt_of_le h (hpow _ hcount)))

/-- Digits with single low lines between them: value, count, and the rest; a low line that does not
stand between two digits is left in the rest. -/
def scanDecimals : (value count : Nat) → List Char → Nat × Nat × List Char
  | value, count, '_' :: c :: rest =>
    if 0 < count ∧ c.isDigit then scanDecimals (value * 10 + (c.toNat - 48)) (count + 1) rest
    else (value, count, '_' :: c :: rest)
  | value, count, c :: rest =>
    if c.isDigit then scanDecimals (value * 10 + (c.toNat - 48)) (count + 1) rest
    else (value, count, c :: rest)
  | value, count, [] => (value, count, [])

/-- Reads an unsigned real: digits, perhaps a point and more digits, perhaps an exponent. -/
def readUnsignedReal? (negative : Bool) (cs : List Char) : Option Binary64 :=
  let (whole, wholeCount, afterWhole) := scanDecimals 0 0 cs
  let (digits, fractionCount, afterFraction) :=
    match afterWhole with
    | '.' :: rest =>
      let (value, count, rest) := scanDecimals 0 0 rest
      (whole * Nat.pow 10 count + value, count, rest)
    | _ => (whole, 0, afterWhole)
  if wholeCount + fractionCount = 0 then none
  else
    match afterFraction with
    | [] => some (Binary64.ofDecimal negative digits (-(fractionCount : Int)))
    | e :: rest =>
      if e = 'e' ∨ e = 'E' then
        let (down, unsigned) := splitSign rest
        let (power, count, rest) := scanDecimals 0 0 unsigned
        if count = 0 ∨ rest ≠ [] then none
        else
          let power : Int := if down then -(power : Int) else power
          some (Binary64.ofDecimal negative digits (power - fractionCount))
      else none

/-- The real that a text denotes. -/
def readReal? (cs : List Char) : Option Binary64 :=
  let trimmed := (((asciiForm cs).dropWhile isPadding).reverse.dropWhile isPadding).reverse
  let (negative, unsigned) := splitSign trimmed
  let word := String.ofList (unsigned.map Char.toLower)
  let signed (x : Binary64) : Binary64 := if negative then x.negate else x
  if word = "inf" ∨ word = "infinity" then some (signed Binary64.infinity)
  else if word = "nan" then some (signed Binary64.nan)
  else readUnsignedReal? negative unsigned

end FormatterConfig.Decimal
