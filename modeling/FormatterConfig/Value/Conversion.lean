import FormatterConfig.Calendar.Basic
import FormatterConfig.Decimal.Numeral
import FormatterConfig.Text.Quoted

set_option autoImplicit false

/-! # Failed conversions

A scalar that a document marks as a number, a truth value or a date, and whose text is none; and a
value that has no written form. These faults carry no position; they say which text could not be
converted, which part of a date does not exist, or which items of a set have no order. -/

namespace FormatterConfig

/-- Why a text could not be converted into a value, or a value into a text. -/
inductive ConversionFault where
  /-- No integer in the base. -/
  | notInteger (base : Nat) (text : String)
  /-- A decimal integer with more digits than are converted. -/
  | tooManyDigits (count : Nat)
  /-- An integer with more digits than are written out. -/
  | longInteger
  | notReal (text : String)
  /-- An integer beyond the largest real. -/
  | tooLargeForReal
  /-- A number without any character. -/
  | emptyNumber
  | notTruthValue (text : String)
  | notTimestamp
  /-- A mapping in the place of a date, although one of its keys has a text for it. -/
  | timestampInMapping
  | calendar (fault : Calendar.Fault)
  /-- A number beyond the last code point. -/
  | notCodePoint
  /-- A code point that is no character and that no text here can hold. -/
  | surrogate
  /-- Two values of a set, by the names of their kinds, neither of which comes first. -/
  | notOrdered (left right : String)
  /-- Two moments of which only one has a known offset. -/
  | mixedOffsets
  | dateAndMoment
  deriving DecidableEq

/-- The wording for a decimal integer of too many digits. -/
def tooManyDigitsMessage (count : Nat) : String :=
  "Exceeds the limit (" ++ toString Decimal.digitLimit ++
    " digits) for integer string conversion: value has " ++ toString count ++
    " digits; use sys.set_int_max_str_digits() to increase the limit"

/-- The wording of a fault; a text that is no integer is quoted up to 200 characters. -/
def ConversionFault.message : ConversionFault → String
  | .notInteger base text =>
    "invalid literal for int() with base " ++ toString base ++ ": " ++
      String.ofList ((Text.quoteChars text.toList).take 200)
  | .tooManyDigits count => tooManyDigitsMessage count
  | .longInteger =>
    "Exceeds the limit (" ++ toString Decimal.digitLimit ++
      " digits) for integer string conversion; use sys.set_int_max_str_digits() to increase the " ++
      "limit"
  | .tooLargeForReal => "int too large to convert to float"
  | .notReal text => "could not convert string to float: " ++ Text.quoted text
  | .emptyNumber => "string index out of range"
  | .notTruthValue text => Text.quoted text
  | .notTimestamp => "'NoneType' object has no attribute 'groupdict'"
  | .timestampInMapping => "expected string or bytes-like object, got 'list'"
  | .calendar fault => fault.message
  | .notCodePoint => "chr() arg not in range(0x110000)"
  | .surrogate => "surrogates not allowed"
  | .notOrdered left right =>
    "'<' not supported between instances of '" ++ left ++ "' and '" ++ right ++ "'"
  | .mixedOffsets => "can't compare offset-naive and offset-aware datetimes"
  | .dateAndMoment => "can't compare datetime.datetime to datetime.date"

/-- The decimal form of an integer, which one of too many digits does not have. -/
def writeInteger (n : Int) : Except ConversionFault String :=
  if Decimal.exceedsDigitLimit n then .error .longInteger else .ok (toString n)

/-- The fault of a numeral that could not be read. -/
def ConversionFault.ofNumeral (base : Nat) (text : String) : Decimal.NumeralFault → ConversionFault
  | .malformed => .notInteger base text
  | .tooManyDigits count => .tooManyDigits count

end FormatterConfig
