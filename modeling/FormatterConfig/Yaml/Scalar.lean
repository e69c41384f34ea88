import FormatterConfig.Text.Base64
import FormatterConfig.Text.Cut
import FormatterConfig.Text.LetterCase
import FormatterConfig.Value.Basic
import FormatterConfig.Yaml.Resolve

set_option autoImplicit false

/-! # From the text of a scalar to its value

How the text of a scalar converts under each of the standard tags. A text that a plain scalar
resolved from has the form of its tag; one under an explicit tag may have any, and the faults name
what could not be converted. -/

namespace FormatterConfig.Yaml

open FormatterConfig.Decimal FormatterConfig.Text

/-- Reads an integer in a base. -/
def integerIn (base : Nat) (cs : List Char) : Except ConversionFault Int :=
  match readInteger base cs with
  | .ok n => .ok n
  | .error fault => .error (.ofNumeral base (String.ofList cs) fault)

/-- Reads a real. -/
def realOf (cs : List Char) : Except ConversionFault Binary64 :=
  match readReal? cs with
  | some x => .ok x
  | none => .error (.notReal (String.ofList cs))

/-- Reads each part. -/
def readParts {α : Type} (read : List Char → Except ConversionFault α) :
    List (List Char) → Except ConversionFault (List α)
  | [] => .ok []
  | part :: parts => do
    let x ← read part
    let xs ← readParts read parts
    return x :: xs

/-- The integer of a text: low lines do not count, a marker or a leading zero tells the base, and
parts between colons are in base 60. -/
def convertInteger (cs : List Char) : Except ConversionFault Int := do
  let digits := cs.filter (· != '_')
  if digits.isEmpty then throw .emptyNumber
  let sign : Int := if digits.head? = some '-' then -1 else 1
  let unsigned := withoutSign digits
  match unsigned with
  | [] => throw .emptyNumber
  | ['0'] => return 0
  | '0' :: 'b' :: rest => return sign * (← integerIn 2 rest)
  | '0' :: 'x' :: rest => return sign * (← integerIn 16 rest)
  | '0' :: _ => return sign * (← integerIn 8 unsigned)
  | _ =>
    if unsigned.contains ':' then
      let parts ← readParts (integerIn 10) (cutAt ':' unsigned)
      return sign * parts.foldl (fun n part => n * 60 + part) 0
    else return sign * (← integerIn 10 unsigned)

/-- A natural number as a real. -/
def realOfNat (n : Nat) : Except ConversionFault Binary64 :=
  let x := Binary64.ofDecimal false n 0
  if x.isInfinite then .error .tooLargeForReal else .ok x

/-- Adds parts in base 60 to a sum, the last part first. Every part is taken times its power of 60,
which must be a real even where the part is zero. -/
def addSixties : (power : Nat) → (sum : Float) → List Binary64 → Except ConversionFault Binary64
  | _, sum, [] => .ok (.ofFloat sum)
  | power, sum, part :: rest => do
    let factor ← realOfNat power
    addSixties (power * 60) (sum + part.toFloat * factor.toFloat) rest

/-- The real of a text. The word for "not a number" stands for one that all texts share; what else
is none has the number `own`. -/
def convertReal (own : Nat) (cs : List Char) : Except ConversionFault Binary64 := do
  let digits := lowerCase (cs.filter (· != '_'))
  if digits.isEmpty then throw .emptyNumber
  let signed (x : Binary64) : Binary64 :=
    if x.isNaN then Binary64.nanNumbered own
    else if digits.head? = some '-' then x.negate
    else x
  let unsigned := withoutSign digits
  if unsigned = ['.', 'i', 'n', 'f'] then return signed Binary64.infinity
  else if unsigned = ['.', 'n', 'a', 'n'] then return Binary64.nan
  else if unsigned.contains ':' then
    let parts ← readParts realOf (cutAt ':' unsigned)
    return signed (← addSixties 1 0.0 parts.reverse)
  else return signed (← realOf unsigned)

/-- The truth value of a word, in any case. -/
def convertTruth (cs : List Char) : Except ConversionFault Bool :=
  let word := String.ofList (lowerCase cs)
  if ["yes", "true", "on"].contains word then .ok true
  else if ["no", "false", "off"].contains word then .ok false
  else .error (.notTruthValue word)

/-- The number that digits denote. -/
def digitsValue (cs : List Char) : Nat := cs.foldl (fun n d => n * 10 + (d.toNat - 48)) 0

/-- The seconds of an offset. -/
def offsetSeconds (negative : Bool) (hours minutes : List Char) : Int :=
  let seconds : Int := digitsValue hours * 3600 + digitsValue minutes * 60
  if negative then -seconds else seconds

/-- The date or moment of a text; of the digits after a point six count. -/
def convertTimestamp (cs : List Char) : Except ConversionFault Value := do
  let some parts := readDateParts? (withoutFinalBreak cs) | throw .notTimestamp
  let date : Calendar.Date :=
    ⟨digitsValue parts.year, digitsValue parts.month, digitsValue parts.day⟩
  match parts.time with
  | none =>
    (date.check).mapError .calendar
    return .date date
  | some (hour, minute, second, fraction) =>
    let offset := parts.offset.map fun (negative, hours, minutes) =>
      offsetSeconds negative hours minutes
    if let some seconds := offset then (Calendar.checkOffset seconds).mapError .calendar
    let six := (fraction ++ List.replicate 6 '0').take 6
    let time : Calendar.TimeOfDay :=
      ⟨digitsValue hour, digitsValue minute, digitsValue second, digitsValue six⟩
    (date.check).mapError .calendar
    (time.check).mapError .calendar
    return .moment ⟨date, time, offset⟩

/-- The stretch of characters that ASCII lacks, in the words of a message. -/
def notAsciiMessage (cs : List Char) : Option String :=
  let before := cs.takeWhile (·.toNat < 0x80)
  match cs.drop before.length with
  | [] => none
  | c :: rest =>
    let more := (rest.takeWhile fun c => !decide (c.toNat < 0x80)).length
    let stretch :=
      if more = 0 then
        "character '" ++ String.ofList (escapeByCode c.toNat) ++ "' in position " ++
          toString before.length
      else
        "characters in position " ++ toString before.length ++ "-" ++
          toString (before.length + more)
    some ("'ascii' codec can't encode " ++ stretch ++ ": ordinal not in range(128)")

/-- The bytes of a text in base 64. -/
def convertBinary (cs : List Char) : Except Problem (List UInt8) :=
  match notAsciiMessage cs with
  | some message => .error (.notAscii message)
  | none =>
    match decodeBase64 cs with
    | .ok bytes => .ok bytes
    | .error fault => .error (.base64 fault)

/-- The value of a scalar under a tag; its mark serves for reports, and the number `own` tells what
is "not a number" apart from others. -/
def convertScalar (tag : String) (mark : Mark) (own : Nat) (text : String) : Except Error Value :=
  let cs := text.toList
  if tag = coreTag "str" then .ok (.text text)
  else if tag = coreTag "null" then .ok .null
  else if tag = coreTag "bool" then ((convertTruth cs).map .bool).mapError .conversion
  else if tag = coreTag "int" then ((convertInteger cs).map .int).mapError .conversion
  else if tag = coreTag "float" then ((convertReal own cs).map .real).mapError .conversion
  else if tag = coreTag "timestamp" then (convertTimestamp cs).mapError .conversion
  else if tag = coreTag "binary" then ((convertBinary cs).map .bytes).mapError (.at mark)
  else .error (.at mark (.unknownTag tag))

end FormatterConfig.Yaml
