import FormatterConfig.Decimal.Numeral
import FormatterConfig.Toml.Quoted
import FormatterConfig.Value.Basic

set_option autoImplicit false

/-! # Numbers and dates

Integers in four bases and reals, with single low lines between digits, and dates, times of day and
moments. What starts like a date or a time is one or nothing. -/

namespace FormatterConfig.Toml

open Calendar

/-! ## Numbers -/

/-- Digits with single low lines between them, as far as they go, without the low lines. -/
def moreDigits (isDigit : Char → Bool) : List Char → List Char × List Char
  | '_' :: c :: rest =>
    if isDigit c then
      let (ds, rest) := moreDigits isDigit rest
      (c :: ds, rest)
    else ([], '_' :: c :: rest)
  | c :: rest =>
    if isDigit c then
      let (ds, rest) := moreDigits isDigit rest
      (c :: ds, rest)
    else ([], c :: rest)
  | [] => ([], [])

/-- A run of at least one digit. -/
def readDigits (isDigit : Char → Bool) (cs : List Char) : Option (List Char × List Char) :=
  match cs with
  | c :: rest =>
    if isDigit c then
      let (ds, rest) := moreDigits isDigit rest
      some (c :: ds, rest)
    else none
  | [] => none

/-- Whether a character is a digit of a base. -/
def isDigitOf (base : Nat) (c : Char) : Bool := (hexValue? c).any fun d => decide (d < base)

/-- The number that digits of a base denote. -/
def numberOf (base : Nat) (digits : List Char) : Nat :=
  digits.foldl (fun n c => n * base + (hexValue? c).getD 0) 0

/-- An integer behind the marker of its base. -/
def readBased (base : Nat) (cs : List Char) : Option (Value × List Char) := do
  let (digits, rest) ← readDigits (isDigitOf base) cs
  return (.int (numberOf base digits), rest)

/-- The integer part of a decimal number: no zero comes first but a zero alone. -/
def readWhole : List Char → Option (List Char × List Char)
  | '0' :: rest => some (['0'], rest)
  | cs => readDigits Char.isDigit cs

/-- The point and the digits behind it, if they are there. -/
def readFraction (cs : List Char) : List Char × List Char :=
  match cs with
  | '.' :: rest =>
    match readDigits Char.isDigit rest with
    | some (ds, rest) => ('.' :: ds, rest)
    | none => ([], cs)
  | _ => ([], cs)

/-- The exponent, if it is there. -/
def readExponent (cs : List Char) : List Char × List Char :=
  match cs with
  | e :: rest =>
    if e = 'e' ∨ e = 'E' then
      let (sign, digits) :=
        match rest with
        | '+' :: digits => (['+'], digits)
        | '-' :: digits => (['-'], digits)
        | digits => ([], digits)
      match readDigits Char.isDigit digits with
      | some (ds, rest) => ('e' :: sign ++ ds, rest)
      | none => ([], cs)
    else ([], cs)
  | [] => ([], cs)

/-- A decimal number behind its sign: an integer, or a real if it has a fraction or an exponent. -/
def readDecimal (sign : List Char) (cs : List Char) : Option (Value × List Char) := do
  let (whole, rest) ← readWhole cs
  let (fraction, rest) := readFraction rest
  let (exponent, rest) := readExponent rest
  let text := sign ++ whole ++ fraction ++ exponent
  if fraction.isEmpty && exponent.isEmpty then
    match Decimal.readInteger 10 text with
    | .ok n => some (.int n, rest)
    | .error _ => none
  else (Decimal.readReal? text).map fun x => (.real x, rest)

/-- A number behind its sign, or one of the words for infinity and "not a number". -/
def readSigned (sign : List Char) (cs : List Char) : Option (Value × List Char) :=
  let word := cs.take 3
  if word = ['i', 'n', 'f'] ∨ word = ['n', 'a', 'n'] then
    (Decimal.readReal? (sign ++ word)).map fun x => (.real x, cs.drop 3)
  else readDecimal sign cs

/-- A number. -/
def readNumber : List Char → Option (Value × List Char)
  | '0' :: 'x' :: rest => readBased 16 rest
  | '0' :: 'o' :: rest => readBased 8 rest
  | '0' :: 'b' :: rest => readBased 2 rest
  | '+' :: rest => readSigned ['+'] rest
  | '-' :: rest => readSigned ['-'] rest
  | cs => readSigned [] cs

/-! ## Dates and times -/

/-- A number of a given count of digits. -/
def readFixed (width : Nat) (cs : List Char) : Option (Nat × List Char) :=
  let digits := cs.take width
  if digits.length = width ∧ digits.all Char.isDigit then
    some (numberOf 10 digits, cs.drop width)
  else none

/-- The rest behind a given character. -/
def expectChar (c : Char) : List Char → Option (List Char)
  | d :: rest => if d = c then some rest else none
  | [] => none

/-- A date that exists. -/
def readDate (cs : List Char) : Option (Date × List Char) := do
  let (year, cs) ← readFixed 4 cs
  let cs ← expectChar '-' cs
  let (month, cs) ← readFixed 2 cs
  let cs ← expectChar '-' cs
  let (day, cs) ← readFixed 2 cs
  let date : Date := ⟨year, month, day⟩
  match date.check with
  | .ok _ => some (date, cs)
  | .error _ => none

/-- The digits behind a point as microseconds; those past the sixth are passed over. -/
def readMicroseconds (cs : List Char) : Nat × List Char :=
  match cs with
  | '.' :: rest =>
    let digits := rest.takeWhile Char.isDigit
    if digits.isEmpty then (0, cs)
    else
      let six := digits.take 6
      (numberOf 10 (six ++ List.replicate (6 - six.length) '0'), rest.drop digits.length)
  | _ => (0, cs)

/-- A time of day. -/
def readTime (cs : List Char) : Option (TimeOfDay × List Char) := do
  let (hour, cs) ← readFixed 2 cs
  let cs ← expectChar ':' cs
  let (minute, cs) ← readFixed 2 cs
  let cs ← expectChar ':' cs
  let (second, cs) ← readFixed 2 cs
  let (microsecond, rest) := readMicroseconds cs
  let time : TimeOfDay := ⟨hour, minute, second, microsecond⟩
  match time.check with
  | .ok _ => some (time, rest)
  | .error _ => none

/-- The hours and minutes of an offset, in seconds. -/
def readOffsetSize (cs : List Char) : Option (Int × List Char) := do
  let (hours, cs) ← readFixed 2 cs
  let cs ← expectChar ':' cs
  let (minutes, cs) ← readFixed 2 cs
  if hours < 24 ∧ minutes < 60 then some (hours * 3600 + minutes * 60, cs) else none

/-- The offset of a moment, if it is there. -/
def readOffset (cs : List Char) : Option Int × List Char :=
  match cs with
  | c :: rest =>
    if c = 'Z' ∨ c = 'z' then (some 0, rest)
    else if c = '+' ∨ c = '-' then
      match readOffsetSize rest with
      | some (seconds, rest) => (some (if c = '-' then -seconds else seconds), rest)
      | none => (none, cs)
    else (none, cs)
  | [] => (none, cs)

/-- A date, or a moment if a time of day follows. -/
def readDateOrMoment (cs : List Char) : Option (Value × List Char) := do
  let (date, cs) ← readDate cs
  let time :=
    match cs with
    | c :: rest => if c = 'T' ∨ c = 't' ∨ c = ' ' then readTime rest else none
    | [] => none
  match time with
  | none => return (.date date, cs)
  | some (time, rest) =>
    let (offset, rest) := readOffset rest
    return (.moment ⟨date, time, offset⟩, rest)

/-- A value that is neither quoted nor made of others. -/
def readBare (cs : List Char) : Option (Value × List Char) :=
  let digits := (cs.take 5).takeWhile Char.isDigit
  let next := (cs.drop digits.length).head?
  if digits.length = 4 ∧ next = some '-' then readDateOrMoment cs
  else if digits.length = 2 ∧ next = some ':' then
    (readTime cs).map fun (time, rest) => (.time time, rest)
  else if "true".toList.isPrefixOf cs then some (.bool true, cs.drop 4)
  else if "false".toList.isPrefixOf cs then some (.bool false, cs.drop 5)
  else readNumber cs

end FormatterConfig.Toml
