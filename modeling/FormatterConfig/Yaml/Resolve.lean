import FormatterConfig.Yaml.Cursor

set_option autoImplicit false

/-! # What an untagged scalar is

A plain scalar without a tag is a truth value, a number, null, a date or one of two marks if its
text has the form of one, and a text otherwise. The forms are those of version 1.1: numbers may hold
low lines and parts of base 60, and a real needs its point. A form may be followed by one
line feed. -/

namespace FormatterConfig.Yaml

/-- The common start of the standard tags. -/
def coreTagStart : String := "tag:yaml.org,2002:"

/-- A standard tag. -/
def coreTag (name : String) : String := coreTagStart ++ name

/-! ## Forms of numbers -/

/-- A text without its sign. -/
def withoutSign : List Char → List Char
  | '-' :: rest => rest
  | '+' :: rest => rest
  | cs => cs

/-- A decimal digit or a low line. -/
def isDigitOrLine (c : Char) : Bool := c.isDigit || c == '_'

/-- What follows the integer part of a number: a digit, then digits and low lines. -/
def afterInteger? : List Char → Option (List Char)
  | c :: rest => if c.isDigit then some (rest.dropWhile isDigitOrLine) else none
  | [] => none

/-- What follows parts of base 60, of which there must be at least one. -/
def afterSixties? : (fuel : Nat) → List Char → Option (List Char)
  | 0, _ => none
  | fuel + 1, ':' :: a :: b :: rest =>
    if a.isDigit && a ≤ '5' && b.isDigit then
      some ((afterSixties? fuel rest).getD rest)
    else if a.isDigit then some ((afterSixties? fuel (b :: rest)).getD (b :: rest))
    else none
  | _ + 1, [':', a] => if a.isDigit then some [] else none
  | _ + 1, _ => none

/-- An exponent with a sign, or nothing. -/
def isExponentOrNothing : List Char → Bool
  | [] => true
  | e :: s :: d :: rest =>
    (e == 'e' || e == 'E') && (s == '-' || s == '+') && (d :: rest).all Char.isDigit
  | _ => false

/-- The forms of reals. -/
def isRealForm (cs : List Char) : Bool :=
  let unsigned := withoutSign cs
  let withPoint :=
    match afterInteger? unsigned with
    | some ('.' :: rest) => isExponentOrNothing (rest.dropWhile isDigitOrLine)
    | _ => false
  let fraction :=
    match cs with
    | '.' :: rest =>
      match afterInteger? rest with
      | some rest => isExponentOrNothing rest
      | none => false
    | _ => false
  let sixties :=
    match afterInteger? unsigned with
    | some rest =>
      match afterSixties? (rest.length + 1) rest with
      | some ('.' :: rest) => rest.all isDigitOrLine
      | _ => false
    | none => false
  withPoint || fraction || sixties ||
    [".inf", ".Inf", ".INF"].any (·.toList == unsigned) ||
    [".nan", ".NaN", ".NAN"].any (·.toList == cs)

/-- Whether a text is not empty and all of one kind of characters. -/
def isRunOf (p : Char → Bool) (cs : List Char) : Bool := !cs.isEmpty && cs.all p

/-- The forms of integers. -/
def isIntegerForm (cs : List Char) : Bool :=
  match withoutSign cs with
  | ['0'] => true
  | '0' :: 'b' :: digits => isRunOf (fun c => c == '0' || c == '1' || c == '_') digits
  | '0' :: 'x' :: digits => isRunOf (fun c => isHexDigit c || c == '_') digits
  | '0' :: digits => digits.all fun c => (c.isDigit && c ≤ '7') || c == '_'
  | c :: rest =>
    c.isDigit &&
      (match rest.dropWhile isDigitOrLine with
       | [] => true
       | tail => afterSixties? (tail.length + 1) tail == some [])
  | [] => false

/-! ## Forms of dates -/

/-- The parts of a date or moment as they are written. -/
structure DateParts where
  year : List Char
  month : List Char
  day : List Char
  /-- Hour, minute, second, and the digits after a point. -/
  time : Option (List Char × List Char × List Char × List Char)
  /-- Whether the offset is negative, its hours and its minutes. -/
  offset : Option (Bool × List Char × List Char)

/-- Takes between `least` and `most` digits, as many as there are. -/
def takeDigits? (least most : Nat) (cs : List Char) : Option (List Char × List Char) :=
  let ds := (cs.take most).takeWhile Char.isDigit
  if least ≤ ds.length then some (ds, cs.drop ds.length) else none

/-- Takes a given character. -/
def takeChar? (c : Char) : List Char → Option (List Char)
  | d :: rest => if d = c then some rest else none
  | [] => none

/-- A space or a tab. -/
def isSpaceOrTab (c : Char) : Bool := c == ' ' || c == '\t'

/-- The offset of a moment; nothing may be left after it. -/
def readOffset? (cs : List Char) : Option (Option (Bool × List Char × List Char)) :=
  match cs.dropWhile isSpaceOrTab with
  | [] => if cs.isEmpty then some none else none
  | ['Z'] => some (some (false, ['0'], []))
  | s :: rest =>
    if s = '-' ∨ s = '+' then do
      let (hours, rest) ← takeDigits? 1 2 rest
      match rest with
      | [] => some (some (s == '-', hours, []))
      | ':' :: rest => do
        let (minutes, rest) ← takeDigits? 2 2 rest
        if rest.isEmpty then some (some (s == '-', hours, minutes)) else none
      | _ => none
    else none

/-- The date at the start of a text and what follows. -/
def readDate? (cs : List Char) : Option (DateParts × List Char) := do
  let (year, cs) ← takeDigits? 4 4 cs
  let cs ← takeChar? '-' cs
  let (month, cs) ← takeDigits? 1 2 cs
  let cs ← takeChar? '-' cs
  let (day, cs) ← takeDigits? 1 2 cs
  return (⟨year, month, day, none, none⟩, cs)

/-- The parts of a date or moment. -/
def readDateParts? (cs : List Char) : Option DateParts := do
  let (parts, cs) ← readDate? cs
  match cs with
  | [] => return parts
  | sep :: rest =>
    let cs ←
      if sep = 'T' ∨ sep = 't' then some rest
      else if isSpaceOrTab sep then some (rest.dropWhile isSpaceOrTab)
      else none
    let (hour, cs) ← takeDigits? 1 2 cs
    let cs ← takeChar? ':' cs
    let (minute, cs) ← takeDigits? 2 2 cs
    let cs ← takeChar? ':' cs
    let (second, cs) ← takeDigits? 2 2 cs
    let (fraction, cs) :=
      match cs with
      | '.' :: rest => (rest.takeWhile Char.isDigit, rest.dropWhile Char.isDigit)
      | _ => ([], cs)
    let offset ← readOffset? cs
    return { parts with time := some (hour, minute, second, fraction), offset := offset }

/-- The forms of dates and moments: a date alone has two digits of month and day. -/
def isDateForm (cs : List Char) : Bool :=
  match readDateParts? cs with
  | some parts => parts.time.isSome || (parts.month.length == 2 && parts.day.length == 2)
  | none => false

/-! ## The tag of a scalar -/

/-- The words for truth values. -/
def truthWords : List String :=
  ["yes", "Yes", "YES", "no", "No", "NO", "true", "True", "TRUE", "false", "False", "FALSE",
    "on", "On", "ON", "off", "Off", "OFF"]

/-- A text without one line feed at its end. -/
def withoutFinalBreak (cs : List Char) : List Char :=
  if cs.getLast? = some '\n' then cs.dropLast else cs

/-- The tag of a plain scalar. -/
def resolveScalar (cs : List Char) : String :=
  if cs.isEmpty then coreTag "null"
  else
    let form := withoutFinalBreak cs
    if truthWords.any (·.toList == form) then coreTag "bool"
    else if isRealForm form then coreTag "float"
    else if isIntegerForm form then coreTag "int"
    else if form == ['<', '<'] then coreTag "merge"
    else if ["~", "null", "Null", "NULL"].any (·.toList == form) then coreTag "null"
    else if isDateForm form then coreTag "timestamp"
    else if form == ['='] then coreTag "value"
    else if [['!'], ['&'], ['*']].contains form then coreTag "yaml"
    else coreTag "str"

end FormatterConfig.Yaml
