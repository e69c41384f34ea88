import FormatterConfig.Decimal.Numeral
import FormatterConfig.Fixity.Basic
import FormatterConfig.Fixity.Report
import FormatterConfig.Log.Record
import FormatterConfig.Value.Conversion

set_option autoImplicit false

/-! # Fixity declarations

A declaration is a keyword, blanks, a precedence from 0 to 9, blanks, and operators separated by
commas; an identifier stands between backticks. Reading goes from left to right and never back, and
a declaration that cannot be read is refused at the first place that no declaration goes on from,
with what could stand there. Writing one operator's fixity gives a declaration of it. -/

namespace FormatterConfig.Declaration

/-- What could stand at a place. -/
inductive Expected where
  | keyword (d : Direction)
  | whiteSpace
  | integer
  | backtick
  | operatorCharacter
  | identifierCharacter
  | letter
  | comma
  | endOfInput
  deriving DecidableEq

/-- The wording of what could stand at a place. -/
def Expected.text : Expected → String
  | .keyword d => "\"" ++ (Choice.direction d).tag ++ "\""
  | .whiteSpace => "white space"
  | .integer => "integer"
  | .backtick => "'`'"
  | .operatorCharacter => "operator character"
  | .identifierCharacter => "identifier character"
  | .letter => "letter"
  | .comma => "','"
  | .endOfInput => "end of input"

/-- What is wrong at a place. -/
inductive Problem where
  | unexpected (wanted : List Expected)
  | precedenceTooLarge
  deriving DecidableEq

/-- A refusal: the text from the place on, and what is wrong there. -/
structure Stop where
  rest : List Char
  problem : Problem
  deriving DecidableEq

/-- Why a text is no declaration that can be read. -/
inductive Failure where
  | malformed (stop : Stop)
  | tooManyDigits (count : Nat)
  deriving DecidableEq

/-- A refusal because nothing wanted stands at a place. -/
def refuse {α : Type} (rest : List Char) (wanted : List Expected) : Except Failure α :=
  .error (.malformed ⟨rest, .unexpected wanted⟩)

/-- The greatest precedence. -/
def maxPrecedence : Nat := 9

/-- A space or a tab. -/
def isHorizontalSpace (c : Char) : Bool := c == ' ' || c == '\t'

/-- A text without the keyword it starts with. -/
def dropKeyword? (keyword cs : List Char) : Option (List Char) :=
  if keyword.isPrefixOf cs then some (cs.drop keyword.length) else none

/-- Reads the keyword; the longer ones are tried first. -/
def readDirection (cs : List Char) : Except Failure (Direction × List Char) :=
  let attempt (d : Direction) : Option (Direction × List Char) :=
    (dropKeyword? (Choice.direction d).tag.toList cs).map fun rest => (d, rest)
  match attempt .left <|> attempt .right <|> attempt .neither with
  | some found => .ok found
  | none => refuse cs [.keyword .neither, .keyword .left, .keyword .right]

/-- Passes over blanks, of which there must be one. -/
def readBlanks (cs : List Char) : Except Failure (List Char) :=
  match cs with
  | c :: rest =>
    if isHorizontalSpace c then .ok (rest.dropWhile isHorizontalSpace) else refuse cs [.whiteSpace]
  | [] => refuse cs [.whiteSpace]

/-- The number that decimal digits denote. -/
def precedenceOf (digits : List Char) : Nat := digits.foldl (fun n d => n * 10 + (d.toNat - 48)) 0

/-- Reads the precedence. -/
def readPrecedence (cs : List Char) : Except Failure (Nat × List Char) :=
  let digits := cs.takeWhile Char.isDigit
  if digits.isEmpty then refuse cs [.integer]
  else if Decimal.digitLimit < digits.length then .error (.tooManyDigits digits.length)
  else if maxPrecedence < precedenceOf digits then .error (.malformed ⟨cs, .precedenceTooLarge⟩)
  else .ok (precedenceOf digits, cs.dropWhile Char.isDigit)

/-- Reads an identifier and the backtick after it. -/
def readIdentifier (cs : List Char) : Except Failure (List Char × List Char) :=
  match cs with
  | c :: rest =>
    if Text.isLetter c then
      match rest.dropWhile isIdentifierChar with
      | '\x60' :: after => .ok (c :: rest.takeWhile isIdentifierChar, after)
      | after => refuse after [.backtick, .identifierCharacter]
    else refuse cs [.letter]
  | [] => refuse cs [.letter]

/-- Reads an operator. -/
def readOperator (cs : List Char) : Except Failure (List Char × List Char) :=
  match cs with
  | '\x60' :: rest => readIdentifier rest
  | _ =>
    let symbols := cs.takeWhile isOperatorChar
    if symbols.isEmpty then refuse cs [.backtick, .operatorCharacter]
    else .ok (symbols, cs.dropWhile isOperatorChar)

/-- Reads operators separated by commas; each takes at least one character, so the length of the
text bounds their number. -/
def readOperators : (fuel : Nat) → List Char → Except Failure (List String × List Char)
  | 0, cs => refuse cs [.backtick, .operatorCharacter]
  | fuel + 1, cs => do
    let (name, rest) ← readOperator cs
    match rest with
    | ',' :: rest => do
      let (names, rest) ← readOperators fuel (rest.dropWhile isHorizontalSpace)
      return (String.ofList name :: names, rest)
    | rest => return ([String.ofList name], rest)

/-- Reads a declaration: its direction, its precedence and its operators in order. -/
def parts (cs : List Char) : Except Failure (Direction × Nat × List String) := do
  let (direction, rest) ← readDirection cs
  let rest ← readBlanks rest
  let (precedence, rest) ← readPrecedence rest
  let rest ← readBlanks rest
  let (names, rest) ← readOperators (rest.length + 1) rest
  let rest := rest.dropWhile isHorizontalSpace
  if rest.isEmpty then return (direction, precedence, names)
  else refuse rest [.comma, .endOfInput]

/-- The operators of a declaration with their fixity, in order and with repetitions. -/
def parse (text : String) : Except Failure (List (String × Fixity)) :=
  (parts text.toList).map fun (direction, precedence, names) =>
    names.map fun name => (name, Fixity.declared direction precedence)

/-! ## Reports -/

/-- The place of a refusal, counted from the start of the text. -/
def Stop.offset (text : String) (s : Stop) : Nat := text.length - s.rest.length

/-- The report of a refusal. -/
def Stop.report (text : String) (s : Stop) : Report :=
  match s.problem with
  | .unexpected wanted =>
    { source := text
      offset := s.offset text
      unexpected := some (match s.rest with
        | c :: _ => Text.quotedChar c
        | [] => "end of input")
      expecting := wanted.map Expected.text
      reason := none }
  | .precedenceTooLarge =>
    { source := text
      offset := s.offset text
      unexpected := none
      expecting := []
      reason := some ("precedence should not be greater than " ++ toString maxPrecedence) }

/-! ## Writing -/

/-- Why a fixity has no declaration. -/
inductive Unwritable where
  /-- Its direction is unknown or its precedence is a range. -/
  | unstated (name : String) (fixity : Fixity)
  /-- A bound of its precedence is too long to be written out. -/
  | longBound
  deriving DecidableEq

/-- The wording for a fixity without a declaration. -/
def Unwritable.message : Unwritable → String
  | .unstated name fixity =>
    "Fixity of " ++ Text.quoted name ++ " cannot be written as a declaration: " ++ fixity.display
  | .longBound => ConversionFault.longInteger.message

/-- An operator as a declaration writes it. -/
def operatorText (name : String) : String :=
  if startsWithLetter name.toList then "`" ++ name ++ "`" else name

/-- The declaration of an operator's fixity. It shows the bounds of the precedence, and so does the
wording if there is none. -/
def write (name : String) (f : Fixity) : Except Unwritable String :=
  if f.hasLongBound then .error .longBound
  else
    match f.direction with
    | some d =>
      if f.lowest = f.highest then
        .ok ((Choice.direction d).tag ++ " " ++ toString f.lowest ++ " " ++ operatorText name)
      else .error (.unstated name f)
    | none => .error (.unstated name f)

/-! ## Records -/

/-- The logger of the reader. -/
def loggerName : String := "fourmolu_config.fixity.parser"

/-- How a message shows operators with their fixities. -/
def displayPairs (pairs : List (String × Fixity)) : String :=
  "[" ++ ", ".intercalate (pairs.map fun (name, f) =>
    "(" ++ Text.quoted name ++ ", " ++ f.display ++ ")") ++ "]"

/-- Reads a declaration and notes what was read. -/
def parseLogged (text : String) : Logged Failure (List (String × Fixity)) := do
  let pairs ← Logged.ofExcept (parse text)
  Logged.note .trace loggerName
    ("Parsed fixity declaration " ++ Text.quoted text ++ " -> " ++ displayPairs pairs)
  return pairs

end FormatterConfig.Declaration
