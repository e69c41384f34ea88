set_option autoImplicit false

/-! # Quoted texts

A text stands in apostrophes, and then holds itself, or in quotation marks, and then may hold
escapes. Tripled, either kind of mark may hold line ends too. Control characters other than the tab
are refused. Each reader takes what follows the opening mark, and gives the text and the rest. -/

namespace FormatterConfig.Toml

/-- A space or a tab. -/
def isSpace (c : Char) : Bool := c == ' ' || c == '\t'

/-- A space, a tab or a line end. -/
def isSpaceOrEnd (c : Char) : Bool := isSpace c || c == '\n'

/-- The characters that may not stand in a line. -/
def isIllegal (c : Char) : Bool := (decide (c.toNat < 0x20) || c.toNat == 0x7F) && c != '\t'

/-- The apostrophe. -/
def apostrophe : Char := '\x27'

/-- The quotation mark. -/
def quotationMark : Char := '\x22'

/-- Up to two marks in front of a text; they belong to the text whose closing marks they follow. -/
def extraMarks (mark : Char) : List Char → List Char × List Char
  | a :: b :: rest =>
    if a = mark then if b = mark then ([a, b], rest) else ([a], b :: rest) else ([], a :: b :: rest)
  | [a] => if a = mark then ([a], []) else ([], [a])
  | [] => ([], [])

/-- A text without a line end in front of it. -/
def dropFirstEnd : List Char → List Char
  | '\n' :: rest => rest
  | cs => cs

/-! ## In apostrophes -/

/-- A text in apostrophes. -/
def readLiteral (cs : List Char) : Option (List Char × List Char) :=
  let body := cs.takeWhile (· != apostrophe)
  match cs.drop body.length with
  | _ :: rest => if body.any isIllegal then none else some (body, rest)
  | [] => none

/-- What comes before three marks, and what after. -/
def untilTriple (mark : Char) : List Char → Option (List Char × List Char)
  | a :: b :: c :: rest =>
    if a = mark ∧ b = mark ∧ c = mark then some ([], rest)
    else (untilTriple mark (b :: c :: rest)).map fun (body, rest) => (a :: body, rest)
  | _ => none

/-- A text in tripled apostrophes. -/
def readLongLiteral (cs : List Char) : Option (List Char × List Char) := do
  let (body, rest) ← untilTriple apostrophe (dropFirstEnd cs)
  if body.any fun c => isIllegal c && c != '\n' then none
  else
    let (extra, rest) := extraMarks apostrophe rest
    some (body ++ extra, rest)

/-! ## In quotation marks -/

/-- The value of a hexadecimal digit. -/
def hexValue? (c : Char) : Option Nat :=
  if '0' ≤ c ∧ c ≤ '9' then some (c.toNat - 48)
  else if 'a' ≤ c ∧ c ≤ 'f' then some (c.toNat - 87)
  else if 'A' ≤ c ∧ c ≤ 'F' then some (c.toNat - 55)
  else none

/-- The character whose code point the next digits give. -/
def readCodePoint (width : Nat) (cs : List Char) : Option (List Char × List Char) := do
  let digits ← (cs.take width).mapM hexValue?
  let n := digits.foldl (fun n d => n * 16 + d) 0
  if digits.length = width ∧ n.isValidChar then some ([Char.ofNat n], cs.drop width) else none

/-- The escapes of single characters. -/
def shortEscapes : List (Char × Char) :=
  [('b', '\x08'), ('t', '\t'), ('n', '\n'), ('f', '\x0c'), ('r', '\r'),
    (quotationMark, quotationMark), ('\\', '\\')]

/-- The escape behind a backslash. In a long text, a backslash at the end of a line passes over the
line end and all white space after it. -/
def readEscape (long : Bool) : List Char → Option (List Char × List Char)
  | [] => none
  | c :: rest =>
    if long && isSpaceOrEnd c then
      match (c :: rest).dropWhile isSpace with
      | [] => some ([], [])
      | '\n' :: rest => some ([], rest.dropWhile isSpaceOrEnd)
      | _ => none
    else if c = 'u' then readCodePoint 4 rest
    else if c = 'U' then readCodePoint 8 rest
    else (shortEscapes.find? (·.1 == c)).map fun e => ([e.2], rest)

/-- Whether a text starts with the marks that close a text in quotation marks. -/
def closing? (long : Bool) : List Char → Option (List Char)
  | a :: rest =>
    if a != quotationMark then none
    else if !long then some rest
    else
      match rest with
      | b :: c :: rest => if b == quotationMark && c == quotationMark then some rest else none
      | _ => none
  | [] => none

/-- A text in quotation marks; each step reads at least one character, so the length of the text
bounds their number. -/
def readBasicFrom (long : Bool) : (fuel : Nat) → List Char → Option (List Char × List Char)
  | 0, _ => none
  | _ + 1, [] => none
  | fuel + 1, c :: rest =>
    match closing? long (c :: rest) with
    | some rest => some ([], rest)
    | none =>
      if c = '\\' then do
        let (cs, rest) ← readEscape long rest
        let (body, rest) ← readBasicFrom long fuel rest
        return (cs ++ body, rest)
      else if isIllegal c && !(long && c == '\n') then none
      else do
        let (body, rest) ← readBasicFrom long fuel rest
        return (c :: body, rest)

/-- A text in quotation marks. -/
def readBasic (cs : List Char) : Option (List Char × List Char) :=
  readBasicFrom false (cs.length + 1) cs

/-- A text in tripled quotation marks. -/
def readLongBasic (cs : List Char) : Option (List Char × List Char) := do
  let (body, rest) ← readBasicFrom true (cs.length + 1) (dropFirstEnd cs)
  let (extra, rest) := extraMarks quotationMark rest
  return (body ++ extra, rest)

/-- A text in either kind of marks, perhaps tripled. -/
def readQuoted (cs : List Char) : Option (List Char × List Char) :=
  match cs with
  | a :: b :: c :: rest =>
    if a = apostrophe then
      if b = apostrophe ∧ c = apostrophe then readLongLiteral rest else readLiteral (b :: c :: rest)
    else if b = quotationMark ∧ c = quotationMark then readLongBasic rest
    else readBasic (b :: c :: rest)
  | a :: rest => if a = apostrophe then readLiteral rest else readBasic rest
  | [] => none

/-- Whether a character opens a quoted text. -/
def isMark (c : Char) : Bool := c == apostrophe || c == quotationMark

end FormatterConfig.Toml
