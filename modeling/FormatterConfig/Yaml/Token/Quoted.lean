import FormatterConfig.Yaml.Cursor
import FormatterConfig.Yaml.Token.Basic

set_option autoImplicit false

/-! # Quoted scalars

Between single quotes only a doubled quote stands for something else; between double quotes a
backslash starts an escape, and at a line's end joins it with the next. Line breaks fold: one break
is a space, more of them are one line feed fewer. -/

namespace FormatterConfig.Yaml

/-- What a letter after a backslash stands for. -/
def escapeReplacement? (c : Char) : Option Char :=
  match c with
  | '0' => some '\x00'
  | 'a' => some '\x07'
  | 'b' => some '\x08'
  | 't' => some '\t'
  | '\t' => some '\t'
  | 'n' => some '\n'
  | 'v' => some '\x0b'
  | 'f' => some '\x0c'
  | 'r' => some '\r'
  | 'e' => some '\x1b'
  | ' ' => some ' '
  | '\x22' => some '\x22'
  | '\\' => some '\\'
  | '/' => some '/'
  | 'N' => some '\x85'
  | '_' => some '\xa0'
  | 'L' => some '\u2028'
  | 'P' => some '\u2029'
  | _ => none

/-- How many digits the code point after an escape letter has. -/
def escapeWidth? (c : Char) : Option Nat :=
  match c with
  | 'x' => some 2
  | 'u' => some 4
  | 'U' => some 8
  | _ => none

/-- Whether a code point is half of a pair that stands for one character elsewhere. -/
def isSurrogate (n : Nat) : Bool := decide (0xD800 ≤ n) && decide (n ≤ 0xDFFF)

/-- A part of a scalar's text and the cursor after it. -/
abbrev Chunk := List Char × Cursor

/-- Line breaks after the first one of a fold, and blanks around them. -/
def quotedBreaks (start : Mark) : (fuel : Nat) → List Char → Cursor → Except Error Chunk
  | 0, found, c => .ok (found, c)
  | fuel + 1, found, c =>
    if c.atSeparator then .error (.within .quotedScalar start c.mark .documentSeparator)
    else
      let c := c.skipWhile fun ch => ch == ' ' || ch == '\t'
      match c.lineBreak with
      | ([], _) => .ok (found, c)
      | (br, c) => quotedBreaks start fuel (found ++ br) c

/-- Blanks and line breaks inside a quoted scalar: blanks within a line stay, breaks fold. -/
def quotedSpaces (start : Mark) (c : Cursor) : Except Error Chunk := do
  let blanks := c.run fun ch => ch == ' ' || ch == '\t'
  let c := c.skip blanks.length
  match c.rest with
  | [] => .error (.within .quotedScalar start c.mark .endOfStream)
  | _ =>
    match c.lineBreak with
    | ([], _) => return (blanks, c)
    | (br, c) =>
      let (breaks, c) ← quotedBreaks start (c.rest.length + 1) [] c
      if br ≠ ['\n'] then return (br ++ breaks, c)
      else if breaks.isEmpty then return ([' '], c)
      else return (breaks, c)

/-- An escape, with the cursor after its backslash. -/
def quotedEscape (start : Mark) (c : Cursor) : Except Error Chunk :=
  match c.rest with
  | [] => .error (.within .doubleQuotedScalar start c.mark (.unknownEscape none))
  | ch :: _ =>
    match escapeReplacement? ch with
    | some r => .ok ([r], c.next)
    | none =>
      match escapeWidth? ch with
      | some width =>
        let c := c.next
        let digits := (c.rest.take width).takeWhile isHexDigit
        if digits.length < width then
          .error (.within .doubleQuotedScalar start c.mark
            (.unexpected (.escapeDigits width) (c.peekAt digits.length)))
        else if 0x10FFFF < hexValue digits then .error (.conversion .notCodePoint)
        else if isSurrogate (hexValue digits) then .error (.conversion .surrogate)
        else .ok ([Char.ofNat (hexValue digits)], c.skip width)
      | none =>
        match c.lineBreak with
        | ([], _) => .error (.within .doubleQuotedScalar start c.mark (.unknownEscape (some ch)))
        | (_, c) => quotedBreaks start (c.rest.length + 1) [] c

/-- Whether a character may need attention inside a quoted scalar. -/
def isQuotedSpecial (c : Char) : Bool :=
  c == '\x27' || c == '\x22' || c == '\\' || c == ' ' || c == '\t' || isBreak c

/-- The text up to a blank, a break, the end or the closing quote. -/
def quotedText (double : Bool) (start : Mark) : (fuel : Nat) → List Char → Cursor →
    Except Error Chunk
  | 0, found, c => .ok (found, c)
  | fuel + 1, found, c => do
    let plain := c.run fun ch => !isQuotedSpecial ch
    let found := found ++ plain
    let c := c.skip plain.length
    match c.peek with
    | some '\x27' =>
      if double then quotedText double start fuel (found ++ ['\x27']) c.next
      else if c.peekAt 1 = some '\x27' then
        quotedText double start fuel (found ++ ['\x27']) (c.skip 2)
      else return (found, c)
    | some '\x22' =>
      if double then return (found, c)
      else quotedText double start fuel (found ++ ['\x22']) c.next
    | some '\\' =>
      if double then
        let (escaped, c) ← quotedEscape start c.next
        quotedText double start fuel (found ++ escaped) c
      else quotedText double start fuel (found ++ ['\\']) c.next
    | _ => return (found, c)

/-- The rest of a quoted scalar after its first stretch of text. -/
def quotedRest (double : Bool) (start : Mark) : (fuel : Nat) → List Char → Cursor →
    Except Error Chunk
  | 0, found, c => .ok (found, c)
  | fuel + 1, found, c =>
    if c.peek = some (if double then '\x22' else '\x27') then .ok (found, c.next)
    else do
      let (spaces, c) ← quotedSpaces start c
      let (text, c) ← quotedText double start (c.rest.length + 1) [] c
      quotedRest double start fuel (found ++ spaces ++ text) c

/-- Reads a quoted scalar; the cursor is at its opening quote. -/
def scanQuoted (double : Bool) (c : Cursor) : Except Error (Token × Cursor) := do
  let start := c.mark
  let c := c.next
  let (first, c) ← quotedText double start (c.rest.length + 1) [] c
  let (text, c) ← quotedRest double start (c.rest.length + 1) first c
  return (⟨.scalar (String.ofList text) .quoted, start, c.mark⟩, c)

end FormatterConfig.Yaml
