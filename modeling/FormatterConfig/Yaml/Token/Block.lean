import FormatterConfig.Yaml.Cursor
import FormatterConfig.Yaml.Token.Basic

set_option autoImplicit false

/-! # Block scalars

A literal scalar keeps its line breaks, a folded one turns single breaks between two lines of text
into spaces. Its header may say how far the text is indented and what happens to the breaks at its
end: one is kept by default, all or none of them on request. -/

namespace FormatterConfig.Yaml

/-- What happens to the line breaks at the end of a block scalar. -/
inductive Chomping where
  | clip
  | strip
  | keep
  deriving DecidableEq

/-- What the header of a block scalar says. -/
structure BlockHeader where
  chomping : Chomping
  indentation : Option Nat

/-- The chomping that a sign asks for. -/
def Chomping.ofSign? : Option Char → Option Chomping
  | some '+' => some .keep
  | some '-' => some .strip
  | _ => none

/-- The digit of an indentation indicator, if there is one. -/
def blockIndentation (start : Mark) (c : Cursor) : Except Error (Option Nat × Cursor) :=
  match c.peek with
  | some ch =>
    if ch.isDigit then
      if ch = '0' then .error (.within .blockScalar start c.mark .zeroIndentation)
      else .ok (some (ch.toNat - 48), c.next)
    else .ok (none, c)
  | none => .ok (none, c)

/-- The indicators after `|` or `>`, in either order. -/
def blockHeader (start : Mark) (c : Cursor) : Except Error (BlockHeader × Cursor) := do
  let (header, c) ←
    match Chomping.ofSign? c.peek with
    | some chomping => do
      let (indentation, c) ← blockIndentation start c.next
      pure (BlockHeader.mk chomping indentation, c)
    | none => do
      let (indentation, c) ← blockIndentation start c
      match indentation, Chomping.ofSign? c.peek with
      | some n, some chomping => pure (BlockHeader.mk chomping (some n), c.next)
      | indentation, _ => pure (BlockHeader.mk .clip indentation, c)
  if isSpaceOrEnd c.peek then return (header, c)
  else .error (.within .blockScalar start c.mark (.unexpected .blockIndicators c.peek))

/-- The rest of a header's line: blanks and a comment. -/
def blockHeaderEnd (start : Mark) (c : Cursor) : Except Error Cursor :=
  let c := c.skipWhile (· == ' ')
  let c := if c.peek = some '#' then c.skipWhile fun ch => !isBreak ch else c
  if isBreakOrEnd c.peek then .ok c.lineBreak.2
  else .error (.within .blockScalar start c.mark (.unexpected .commentOrBreak c.peek))

/-- Empty lines in front of the text: their breaks and the deepest column that spaces reach. -/
def blockLead : (fuel : Nat) → List Char → (deepest : Nat) → Cursor → List Char × Nat × Cursor
  | 0, breaks, deepest, c => (breaks, deepest, c)
  | fuel + 1, breaks, deepest, c =>
    if c.peek = some ' ' then
      let c := c.next
      blockLead fuel breaks (max deepest c.column) c
    else
      match c.lineBreak with
      | ([], _) => (breaks, deepest, c)
      | (br, c) => blockLead fuel (breaks ++ br) deepest c

/-- Moves over spaces up to a column. -/
def Cursor.indentTo (column : Nat) (c : Cursor) : Cursor :=
  c.skip ((c.rest.takeWhile (· == ' ')).take (column - c.column)).length

/-- Empty lines between or after lines of text, and the indentation of the next line. -/
def blockBreaks (indent : Nat) : (fuel : Nat) → List Char → Cursor → List Char × Cursor
  | 0, breaks, c => (breaks, c)
  | fuel + 1, breaks, c =>
    let c := c.indentTo indent
    match c.lineBreak with
    | ([], _) => (breaks, c)
    | (br, c) => blockBreaks indent fuel (breaks ++ br) c

/-- Whether a line starts with a blank. -/
def startsBlank (c : Cursor) : Bool := c.peek == some ' ' || c.peek == some '\t'

/-- The lines of a block scalar: its text, the last line's break, the breaks after it, and the
cursor. -/
def blockLines (folded : Bool) (indent : Nat) : (fuel : Nat) → (text breaks : List Char) → Cursor →
    List Char × List Char × List Char × Cursor
  | 0, text, breaks, c => (text, [], breaks, c)
  | fuel + 1, text, breaks, c =>
    let leadingText := !startsBlank c
    let line := c.run fun ch => !isBreak ch
    let text := text ++ breaks ++ line
    let (lineBreak, c) := (c.skip line.length).lineBreak
    let (breaks, c) := blockBreaks indent (c.rest.length + 1) [] c
    if c.column = indent ∧ c.rest ≠ [] then
      let joint :=
        if folded && lineBreak == ['\n'] && leadingText && !startsBlank c then
          (if breaks.isEmpty then [' '] else [])
        else lineBreak
      blockLines folded indent fuel (text ++ joint) breaks c
    else (text, lineBreak, breaks, c)

/-- Reads a block scalar in a block indented by `parent`, minus one at the top; the cursor is at its
indicator. -/
def scanBlock (folded : Bool) (parent : Int) (c : Cursor) : Except Error (Token × Cursor) := do
  let start := c.mark
  let (header, c) ← blockHeader start c.next
  let c ← blockHeaderEnd start c
  let least := (max (parent + 1) 1).toNat
  let fuel := c.rest.length + 1
  let (indent, breaks, c) :=
    match header.indentation with
    | none =>
      let (breaks, deepest, c) := blockLead fuel [] 0 c
      (max least deepest, breaks, c)
    | some n =>
      let indent := least + n - 1
      let (breaks, c) := blockBreaks indent fuel [] c
      (indent, breaks, c)
  let (text, lineBreak, breaks, c) :=
    if c.column = indent ∧ c.rest ≠ [] then blockLines folded indent fuel [] breaks c
    else ([], [], breaks, c)
  let tail :=
    match header.chomping with
    | .clip => lineBreak
    | .strip => []
    | .keep => lineBreak ++ breaks
  return (⟨.scalar (String.ofList (text ++ tail)) .quoted, start, c.mark⟩, c)

end FormatterConfig.Yaml
