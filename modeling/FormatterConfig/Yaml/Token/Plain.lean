import FormatterConfig.Yaml.Cursor
import FormatterConfig.Yaml.Token.Basic

set_option autoImplicit false

/-! # Plain scalars

A scalar without quotes ends before a colon that a blank follows, before a comment, and inside a
flow collection before an indicator of that collection. It may go on over lines that are indented
more than the block it stands in. -/

namespace FormatterConfig.Yaml

/-- The indicators of flow collections. -/
def isFlowIndicator (c : Char) : Bool :=
  c == ',' || c == '[' || c == ']' || c == '\x7b' || c == '\x7d'

/-- The text of a plain scalar up to a blank, a break or an indicator that ends it. -/
def plainRun (inFlow : Bool) : List Char → List Char
  | [] => []
  | ch :: rest =>
    let ends :=
      isBlankOrEnd (some ch) ||
        (ch == ':' && (isBlankOrEnd rest.head? || (inFlow && rest.head?.any isFlowIndicator))) ||
        (inFlow && (isFlowIndicator ch || ch == '?'))
    if ends then [] else ch :: plainRun inFlow rest

/-- Spaces and breaks after the first break of a fold; `none` at a line that separates documents. -/
def plainBreaks : (fuel : Nat) → List Char → Cursor → Option (List Char) × Cursor
  | 0, found, c => (some found, c)
  | fuel + 1, found, c =>
    if c.peek = some ' ' then plainBreaks fuel found c.next
    else
      match c.lineBreak with
      | ([], _) => (some found, c)
      | (br, c) => if c.atSeparator then (none, c) else plainBreaks fuel (found ++ br) c

/-- The blanks after a stretch of text, folded, and whether they cross a line; nothing when there
are none or the document ends. -/
def plainSpaces (c : Cursor) : List Char × Bool × Cursor :=
  let blanks := c.run (· == ' ')
  let c := c.skip blanks.length
  match c.lineBreak with
  | ([], _) => (blanks, false, c)
  | (br, c) =>
    if c.atSeparator then ([], true, c)
    else
      match plainBreaks (c.rest.length + 1) [] c with
      | (none, c) => ([], true, c)
      | (some breaks, c) =>
        if br ≠ ['\n'] then (br ++ breaks, true, c)
        else if breaks.isEmpty then ([' '], true, c)
        else (breaks, true, c)

/-- A plain scalar while it is read: the text, the mark after it, and whether a line was crossed
since. -/
structure PlainText where
  text : List Char
  stop : Mark
  crossed : Bool

/-- The stretches of a plain scalar and the blanks between them. -/
def plainStretches (inFlow : Bool) (indent : Int) : (fuel : Nat) → PlainText →
    (blanks : List Char) → Cursor → PlainText × Cursor
  | 0, p, _, c => (p, c)
  | fuel + 1, p, blanks, c =>
    let stretch := if c.peek = some '#' then [] else plainRun inFlow c.rest
    if stretch.isEmpty then (p, c)
    else
      let text := p.text ++ blanks ++ stretch
      let c := c.skip stretch.length
      let stop := c.mark
      let (blanks, crossed, c) := plainSpaces c
      let p : PlainText := ⟨text, stop, crossed⟩
      if blanks.isEmpty || c.peek == some '#' ||
          (!inFlow && decide ((c.column : Int) < indent)) then (p, c)
      else plainStretches inFlow indent fuel p blanks c

/-- Reads a plain scalar in a block indented by `parent`: the token, whether the cursor is on a
later line than the text, and the cursor. -/
def scanPlain (inFlow : Bool) (parent : Int) (c : Cursor) : Token × Bool × Cursor :=
  let start := c.mark
  let (p, c) := plainStretches inFlow (parent + 1) (c.rest.length + 1) ⟨[], start, false⟩ [] c
  (⟨.scalar (String.ofList p.text) .plain, start, p.stop⟩, p.crossed, c)

end FormatterConfig.Yaml
