set_option autoImplicit false

/-! # Positions in a document

A mark is a position in the text of a document: how many characters lie before it, and its line and
column, both counted from zero. A message about a mark shows its line with a caret below it; of a
long line it shows the stretch around the mark. -/

namespace FormatterConfig.Yaml

/-- A position in a document. -/
structure Mark where
  index : Nat
  line : Nat
  column : Nat
  deriving DecidableEq

/-- The characters that end a line. -/
def isBreak (c : Char) : Bool :=
  c == '\n' || c == '\r' || c == '\x85' || c == '\u2028' || c == '\u2029'

/-- The most characters shown on one side of a mark. -/
def shownReach : Nat := 36

/-- How many characters are left over when a side is cut off. -/
def shownWhenCut : Nat := 32

/-- The shown part of one side of a line, nearest character first, and whether it is cut off. -/
def shownSide (side : List Char) : List Char × Bool :=
  let reach := (side.takeWhile fun c => !isBreak c).take (shownReach + 1)
  if reach.length ≤ shownReach then (reach, false) else (reach.take shownWhenCut, true)

/-- The line of a mark and a caret below the mark. -/
def Mark.snippet (m : Mark) (text : List Char) : String :=
  let (left, leftCut) := shownSide (text.take m.index).reverse
  let (right, rightCut) := shownSide (text.drop m.index)
  let head := if leftCut then " ... " else ""
  let tail := if rightCut then " ... " else ""
  "    " ++ head ++ String.ofList (left.reverse ++ right) ++ tail ++ "\n" ++
    String.ofList (List.replicate (4 + left.length + head.length) ' ') ++ "^"

/-- A mark in words, with its line. -/
def Mark.describe (m : Mark) (text : List Char) : String :=
  "  in \"<unicode string>\", line " ++ toString (m.line + 1) ++ ", column " ++
    toString (m.column + 1) ++ ":\n" ++ m.snippet text

end FormatterConfig.Yaml
