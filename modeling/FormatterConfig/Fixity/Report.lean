import FormatterConfig.Text.Cut

set_option autoImplicit false

/-! # Reports about a text

A report points at a place in a text: it gives the line and column, shows the line with a caret
below the place, and says what was found there, what would have been accepted, and why. The place is
an offset; one beyond the text is taken as its end when the line is looked up, and a negative one
counts from the end. -/

namespace FormatterConfig

/-- A report about a place in a text. -/
structure Report where
  source : String
  offset : Int
  unexpected : Option String
  expecting : List String
  reason : Option String
  deriving DecidableEq

namespace Report

/-- The characters in front of an offset. -/
def before (cs : List Char) (offset : Int) : List Char :=
  if 0 ≤ offset then cs.take offset.toNat else cs.take (cs.length + offset).toNat

/-- The line, counted from one. -/
def line (r : Report) : Nat := (before r.source.toList r.offset).count '\n' + 1

/-- How many characters of the text come before the line of the offset. -/
def lineStart (r : Report) : Nat :=
  let cs := before r.source.toList r.offset
  cs.length - (cs.reverse.takeWhile (· != '\n')).length

/-- The column, counted from one for an offset inside the text. -/
def column (r : Report) : Int := r.offset - r.lineStart + 1

/-- The text of the line. -/
def lineText (r : Report) : List Char :=
  ((Text.cutAt '\n' r.source.toList)[r.line - 1]?).getD []

/-- Items as a list with "or" before the last. -/
def orList : List String → String
  | [] => ""
  | [a] => a
  | [a, b] => a ++ " or " ++ b
  | items => ", ".intercalate items.dropLast ++ ", or " ++ items.getLast?.getD ""

/-- The report in full, a line for each part. -/
def pretty (r : Report) : String :=
  let line := toString r.line
  let gutter := String.ofList (List.replicate line.length ' ')
  let caret := String.ofList (List.replicate (r.column - 1).toNat ' ') ++ "^"
  let rows :=
    [line ++ ":" ++ toString r.column ++ ":",
      gutter ++ " |",
      line ++ " | " ++ String.ofList r.lineText,
      gutter ++ " | " ++ caret] ++
    (r.unexpected.map fun what => "unexpected " ++ what).toList ++
    (if r.expecting.isEmpty then [] else ["expecting " ++ orList r.expecting]) ++
    r.reason.toList
  "\n".intercalate rows ++ "\n"

/-- The line of any offset is one of the text's lines. -/
theorem line_le (r : Report) : r.line ≤ (Text.cutAt '\n' r.source.toList).length := by
  rw [Text.length_cutAt, line]
  have : (before r.source.toList r.offset).count '\n' ≤ r.source.toList.count '\n' := by
    unfold before
    split <;> exact (List.take_sublist _ _).count_le _
  omega

end Report

end FormatterConfig
