set_option autoImplicit false

/-! # Text under construction

A document is written from left to right. What is written so far, its last column, and two facts
about its last line decide whether the next piece needs a space or a new line in front of it. -/

namespace FormatterConfig.Yaml

/-- What is written so far. -/
structure Output where
  text : String
  column : Nat
  /-- Whether a space or the start of a line comes last. -/
  spaced : Bool
  /-- Whether the last line holds nothing but indentation and the indicators of entries. -/
  indented : Bool

namespace Output

/-- Nothing written. -/
def empty : Output := ⟨"", 0, true, true⟩

/-- Goes on with a text that is part of a scalar. -/
def put (out : Output) (cs : List Char) : Output :=
  ⟨out.text ++ String.ofList cs, out.column + cs.length, false, false⟩

/-- Ends the line with a line end, which need not be a line feed. -/
def endLine (out : Output) (lineEnd : Char) : Output :=
  ⟨out.text.push lineEnd, 0, true, true⟩

/-- An indicator that nothing else may touch, with a space in front unless there is one. -/
def indicate (out : Output) (indicator : String) : Output :=
  let piece := if out.spaced then indicator else " " ++ indicator
  ⟨out.text ++ piece, out.column + piece.length, false, false⟩

/-- An indicator that belongs to what is in front of it. -/
def attach (out : Output) (indicator : String) : Output :=
  ⟨out.text ++ indicator, out.column + indicator.length, false, false⟩

/-- The indicator of an entry, behind which a collection may start on the same line. -/
def openEntry (out : Output) (indicator : String) : Output :=
  { out.indicate indicator with indented := out.indented }

/-- Goes to an indentation, on a new line unless the last one holds nothing behind it. -/
def indentTo (out : Output) (indent : Nat) : Output :=
  let out :=
    if !out.indented || decide (indent < out.column) ||
        (out.column == indent && !out.spaced) then out.endLine '\n'
    else out
  if out.column < indent then
    ⟨out.text ++ String.ofList (List.replicate (indent - out.column) ' '), indent, true,
      out.indented⟩
  else out

end Output

end FormatterConfig.Yaml
