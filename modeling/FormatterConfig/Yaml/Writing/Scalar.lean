import FormatterConfig.Text.Quoted
import FormatterConfig.Yaml.Writing.Output
import FormatterConfig.Yaml.Writing.Style

set_option autoImplicit false

/-! # Writing scalars

Long scalars are broken at spaces once a line is wider than it should be: a single space between two
words becomes a line end and the indentation, in double quotes behind a backslash. Line breaks of
the text are doubled in single quotes, because reading folds them. -/

namespace FormatterConfig.Yaml

/-- The width after which a line is broken at the next space. -/
def bestWidth : Nat := 80

/-! ## Plain and in single quotes -/

/-- Whether two characters belong to one run: of spaces, of line breaks, or of others. -/
def sameRun (a b : Char) : Bool := (a == ' ') == (b == ' ') && isScalarBreak a == isScalarBreak b

/-- How a scalar is laid out: the indentation of its further lines, and whether it may be broken. -/
structure Folding where
  indent : Nat
  splits : Bool

/-- Writes a run of line breaks: a line feed counts once more in front of it. -/
def writeBreaks (out : Output) (indent : Nat) (run : List Char) : Output :=
  let out := if run.head? == some '\n' then out.endLine '\n' else out
  (run.foldl Output.endLine out).indentTo indent

/-- Writes the runs of a scalar; `inner` tells that a run is not the first one. -/
def writeRuns (f : Folding) (out : Output) (inner : Bool) : List (List Char) → Output
  | [] => out
  | run :: rest =>
    let out :=
      if run == [' '] && inner && !rest.isEmpty && f.splits && decide (bestWidth < out.column) then
        out.indentTo f.indent
      else if run.head?.any isScalarBreak then writeBreaks out f.indent run
      else out.put (run.flatMap fun c => if c = '\x27' then [c, c] else [c])
    writeRuns f out true rest

/-- Writes a scalar in single quotes. -/
def writeSingle (f : Folding) (out : Output) (cs : List Char) : Output :=
  (writeRuns f (out.indicate "'") false (cs.splitBy sameRun)).attach "'"

/-- Writes words without quotes, broken at single spaces. -/
def writeWords (f : Folding) (out : Output) : List (List Char) → Output
  | [] => out
  | run :: rest =>
    let out :=
      if run == [' '] && f.splits && decide (bestWidth < out.column) then out.indentTo f.indent
      else out.put run
    writeWords f out rest

/-- Writes a scalar without quotes. -/
def writePlain (f : Folding) (out : Output) (cs : List Char) : Output :=
  if cs.isEmpty then out
  else
    let out := if out.spaced then out else out.put [' ']
    writeWords f out (cs.splitBy sameRun)

/-! ## In double quotes -/

/-- The letters of the escapes that have one. -/
def escapeLetters : List (Char × Char) :=
  [('\x00', '0'), ('\x07', 'a'), ('\x08', 'b'), ('\t', 't'), ('\n', 'n'), ('\x0b', 'v'),
    ('\x0c', 'f'), ('\r', 'r'), ('\x1b', 'e'), ('\x22', '\x22'), ('\\', '\\'), ('\x85', 'N'),
    ('\u2028', 'L'), ('\u2029', 'P')]

/-- Whether a character stands for itself in double quotes. -/
def isDoubleSafe (c : Char) : Bool :=
  let n := c.toNat
  c != '\x22' && c != '\\' && c != '\u2028' && c != '\u2029' && c != '\ufeff' &&
    ((decide (0x20 ≤ n) && decide (n ≤ 0x7E)) || (decide (0xA0 ≤ n) && decide (n ≤ 0xD7FF)) ||
      (decide (0xE000 ≤ n) && decide (n ≤ 0xFFFD)))

/-- The escape of a character, its digits in upper case. -/
def doubleEscape (c : Char) : List Char :=
  match escapeLetters.find? (·.1 == c) with
  | some (_, letter) => ['\\', letter]
  | none =>
    match Text.escapeByCode c.toNat with
    | slash :: letter :: digits => slash :: letter :: digits.map Char.toUpper
    | short => short

/-- Writes the characters of a scalar in double quotes. The characters of `pending`, last one first,
stand for themselves and are written together; `first` tells that no character comes before. A line
is broken in front of a space and behind an escape, but neither after the first character nor before
the last. -/
def writeDoubleFrom (f : Folding) (out : Output) (pending : List Char) (first : Bool) :
    List Char → Output
  | [] => if pending.isEmpty then out else out.put pending.reverse
  | c :: rest =>
    let safe := isDoubleSafe c
    let flushed := if safe || pending.isEmpty then out else out.put pending.reverse
    let out := if safe then flushed else flushed.put (doubleEscape c)
    let waiting := if safe then pending else []
    let full :=
      if safe then decide (bestWidth < out.column + waiting.length)
      else decide (bestWidth + 1 < out.column)
    if !first && !rest.isEmpty && (c == ' ' || waiting.isEmpty) && full && f.splits then
      let out := (out.put (waiting.reverse ++ ['\\'])).indentTo f.indent
      let next := if safe then some c else rest.head?
      let out := if next == some ' ' then out.put ['\\'] else out.put []
      writeDoubleFrom f out (if safe then [c] else []) false rest
    else writeDoubleFrom f out (if safe then c :: waiting else []) false rest

/-- Writes a scalar in double quotes. -/
def writeDouble (f : Folding) (out : Output) (cs : List Char) : Output :=
  (writeDoubleFrom f (out.indicate "\"") [] true cs).attach "\""

/-! ## As a literal -/

/-- Writes lines, each with its end, below a bar. -/
def writeLiteral (f : Folding) (out : Output) (cs : List Char) : Output :=
  ((cs.splitBy fun a _ => a != '\n').foldl
    (fun out line => ((out.indentTo f.indent).put line.dropLast).endLine '\n')
    ((out.indicate "|").endLine '\n'))

/-! ## Any scalar -/

/-- Writes a scalar in a style. -/
def writeStyled (style : Style) (f : Folding) (out : Output) (cs : List Char) : Output :=
  match style with
  | .plain => writePlain f out cs
  | .single => writeSingle f out cs
  | .double => writeDouble f out cs
  | .literal => writeLiteral f out cs

end FormatterConfig.Yaml
