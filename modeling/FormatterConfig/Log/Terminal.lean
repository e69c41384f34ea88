import FormatterConfig.Log.Format

set_option autoImplicit false

/-! # Colours on a terminal

One way to colour texts, with the codes that terminals know. A style is a list of pairs of codes:
one turns it on and the other turns it off again. A text in a style stands between the codes. Inside
it, whatever ends the style is followed by the codes that turn it on again, and the style does not
run over line ends or through stretches that a text resets. -/

namespace FormatterConfig.Log

/-- The character that starts a code. -/
def escapeChar : Char := '\x1b'

/-- The code with a number. -/
def code (n : Nat) : List Char := escapeChar :: '[' :: (toString n).toList ++ ['m']

/-- The code that turns every style off. -/
def resetCode : List Char := code 0

/-- A pair of codes. -/
structure Codes where
  opening : List Char
  closing : List Char

/-- A style: its codes, outermost first. -/
abbrev Style := List Codes

namespace Style

/-- What turns a style on. -/
def opening (s : Style) : List Char := s.flatMap Codes.opening

/-- What turns a style off. -/
def closing (s : Style) : List Char := s.flatMap Codes.closing

end Style

/-- Puts a text behind each occurrence of another one. The first number counts the characters of an
occurrence that are still to pass. -/
def addBehind (mark addition : List Char) : (pending : Nat) → List Char → List Char
  | _, [] => []
  | 0, c :: rest =>
    if mark.isPrefixOf (c :: rest) then
      if mark.length = 1 then c :: addition ++ addBehind mark addition 0 rest
      else c :: addBehind mark addition (mark.length - 1) rest
    else c :: addBehind mark addition 0 rest
  | pending + 1, c :: rest =>
    if pending = 0 then c :: addition ++ addBehind mark addition 0 rest
    else c :: addBehind mark addition pending rest

/-- How many characters a stretch has that starts here with a reset and ends with the next one on
the same line. -/
def resetStretch? (cs : List Char) : Option Nat :=
  if resetCode.isPrefixOf cs then
    let line := (cs.drop resetCode.length).takeWhile (· != '\n')
    (List.range (line.length + 1)).findSome? fun n =>
      if resetCode.isPrefixOf (line.drop n) then some (n + 2 * resetCode.length) else none
  else none

/-- Leaves a style out of the stretches between two resets. The number counts the characters of a
stretch that are still to pass. -/
def spareResets (s : Style) : (pending : Nat) → List Char → List Char
  | _, [] => []
  | 0, c :: rest =>
    match resetStretch? (c :: rest) with
    | some n => s.closing ++ c :: spareResets s (n - 1) rest
    | none => c :: spareResets s 0 rest
  | pending + 1, c :: rest =>
    if pending = 0 then c :: s.opening ++ spareResets s 0 rest
    else c :: spareResets s pending rest

/-- Leaves a style out of line ends. -/
def spareLineEnds (s : Style) : List Char → List Char
  | [] => []
  | '\r' :: '\n' :: rest => s.closing ++ '\r' :: '\n' :: s.opening ++ spareLineEnds s rest
  | c :: rest =>
    if c = '\n' then s.closing ++ c :: s.opening ++ spareLineEnds s rest
    else c :: spareLineEnds s rest

/-- Turns a style on again behind the codes that turn it off. -/
def reopen (s : Style) (cs : List Char) : List Char :=
  s.foldl (fun cs codes => addBehind codes.closing codes.opening 0 cs) cs

/-- A text in a style. -/
def Style.apply (s : Style) (text : String) : String :=
  let cs := text.toList
  let inner := spareLineEnds s (spareResets s 0 (reopen s cs))
  String.ofList (s.opening ++ inner ++ s.closing)

/-- A colour of the letters. -/
def foreground (n : Nat) : Codes := ⟨code n, code 39⟩

/-- Dimmed letters. -/
def dimmed : Codes := ⟨code 2, code 22⟩

/-- The style of a colour. -/
def Color.style : Color → Style
  | .brightRed => [foreground 91]
  | .red => [foreground 31]
  | .yellow => [foreground 33]
  | .green => [foreground 32]
  | .gray => [foreground 90]
  | .blue => [foreground 34]
  | .dimRed => [dimmed, foreground 31]

/-- Colours a text for a terminal. -/
def terminalPaint : Paint := fun color text => color.style.apply text

end FormatterConfig.Log
