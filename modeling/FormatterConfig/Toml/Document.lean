import FormatterConfig.Toml.Scalar
import FormatterConfig.Toml.Table

set_option autoImplicit false

/-! # Decoding a document of tables

A document is a sequence of lines, each of which sets a value, opens a table, or holds nothing; a
comment may end any of them. Arrays may run over several lines and tables in braces may not. The
grammar is that of version 1.0. -/

namespace FormatterConfig.Toml

/-! ## Blanks and comments -/

/-- Passes over a comment, if there is one. -/
def skipComment (cs : List Char) : Option (List Char) :=
  match cs with
  | '#' :: rest =>
    let comment := rest.takeWhile (· != '\n')
    if comment.any isIllegal then none else some (rest.drop comment.length)
  | _ => some cs

/-- Passes over white space, line ends and comments; each round but the last reads a comment. -/
def skipFiller : (fuel : Nat) → List Char → Option (List Char)
  | 0, cs => some cs
  | fuel + 1, cs =>
    match cs.dropWhile isSpaceOrEnd with
    | '#' :: rest => do
      let rest ← skipComment ('#' :: rest)
      skipFiller fuel rest
    | rest => some rest

/-! ## Keys -/

/-- Whether a key without marks may hold a character. -/
def isKeyChar (c : Char) : Bool := c.isAlphanum || c == '-' || c == '_'

/-- One part of a key. Tripled marks are no part of it: two of them hold an empty part. -/
def readKeyPart (cs : List Char) : Option (String × List Char) :=
  match cs with
  | c :: rest =>
    if isKeyChar c then some (String.ofList (cs.takeWhile isKeyChar), cs.dropWhile isKeyChar)
    else if c = apostrophe then (readLiteral rest).map fun (s, rest) => (String.ofList s, rest)
    else if c = quotationMark then (readBasic rest).map fun (s, rest) => (String.ofList s, rest)
    else none
  | [] => none

/-- A key: parts with points between them. -/
def readKey : (fuel : Nat) → List Char → Option (List String × List Char)
  | 0, _ => none
  | fuel + 1, cs => do
    let (part, rest) ← readKeyPart cs
    match rest.dropWhile isSpace with
    | '.' :: rest => do
      let (parts, rest) ← readKey fuel (rest.dropWhile isSpace)
      return (part :: parts, rest)
    | rest => return ([part], rest)

/-- A key and the equals sign behind it. -/
def readKeySign (cs : List Char) : Option (List String × List Char) := do
  let (key, rest) ← readKey (cs.length + 1) cs
  let rest ← expectChar '=' rest
  return (key, rest.dropWhile isSpace)

/-! ## Values -/

mutual

/-- A value. -/
def readValue : (fuel : Nat) → List Char → Option (Value × List Char)
  | 0, _ => none
  | fuel + 1, cs =>
    match cs with
    | '[' :: rest => do
      let rest ← skipFiller (rest.length + 1) rest
      match rest with
      | ']' :: rest => return (.list [], rest)
      | _ => do
        let (items, rest) ← readItems fuel rest
        return (.list items, rest)
    | '\x7b' :: rest =>
      match rest.dropWhile isSpace with
      | '\x7d' :: rest => some (.map [], rest)
      | rest => do
        let (entries, rest) ← readPairs fuel [] rest
        return (.map (Entries.values entries), rest)
    | c :: _ =>
      if isMark c then (readQuoted cs).map fun (s, rest) => (.text (String.ofList s), rest)
      else readBare cs
    | [] => none

/-- The items of an array, at least one, and its end. -/
def readItems : (fuel : Nat) → List Char → Option (List Value × List Char)
  | 0, _ => none
  | fuel + 1, cs => do
    let (item, rest) ← readValue fuel cs
    let rest ← skipFiller (rest.length + 1) rest
    match rest with
    | ']' :: rest => return ([item], rest)
    | ',' :: rest => do
      let rest ← skipFiller (rest.length + 1) rest
      match rest with
      | ']' :: rest => return ([item], rest)
      | _ => do
        let (items, rest) ← readItems fuel rest
        return (item :: items, rest)
    | _ => none

/-- The entries of a table in braces, at least one, and its end. -/
def readPairs : (fuel : Nat) → Entries → List Char → Option (Entries × List Char)
  | 0, _, _ => none
  | fuel + 1, entries, cs => do
    let (key, rest) ← readKeySign cs
    let (v, rest) ← readValue fuel rest
    let entries ← entries.set key v
    match rest.dropWhile isSpace with
    | '\x7d' :: rest => return (entries, rest)
    | ',' :: rest => readPairs fuel entries (rest.dropWhile isSpace)
    | _ => none

end

/-! ## Lines -/

/-- A header behind its opening brackets: the path and the rest behind the closing ones. -/
def readHeader (closing : List Char) (cs : List Char) : Option (List String × List Char) := do
  let (path, rest) ← readKey (cs.length + 1) (cs.dropWhile isSpace)
  if closing.isPrefixOf rest then some (path, rest.drop closing.length) else none

/-- What a line states; the rest starts behind it. -/
def readStatement (d : Draft) (cs : List Char) : Option (Draft × List Char) :=
  match cs with
  | '[' :: '[' :: rest => do
    let (path, rest) ← readHeader [']', ']'] rest
    let d ← d.appendTable path
    return (d, rest)
  | '[' :: rest => do
    let (path, rest) ← readHeader [']'] rest
    let d ← d.openTable path
    return (d, rest)
  | c :: _ =>
    if isKeyChar c || isMark c then do
      let (key, rest) ← readKeySign cs
      let (v, rest) ← readValue (2 * rest.length + 1) rest
      let d ← d.setValue key v
      return (d, rest)
    else some (d, cs)
  | [] => some (d, cs)

/-- The lines of a document; each has at least its end, so the length of the text bounds them. -/
def readLines : (fuel : Nat) → Draft → List Char → Option Draft
  | 0, d, _ => some d
  | fuel + 1, d, cs => do
    let (d, rest) ← readStatement d (cs.dropWhile isSpace)
    let rest ← skipComment (rest.dropWhile isSpace)
    match rest with
    | [] => return d
    | '\n' :: rest => readLines fuel d rest
    | _ => none

/-- The mapping of a document, if the text is one. Line ends are line feeds. -/
def decode (text : List Char) : Option Mapping :=
  (readLines (text.length + 1) .empty text).map fun d => Entries.values d.entries

end FormatterConfig.Toml
