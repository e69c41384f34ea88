import FormatterConfig.Yaml.Token.Block
import FormatterConfig.Yaml.Token.Plain
import FormatterConfig.Yaml.Token.Property
import FormatterConfig.Yaml.Token.Quoted

set_option autoImplicit false

/-! # From text to tokens

Tokens are read from left to right. Two things are known only later than the place they belong to: a
word is a key if a colon follows it on its line, and a block ends where a line is indented less. So
the lexer keeps the words that may turn out to be keys, one for each level of flow collections, and
the indentations of the open blocks.

A fault does not undo the tokens in front of it. `Token.scan` gives the tokens that are certain
before the fault together with the fault: a token is certain when neither it nor an earlier one may
still turn out to begin a key. -/

namespace FormatterConfig.Yaml

/-- A word that may turn out to be a key. -/
structure PendingKey where
  level : Int
  /-- How many tokens come before it. -/
  number : Nat
  /-- Whether it must be a key, since it starts a line of a block mapping. -/
  required : Bool
  mark : Mark

/-- The state of reading tokens. -/
structure Lexer where
  cursor : Cursor
  /-- How many flow collections are open; a closing bracket too many makes it negative. -/
  level : Int
  /-- The column of the innermost block, -1 outside all. -/
  indent : Int
  /-- The columns of the blocks around it. -/
  outer : List Int
  keyAllowed : Bool
  pending : List PendingKey
  /-- The tokens read so far, the last one first. -/
  tokens : List Token
  count : Nat
  done : Bool

/-- Tokens and the fault that ends them, if one does. -/
structure TokenStream where
  tokens : List Token
  fault : Option Error

namespace Lexer

/-- The state at the start of a text. -/
def ofText (text : List Char) : Lexer :=
  ⟨Cursor.ofText text, 0, -1, [], true, [], [], 0, false⟩

/-- Adds a token. -/
def push (t : Token) (l : Lexer) : Lexer := { l with tokens := t :: l.tokens, count := l.count + 1 }

/-- Adds a token without extent. -/
def pushHere (kind : TokenKind) (l : Lexer) : Lexer :=
  l.push ⟨kind, l.cursor.mark, l.cursor.mark⟩

/-- Adds a token in front of those from `number` on. -/
def insertAt (number : Nat) (t : Token) (l : Lexer) : Lexer :=
  let later := l.count - number
  { l with tokens := l.tokens.take later ++ t :: l.tokens.drop later, count := l.count + 1 }

/-- Adds a token of `n` characters. -/
def pushIndicator (kind : TokenKind) (n : Nat) (l : Lexer) : Lexer :=
  let after := l.cursor.skip n
  { l.push ⟨kind, l.cursor.mark, after.mark⟩ with cursor := after }

/-- The first of the words that may turn out to be keys. -/
def firstPending? (l : Lexer) : Option Nat := (l.pending.map (·.number)).min?

/-- How many tokens are certain. -/
def certain (l : Lexer) : Nat := (l.firstPending?).getD l.count

/-- Drops the words that a key can no longer be made of: those on an earlier line or more than 1024
characters back. One that had to be a key is a fault. -/
def dropStale (l : Lexer) : Except Error Lexer :=
  let stale (k : PendingKey) : Bool :=
    k.mark.line != l.cursor.line || decide (1024 < l.cursor.index - k.mark.index)
  match l.pending.find? fun k => stale k && k.required with
  | some k => .error (.within .simpleKey k.mark l.cursor.mark .missingColon)
  | none => .ok { l with pending := l.pending.filter fun k => !stale k }

/-- Drops the word of the current level; one that had to be a key is a fault. -/
def dropPending (l : Lexer) : Except Error Lexer :=
  match l.pending.find? fun k => k.level == l.level && k.required with
  | some k => .error (.within .simpleKey k.mark l.cursor.mark .missingColon)
  | none => .ok { l with pending := l.pending.filter fun k => k.level != l.level }

/-- Notes that the next token may turn out to be a key, where keys are allowed. -/
def notePending (l : Lexer) : Except Error Lexer :=
  if l.keyAllowed then do
    let required := l.level == 0 && l.indent == (l.cursor.column : Int)
    let l ← l.dropPending
    return { l with pending := ⟨l.level, l.count, required, l.cursor.mark⟩ :: l.pending }
  else .ok l

/-- Closes the blocks that are indented more than a column. -/
def closeBlocks (column : Int) : (fuel : Nat) → Lexer → Lexer
  | 0, l => l
  | fuel + 1, l =>
    if l.level == 0 && decide (column < l.indent) then
      let l := l.pushHere .blockEnd
      closeBlocks column fuel { l with indent := l.outer.headD (-1), outer := l.outer.tail }
    else l

/-- Closes the blocks that are indented more than a column. -/
def unwind (column : Int) (l : Lexer) : Lexer := l.closeBlocks column (l.outer.length + 1)

/-- Opens a block at a column if it is indented more than the innermost one. -/
def openBlock? (column : Int) (l : Lexer) : Option Lexer :=
  if l.indent < column then some { l with indent := column, outer := l.indent :: l.outer } else none

/-- Opens a block of a kind at the cursor if it is indented more than the innermost one. -/
def openBlockHere (kind : TokenKind) (l : Lexer) : Lexer :=
  match l.openBlock? l.cursor.column with
  | some l => l.pushHere kind
  | none => l

/-- Moves to the next token: over spaces, comments and line breaks. After a break outside flow
collections a key may start. -/
def skipToToken : (fuel : Nat) → Lexer → Lexer
  | 0, l => l
  | fuel + 1, l =>
    let c := l.cursor.skipWhile (· == ' ')
    let c := if c.peek = some '#' then c.skipWhile fun ch => !isBreak ch else c
    match c.lineBreak with
    | ([], _) => { l with cursor := c }
    | (_, c) => skipToToken fuel { l with cursor := c, keyAllowed := l.keyAllowed || l.level == 0 }

/-! ## The tokens one by one -/

/-- The end of the text. -/
def readStreamEnd (l : Lexer) : Except Error Lexer := do
  let l ← (l.unwind (-1)).dropPending
  return { ({ l with keyAllowed := false, pending := [] }).pushHere .streamEnd with done := true }

/-- A directive. -/
def readDirective (l : Lexer) : Except Error Lexer := do
  let l ← (l.unwind (-1)).dropPending
  let (token, c) ← scanDirective l.cursor
  return { l.push token with cursor := c, keyAllowed := false }

/-- A line that starts or ends a document. -/
def readDocumentMark (kind : TokenKind) (l : Lexer) : Except Error Lexer := do
  let l ← (l.unwind (-1)).dropPending
  return { l with keyAllowed := false }.pushIndicator kind 3

/-- An opening bracket, which may begin a key. -/
def readFlowStart (kind : TokenKind) (l : Lexer) : Except Error Lexer := do
  let l ← l.notePending
  return { l with level := l.level + 1, keyAllowed := true }.pushIndicator kind 1

/-- A closing bracket. -/
def readFlowEnd (kind : TokenKind) (l : Lexer) : Except Error Lexer := do
  let l ← l.dropPending
  return { l with level := l.level - 1, keyAllowed := false }.pushIndicator kind 1

/-- A comma. -/
def readFlowEntry (l : Lexer) : Except Error Lexer := do
  let l ← l.dropPending
  return { l with keyAllowed := true }.pushIndicator .flowEntry 1

/-- The dash of a sequence's item. -/
def readBlockEntry (l : Lexer) : Except Error Lexer := do
  let l ←
    if l.level ≠ 0 then pure l
    else if l.keyAllowed then pure (l.openBlockHere .blockSequenceStart)
    else .error (.at l.cursor.mark .sequenceEntryNotAllowed)
  let l ← l.dropPending
  return { l with keyAllowed := true }.pushIndicator .blockEntry 1

/-- The question mark of a key. -/
def readKey (l : Lexer) : Except Error Lexer := do
  let l ←
    if l.level ≠ 0 then pure l
    else if l.keyAllowed then pure (l.openBlockHere .blockMappingStart)
    else .error (.at l.cursor.mark .mappingKeyNotAllowed)
  let l ← l.dropPending
  return { l with keyAllowed := l.level == 0 }.pushIndicator .key 1

/-- The colon of a value. A word of this level that may be a key becomes one: the tokens that say so
go in front of it. -/
def readValue (l : Lexer) : Except Error Lexer := do
  let l ←
    match l.pending.find? (·.level == l.level) with
    | some k =>
      let l := { l with pending := l.pending.filter (·.level != l.level), keyAllowed := false }
      let l := l.insertAt k.number ⟨.key, k.mark, k.mark⟩
      if l.level ≠ 0 then pure l
      else
        match l.openBlock? k.mark.column with
        | some l => pure (l.insertAt k.number ⟨.blockMappingStart, k.mark, k.mark⟩)
        | none => pure l
    | none =>
      if l.level ≠ 0 then do
        let l ← l.dropPending
        pure { l with keyAllowed := false }
      else if l.keyAllowed then do
        let l ← (l.openBlockHere .blockMappingStart).dropPending
        pure { l with keyAllowed := true }
      else .error (.at l.cursor.mark .mappingValueNotAllowed)
  return l.pushIndicator .value 1

/-- A token that may begin a key and is read by `scan`. -/
def readWord (scan : Cursor → Except Error (Token × Cursor)) (l : Lexer) : Except Error Lexer := do
  let l ← l.notePending
  let (token, c) ← scan l.cursor
  return { l.push token with cursor := c, keyAllowed := false }

/-- A literal or folded scalar, after which a key may start. -/
def readBlockScalar (folded : Bool) (l : Lexer) : Except Error Lexer := do
  let l ← l.dropPending
  let (token, c) ← scanBlock folded l.indent l.cursor
  return { l.push token with cursor := c, keyAllowed := true }

/-- A plain scalar; if it ends on a later line, a key may start there. -/
def readPlain (l : Lexer) : Except Error Lexer := do
  let l ← l.notePending
  let (token, crossed, c) := scanPlain (l.level ≠ 0) l.indent l.cursor
  return { l.push token with cursor := c, keyAllowed := crossed }

/-- Whether a character other than an indicator, or an indicator that is part of a word, starts a
plain scalar. -/
def startsPlain (l : Lexer) (ch : Char) : Bool :=
  let indicators := ['-', '?', ':', ',', '[', ']', '\x7b', '\x7d', '#', '&', '*', '!', '|', '>',
    '\x27', '\x22', '%', '@', '\x60']
  !(isBlankOrEnd (some ch) || indicators.contains ch) ||
    (!isBlankOrEnd (l.cursor.peekAt 1) &&
      (ch == '-' || (l.level == 0 && (ch == '?' || ch == ':'))))

/-- Reads the token at the cursor, which starts with `ch`. -/
def readToken (ch : Char) (l : Lexer) : Except Error Lexer :=
  let atLineStart := l.cursor.column == 0
  let blankNext := isBlankOrEnd (l.cursor.peekAt 1)
  let inFlow := l.level != 0
  if ch == '%' && atLineStart then l.readDirective
  else if ch == '-' && atLineStart && l.cursor.atSeparator then l.readDocumentMark .documentStart
  else if ch == '.' && atLineStart && l.cursor.atSeparator then l.readDocumentMark .documentEnd
  else if ch == '[' then l.readFlowStart .flowSequenceStart
  else if ch == '\x7b' then l.readFlowStart .flowMappingStart
  else if ch == ']' then l.readFlowEnd .flowSequenceEnd
  else if ch == '\x7d' then l.readFlowEnd .flowMappingEnd
  else if ch == ',' then l.readFlowEntry
  else if ch == '-' && blankNext then l.readBlockEntry
  else if ch == '?' && (inFlow || blankNext) then l.readKey
  else if ch == ':' && (inFlow || blankNext) then l.readValue
  else if ch == '*' || ch == '&' then l.readWord scanAnchor
  else if ch == '!' then l.readWord scanTag
  else if ch == '|' && !inFlow then l.readBlockScalar false
  else if ch == '>' && !inFlow then l.readBlockScalar true
  else if ch == '\x27' then l.readWord (scanQuoted false)
  else if ch == '\x22' then l.readWord (scanQuoted true)
  else if l.startsPlain ch then l.readPlain
  else .error (.marked ⟨some (.nextToken, none), .noTokenStart ch, l.cursor.mark⟩)

/-- Moves to the next token and reads it. -/
def step (l : Lexer) : Except Error Lexer := do
  let c := l.cursor
  let c := if c.index = 0 ∧ c.peek = some '\uFEFF' then c.next else c
  let l ← ({ l with cursor := c }.skipToToken (c.rest.length + 1)).dropStale
  let l := l.unwind l.cursor.column
  let l ←
    match l.cursor.peek with
    | none => l.readStreamEnd
    | some ch => l.readToken ch
  if l.done then return l else l.dropStale

/-- Reads tokens up to the end or a fault. -/
def run : (fuel : Nat) → Lexer → TokenStream
  | 0, l => ⟨l.tokens.reverse, none⟩
  | fuel + 1, l =>
    if l.done then ⟨l.tokens.reverse, none⟩
    else
      match l.step with
      | .ok l => run fuel l
      | .error e => ⟨l.tokens.reverse.take l.certain, some e⟩

end Lexer

/-- The tokens of a text. -/
def Token.scan (text : List Char) : TokenStream :=
  (Lexer.ofText text).run (text.length + 3)

end FormatterConfig.Yaml
