import FormatterConfig.Text.Utf8
import FormatterConfig.Yaml.Cursor
import FormatterConfig.Yaml.Token.Basic

set_option autoImplicit false

/-! # Anchors, tags and directives

The words that qualify nodes and documents: anchors and aliases, tags in their four spellings, and
the directives in front of a document. -/

namespace FormatterConfig.Yaml

/-! ## Anchors and aliases -/

/-- Whether a name may end before a character. -/
def endsAnchor (c : Option Char) : Bool :=
  isBlankOrEnd c ||
    c.any fun ch => ['?', ':', ',', ']', '\x7d', '%', '@', '\x60'].contains ch

/-- Reads an anchor or an alias; the cursor is at its indicator. -/
def scanAnchor (c : Cursor) : Except Error (Token × Cursor) :=
  let start := c.mark
  let isAlias := c.peek == some '*'
  let context : Context := if isAlias then .alias else .anchor
  let c := c.next
  let word := c.run isWordCharacter
  let after := c.skip word.length
  let name := String.ofList word
  if word.isEmpty then .error (.within context start c.mark (.unexpected .wordCharacter c.peek))
  else if !endsAnchor after.peek then
    .error (.within context start after.mark (.unexpected .wordCharacter after.peek))
  else .ok (⟨if isAlias then .alias name else .anchor name, start, after.mark⟩, after)

/-! ## Tags -/

/-- The characters of a tag's address. -/
def isUriCharacter (c : Char) : Bool :=
  c.isAlphanum ||
    ['-', ';', '/', '?', ':', '@', '&', '=', '+', '$', ',', '_', '.', '!', '~', '*', '\x27', '(',
      ')', '[', ']', '%'].contains c

/-- The bytes of percent escapes in a row. -/
def uriEscapes (context : Context) (start : Mark) : (fuel : Nat) → List UInt8 → Cursor →
    Except Error (List UInt8 × Cursor)
  | 0, found, c => .ok (found, c)
  | fuel + 1, found, c =>
    if c.peek = some '%' then
      let c := c.next
      let digits := (c.rest.take 2).takeWhile isHexDigit
      if digits.length < 2 then
        .error (.within context start c.mark (.unexpected .uriEscape (c.peekAt digits.length)))
      else uriEscapes context start fuel (found ++ [UInt8.ofNat (hexValue digits)]) (c.skip 2)
    else .ok (found, c)

/-- The characters of an address, escapes decoded. -/
def uriText (context : Context) (start : Mark) : (fuel : Nat) → List Char → Cursor →
    Except Error (List Char × Cursor)
  | 0, found, c => .ok (found, c)
  | fuel + 1, found, c => do
    let plain := c.run fun ch => isUriCharacter ch && ch != '%'
    let c := c.skip plain.length
    let found := found ++ plain
    if c.peek = some '%' then
      let mark := c.mark
      let (bytes, c) ← uriEscapes context start (c.rest.length + 1) [] c
      match Text.decodeUtf8 bytes with
      | .ok text => uriText context start fuel (found ++ text) c
      | .error fault => .error (.within context start mark (.malformedUri fault))
    else return (found, c)

/-- Reads an address, which may not be empty. The first context names malformed escapes, the second
a missing address. -/
def scanUri (context missing : Context) (start : Mark) (c : Cursor) :
    Except Error (String × Cursor) := do
  if c.peek.any isUriCharacter then
    let (text, c) ← uriText context start (c.rest.length + 1) [] c
    return (String.ofList text, c)
  else .error (.within missing start c.mark (.unexpected .uri c.peek))

/-- Reads a handle: `!`, `!!` or a word between exclamation marks. -/
def scanHandle (context : Context) (start : Mark) (c : Cursor) : Except Error (String × Cursor) :=
  if c.peek ≠ some '!' then .error (.within context start c.mark (.unexpected .exclamation c.peek))
  else
    let after := c.next
    if after.peek = some ' ' then .ok ("!", after)
    else
      let word := after.run isWordCharacter
      let close := after.skip word.length
      if close.peek = some '!' then .ok (String.ofList ('!' :: word ++ ['!']), close.next)
      else .error (.within context start close.mark (.unexpected .exclamation close.peek))

/-- Reads a tag; the cursor is at its exclamation mark. -/
def scanTag (c : Cursor) : Except Error (Token × Cursor) := do
  let start := c.mark
  let (handle, suffix, c) ←
    if c.peekAt 1 = some '<' then do
      let (suffix, c) ← scanUri .tag .tagUri start (c.skip 2)
      if c.peek = some '>' then pure (none, suffix, c.next)
      else .error (.within .tagUri start c.mark (.unexpected .closingAngle c.peek))
    else if isBlankOrEnd (c.peekAt 1) then pure (none, "!", c.next)
    else do
      let word := (c.rest.drop 1).takeWhile fun ch => !(isSpaceOrEnd (some ch))
      let (handle, c) ← if word.contains '!' then scanHandle .tag start c else pure ("!", c.next)
      let (suffix, c) ← scanUri .tag .tagUri start c
      pure (some handle, suffix, c)
  if isSpaceOrEnd c.peek then return (⟨.tag handle suffix, start, c.mark⟩, c)
  else .error (.within .tag start c.mark (.unexpected .blank c.peek))

/-! ## Directives -/

/-- Reads the decimal number of a version. -/
def scanVersionNumber (start : Mark) (c : Cursor) : Except Error (Nat × Cursor) :=
  let digits := c.run Char.isDigit
  if digits.isEmpty then .error (.within .directive start c.mark (.unexpected .digit c.peek))
  else if Decimal.digitLimit < digits.length then
    .error (.conversion (.tooManyDigits digits.length))
  else .ok (digits.foldl (fun n d => n * 10 + (d.toNat - 48)) 0, c.skip digits.length)

/-- Reads the version of a `%YAML` directive. -/
def scanVersion (start : Mark) (c : Cursor) : Except Error (Directive × Cursor) := do
  let (major, c) ← scanVersionNumber start (c.skipWhile (· == ' '))
  if c.peek ≠ some '.' then
    .error (.within .directive start c.mark (.unexpected .digitOrPoint c.peek))
  let (minor, c) ← scanVersionNumber start c.next
  if isSpaceOrEnd c.peek then return (.version major minor, c)
  else .error (.within .directive start c.mark (.unexpected .digitOrBlank c.peek))

/-- Reads the handle and the address of a `%TAG` directive. -/
def scanTagHandle (start : Mark) (c : Cursor) : Except Error (Directive × Cursor) := do
  let (handle, c) ← scanHandle .directive start (c.skipWhile (· == ' '))
  if c.peek ≠ some ' ' then .error (.within .directive start c.mark (.unexpected .blank c.peek))
  let (uri, c) ← scanUri .directive .directiveUri start (c.skipWhile (· == ' '))
  if isSpaceOrEnd c.peek then return (.tagHandle handle uri, c)
  else .error (.within .directive start c.mark (.unexpected .blank c.peek))

/-- Reads a directive and its line; the cursor is at the percent sign. -/
def scanDirective (c : Cursor) : Except Error (Token × Cursor) := do
  let start := c.mark
  let c := c.next
  let word := c.run isWordCharacter
  if word.isEmpty then
    .error (.within .directive start c.mark (.unexpected .wordCharacter c.peek))
  let c := c.skip word.length
  if !isSpaceOrEnd c.peek then
    .error (.within .directive start c.mark (.unexpected .wordCharacter c.peek))
  let (directive, stop, c) ←
    if word = "YAML".toList then do
      let (d, c) ← scanVersion start c
      pure (d, c.mark, c)
    else if word = "TAG".toList then do
      let (d, c) ← scanTagHandle start c
      pure (d, c.mark, c)
    else pure (.other, c.mark, c.skipWhile fun ch => !isBreak ch)
  let c := c.skipWhile (· == ' ')
  let c := if c.peek = some '#' then c.skipWhile fun ch => !isBreak ch else c
  if isBreakOrEnd c.peek then return (⟨.directive directive, start, stop⟩, c.lineBreak.2)
  else .error (.within .directive start c.mark (.unexpected .commentOrBreak c.peek))

end FormatterConfig.Yaml
