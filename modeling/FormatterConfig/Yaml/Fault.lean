import FormatterConfig.Text.Quoted
import FormatterConfig.Text.Base64
import FormatterConfig.Text.Utf8
import FormatterConfig.Value.Basic
import FormatterConfig.Value.Conversion
import FormatterConfig.Yaml.Mark

set_option autoImplicit false

/-! # Faults of a document

What can be wrong with a document: a problem at a mark, perhaps in a context that began at another
mark; a character that may not occur at all; or a scalar whose text does not convert. Problems and
contexts are named here, and each has one wording. What decodes documents is a `Decoder`: a document
that it refuses has a fault, and anything else that keeps it from a value is no fault of the
document. -/

namespace FormatterConfig.Yaml

/-- What was being read. -/
inductive Context where
  | nextToken
  | simpleKey
  | directive
  | directiveUri
  | alias
  | anchor
  | tag
  | tagUri
  | blockScalar
  | doubleQuotedScalar
  | quotedScalar
  | blockNode
  | flowNode
  | taggedNode
  | blockCollection
  | blockMapping
  | flowSequence
  | flowMapping
  | firstOccurrence (anchor : String)
  | singleDocument
  | mapping
  | orderedMap
  | pairs
  deriving DecidableEq

/-- What a character was expected to be. -/
inductive Wanted where
  | wordCharacter
  | digit
  | digitOrPoint
  | digitOrBlank
  | exclamation
  | blank
  | closingAngle
  | uri
  | uriEscape
  | blockIndicators
  | commentOrBreak
  | escapeDigits (count : Nat)
  deriving DecidableEq

/-- What a token was expected to be. -/
inductive WantedToken where
  | documentStart
  | nodeContent
  | blockEnd
  | sequenceSeparator
  | mappingSeparator
  deriving DecidableEq

/-- The kinds of nodes. -/
inductive NodeKind where
  | scalar
  | sequence
  | mapping
  deriving DecidableEq

/-- What is wrong. -/
inductive Problem where
  | noTokenStart (c : Char)
  | missingColon
  | sequenceEntryNotAllowed
  | mappingKeyNotAllowed
  | mappingValueNotAllowed
  | unexpected (wanted : Wanted) (found : Option Char)
  | zeroIndentation
  | unknownEscape (c : Option Char)
  | endOfStream
  | documentSeparator
  | malformedUri (fault : Text.Utf8Fault)
  | unexpectedToken (wanted : WantedToken) (found : String)
  | duplicateVersion
  | incompatibleVersion
  | duplicateHandle (handle : String)
  | undefinedHandle (handle : String)
  | undefinedAlias (anchor : String)
  | secondOccurrence
  | anotherDocument
  | unknownTag (tag : String)
  | wrongNode (wanted found : NodeKind)
  | unhashableKey
  | notMergeable (found : NodeKind)
  | notMergeableItem (found : NodeKind)
  | notSequence (found : NodeKind)
  | notSingleMapping (found : NodeKind)
  | notSingleItem (count : Nat)
  | base64 (fault : Text.Base64Fault)
  | notAscii (message : String)
  deriving DecidableEq

/-- The wording of a context. -/
def Context.message : Context → String
  | .nextToken => "while scanning for the next token"
  | .simpleKey => "while scanning a simple key"
  | .directive => "while scanning a directive"
  | .directiveUri => "while parsing a directive"
  | .alias => "while scanning an alias"
  | .anchor => "while scanning an anchor"
  | .tag => "while scanning a tag"
  | .tagUri => "while parsing a tag"
  | .blockScalar => "while scanning a block scalar"
  | .doubleQuotedScalar => "while scanning a double-quoted scalar"
  | .quotedScalar => "while scanning a quoted scalar"
  | .blockNode => "while parsing a block node"
  | .flowNode => "while parsing a flow node"
  | .taggedNode => "while parsing a node"
  | .blockCollection => "while parsing a block collection"
  | .blockMapping => "while parsing a block mapping"
  | .flowSequence => "while parsing a flow sequence"
  | .flowMapping => "while parsing a flow mapping"
  | .firstOccurrence name => "found duplicate anchor " ++ Text.quoted name ++ "; first occurrence"
  | .singleDocument => "expected a single document in the stream"
  | .mapping => "while constructing a mapping"
  | .orderedMap => "while constructing an ordered map"
  | .pairs => "while constructing pairs"

/-- The wording of an expected character. -/
def Wanted.message : Wanted → String
  | .wordCharacter => "alphabetic or numeric character"
  | .digit => "a digit"
  | .digitOrPoint => "a digit or '.'"
  | .digitOrBlank => "a digit or ' '"
  | .exclamation => "'!'"
  | .blank => "' '"
  | .closingAngle => "'>'"
  | .uri => "URI"
  | .uriEscape => "URI escape sequence of 2 hexadecimal numbers"
  | .blockIndicators => "chomping or indentation indicators"
  | .commentOrBreak => "a comment or a line break"
  | .escapeDigits count => "escape sequence of " ++ toString count ++ " hexadecimal numbers"

/-- The wording of an expected token and of what was there instead. -/
def WantedToken.message (found : String) : WantedToken → String
  | .documentStart => "expected '<document start>', but found " ++ found
  | .nodeContent => "expected the node content, but found " ++ found
  | .blockEnd => "expected <block end>, but found " ++ found
  | .sequenceSeparator => "expected ',' or ']', but got " ++ found
  | .mappingSeparator => "expected ',' or '\x7d', but got " ++ found

/-- The name of a kind of node. -/
def NodeKind.name : NodeKind → String
  | .scalar => "scalar"
  | .sequence => "sequence"
  | .mapping => "mapping"

/-- The quoted form of a character; the end of the text counts as the character zero. -/
def foundText (c : Option Char) : String := Text.quotedChar (c.getD '\x00')

/-- The wording of a problem. -/
def Problem.message : Problem → String
  | .noTokenStart c => "found character " ++ Text.quotedChar c ++ " that cannot start any token"
  | .missingColon => "could not find expected ':'"
  | .sequenceEntryNotAllowed => "sequence entries are not allowed here"
  | .mappingKeyNotAllowed => "mapping keys are not allowed here"
  | .mappingValueNotAllowed => "mapping values are not allowed here"
  | .unexpected wanted found => "expected " ++ wanted.message ++ ", but found " ++ foundText found
  | .zeroIndentation => "expected indentation indicator in the range 1-9, but found 0"
  | .unknownEscape c => "found unknown escape character " ++ foundText c
  | .endOfStream => "found unexpected end of stream"
  | .documentSeparator => "found unexpected document separator"
  | .malformedUri fault => fault.message
  | .unexpectedToken wanted found => wanted.message (Text.quoted found)
  | .duplicateVersion => "found duplicate YAML directive"
  | .incompatibleVersion => "found incompatible YAML document (version 1.* is required)"
  | .duplicateHandle handle => "duplicate tag handle " ++ Text.quoted handle
  | .undefinedHandle handle => "found undefined tag handle " ++ Text.quoted handle
  | .undefinedAlias anchor => "found undefined alias " ++ Text.quoted anchor
  | .secondOccurrence => "second occurrence"
  | .anotherDocument => "but found another document"
  | .unknownTag tag => "could not determine a constructor for the tag " ++ Text.quoted tag
  | .wrongNode wanted found => "expected a " ++ wanted.name ++ " node, but found " ++ found.name
  | .unhashableKey => "found unhashable key"
  | .notMergeable found =>
    "expected a mapping or list of mappings for merging, but found " ++ found.name
  | .notMergeableItem found => "expected a mapping for merging, but found " ++ found.name
  | .notSequence found => "expected a sequence, but found " ++ found.name
  | .notSingleMapping found => "expected a mapping of length 1, but found " ++ found.name
  | .notSingleItem count =>
    "expected a single mapping item, but found " ++ toString count ++ " items"
  | .base64 fault => "failed to decode base64 data: " ++ fault.message
  | .notAscii message => "failed to convert base64 data into ascii: " ++ message

/-- A problem at a mark, in a context that began at its own mark. -/
structure Fault where
  context : Option (Context × Option Mark)
  problem : Problem
  mark : Mark
  deriving DecidableEq

/-- A fault in words: the context, its mark unless that is where the problem is, the problem and its
mark, each on lines of its own. -/
def Fault.message (f : Fault) (text : List Char) : String :=
  let contextLines :=
    match f.context with
    | none => []
    | some (context, none) => [context.message]
    | some (context, some mark) =>
      if mark.line = f.mark.line ∧ mark.column = f.mark.column then [context.message]
      else [context.message, mark.describe text]
  "\n".intercalate (contextLines ++ [f.problem.message, f.mark.describe text])

/-- An error that a decoder does not know itself, by its kind and its wording. -/
structure Crash where
  kind : String
  wording : String
  deriving DecidableEq

/-- The stack is used up. -/
def Crash.stackExhausted : Crash := ⟨"RecursionError", "maximum recursion depth exceeded"⟩

/-- The stack is used up by showing a value. -/
def Crash.tooDeepToShow : Crash :=
  ⟨"RecursionError", "maximum recursion depth exceeded while getting the repr of an object"⟩

/-- Why a document is not decoded: it has a fault, a scalar in it does not convert, or the decoder
breaks down. -/
inductive Error where
  | marked (fault : Fault)
  | unacceptable (c : Char) (position : Nat)
  | conversion (fault : ConversionFault)
  | crash (cause : Crash)
  deriving DecidableEq

/-- What decodes the texts of documents. -/
abbrev Decoder := List Char → Except Error Value

/-- A fault without a context. -/
def Error.at (mark : Mark) (problem : Problem) : Error := .marked ⟨none, problem, mark⟩

/-- A fault in a context that began at its own mark. -/
def Error.within (context : Context) (start : Mark) (mark : Mark) (problem : Problem) : Error :=
  .marked ⟨some (context, some start), problem, mark⟩

/-- A character's code point in at least four hexadecimal digits. -/
def codePointText (c : Char) : String :=
  let width := if c.toNat < 0x10000 then 4 else if c.toNat < 0x100000 then 5 else 6
  String.ofList (Text.hexDigits width c.toNat)

/-- The wording of an error. -/
def Error.message (text : List Char) : Error → String
  | .marked fault => fault.message text
  | .unacceptable c position =>
    "unacceptable character #x" ++ codePointText c ++ ": special characters are not allowed\n" ++
      "  in \"<unicode string>\", position " ++ toString position
  | .conversion fault => fault.message
  | .crash cause => cause.wording

/-- The mark that an error is reported at. -/
def Error.mark? : Error → Option Mark
  | .marked fault => some fault.mark
  | _ => none

end FormatterConfig.Yaml
