import FormatterConfig.Text.LetterCase
import FormatterConfig.Text.Quoted

set_option autoImplicit false

/-! # Enumerated choices

The settings that take one of a few named values. A choice has a *tag*, its spelling in documents,
and a *member name*, its spelling in messages; `ChoiceKind` says which setting it belongs to, so
that choices of different kinds can stand side by side in decoded data. -/

namespace FormatterConfig

/-- Where commas stand in lists of several lines. -/
inductive CommaStyle where
  | leading
  | trailing
  deriving DecidableEq

/-- How documentation comments are printed. -/
inductive DocStyle where
  | singleLine
  | multiLine
  deriving DecidableEq

/-- The kind of source that is formatted. -/
inductive SourceKind where
  | module
  | signature
  deriving DecidableEq

/-- Whether terminal output is coloured. -/
inductive ColorMode where
  | never
  | always
  | auto
  deriving DecidableEq

/-- Which way an operator associates. -/
inductive Direction where
  | left
  | right
  | neither
  deriving DecidableEq

/-- A choice of any kind. -/
inductive Choice where
  | comma (c : CommaStyle)
  | doc (d : DocStyle)
  | source (s : SourceKind)
  | color (m : ColorMode)
  | direction (d : Direction)
  deriving DecidableEq

/-- The settings that take a choice. -/
inductive ChoiceKind where
  | comma
  | doc
  | source
  | color
  | direction
  deriving DecidableEq

namespace Choice

/-- The setting that a choice belongs to. -/
def kind : Choice → ChoiceKind
  | .comma _ => .comma
  | .doc _ => .doc
  | .source _ => .source
  | .color _ => .color
  | .direction _ => .direction

/-- The spelling of a choice in documents. -/
def tag : Choice → String
  | .comma .leading => "leading"
  | .comma .trailing => "trailing"
  | .doc .singleLine => "single-line"
  | .doc .multiLine => "multi-line"
  | .source .module => "module"
  | .source .signature => "signature"
  | .color .never => "never"
  | .color .always => "always"
  | .color .auto => "auto"
  | .direction .left => "infixl"
  | .direction .right => "infixr"
  | .direction .neither => "infix"

/-- The name of a choice in messages. -/
def memberName : Choice → String
  | .comma .leading => "LEADING"
  | .comma .trailing => "TRAILING"
  | .doc .singleLine => "SINGLE_LINE"
  | .doc .multiLine => "MULTI_LINE"
  | .source .module => "MODULE"
  | .source .signature => "SIGNATURE"
  | .color .never => "NEVER"
  | .color .always => "ALWAYS"
  | .color .auto => "AUTO"
  | .direction .left => "INFIXL"
  | .direction .right => "INFIXR"
  | .direction .neither => "INFIXN"

end Choice

namespace ChoiceKind

/-- The choices of a kind, in the order in which messages list them. -/
def members : ChoiceKind → List Choice
  | .comma => [.comma .leading, .comma .trailing]
  | .doc => [.doc .singleLine, .doc .multiLine]
  | .source => [.source .module, .source .signature]
  | .color => [.color .never, .color .always, .color .auto]
  | .direction => [.direction .left, .direction .right, .direction .neither]

/-- The name of a kind in messages. -/
def name : ChoiceKind → String
  | .comma => "CommaStyle"
  | .doc => "HaddockPrintStyle"
  | .source => "SourceType"
  | .color => "ColorMode"
  | .direction => "FixityDirection"

/-- The choice of a kind with a tag. -/
def ofTag? (k : ChoiceKind) (tag : String) : Option Choice :=
  k.members.find? (·.tag == tag)

theorem mem_members {k : ChoiceKind} {c : Choice} : c ∈ k.members ↔ c.kind = k := by
  cases k <;> cases c <;> rename_i x <;> cases x <;> simp [members, Choice.kind]

/-- A tag names the choice that carries it. -/
theorem ofTag?_tag (c : Choice) : c.kind.ofTag? c.tag = some c := by
  cases c <;> rename_i x <;> cases x <;> decide

end ChoiceKind

/-- How a message shows a choice. -/
def Choice.display (c : Choice) : String :=
  "<" ++ c.kind.name ++ "." ++ c.memberName ++ ": " ++ Text.quoted c.tag ++ ">"

/-- The colour mode whose name is the given one in upper case. -/
def ColorMode.ofName? (name : String) : Option ColorMode :=
  let upper := String.ofList (Text.upperCase name.toList)
  [ColorMode.never, .always, .auto].find? fun m => (Choice.color m).memberName == upper

end FormatterConfig
