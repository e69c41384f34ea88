import FormatterConfig.Choice
import FormatterConfig.Value.Basic

set_option autoImplicit false

/-! # The printer settings

The settings that control how code is printed, in their fixed order. A setting has a name, by which
a caller passes it, a key, by which a document sets it, a kind of value, a default and a
description. The key is the name with hyphens for low lines. -/

namespace FormatterConfig

/-- A printer setting. -/
inductive Setting where
  | indentation
  | commaStyle
  | importExportCommaStyle
  | indentWheres
  | recordBraceSpace
  | diffFriendlyImportExport
  | respectful
  | docStyle
  | newlinesBetweenDecls
  deriving DecidableEq

/-- The kinds of values that settings take. -/
inductive SettingKind where
  | integer (minimum : Option Int)
  | truth
  | choice (kind : ChoiceKind)
  deriving DecidableEq

/-- The key of a name: hyphens for low lines. -/
def keyOfName (name : String) : String :=
  String.ofList (name.toList.map fun c => if c = '_' then '-' else c)

namespace Setting

/-- The settings in order. -/
def all : List Setting :=
  [.indentation, .commaStyle, .importExportCommaStyle, .indentWheres, .recordBraceSpace,
    .diffFriendlyImportExport, .respectful, .docStyle, .newlinesBetweenDecls]

/-- The name by which a caller passes a setting. -/
def name : Setting → String
  | .indentation => "indentation"
  | .commaStyle => "comma_style"
  | .importExportCommaStyle => "import_export_comma_style"
  | .indentWheres => "indent_wheres"
  | .recordBraceSpace => "record_brace_space"
  | .diffFriendlyImportExport => "diff_friendly_import_export"
  | .respectful => "respectful"
  | .docStyle => "haddock_style"
  | .newlinesBetweenDecls => "newlines_between_decls"

/-- The key by which a document sets a setting. -/
def key (s : Setting) : String := keyOfName s.name

/-- The kind of value that a setting takes. -/
def kind : Setting → SettingKind
  | .indentation => .integer none
  | .commaStyle => .choice .comma
  | .importExportCommaStyle => .choice .comma
  | .indentWheres => .truth
  | .recordBraceSpace => .truth
  | .diffFriendlyImportExport => .truth
  | .respectful => .truth
  | .docStyle => .choice .doc
  | .newlinesBetweenDecls => .integer (some 0)

/-- The value of a setting that nothing sets. -/
def default : Setting → Value
  | .indentation => .int 4
  | .commaStyle => .choice (.comma .leading)
  | .importExportCommaStyle => .choice (.comma .trailing)
  | .indentWheres => .bool false
  | .recordBraceSpace => .bool false
  | .diffFriendlyImportExport => .bool true
  | .respectful => .bool true
  | .docStyle => .choice (.doc .multiLine)
  | .newlinesBetweenDecls => .int 1

/-- What a setting is for. -/
def description : Setting → String
  | .indentation => "Number of spaces per indentation step"
  | .commaStyle => "Styling of commas in multi-line lists (leading or trailing)"
  | .importExportCommaStyle => "Styling of commas in import and export lists (leading or trailing)"
  | .indentWheres => "Whether to indent 'where' bindings past the preceding body"
  | .recordBraceSpace => "Whether to leave a space before an opening record brace"
  | .diffFriendlyImportExport =>
    "Whether to put trailing commas and parentheses of import/export lists on separate lines"
  | .respectful => "Whether to be less opinionated about spaces and newlines"
  | .docStyle => "How to print doc comments (single-line or multi-line)"
  | .newlinesBetweenDecls => "Number of blank lines between top-level declarations"

/-- The setting with a name. -/
def ofName? (name : String) : Option Setting := all.find? fun s => s.name == name

/-- The place of a setting in the order. -/
def index (s : Setting) : Nat := all.idxOf s

theorem mem_all (s : Setting) : s ∈ all := by
  cases s <;> decide

end Setting

/-- Whether a value is of a kind that a setting takes. -/
def SettingKind.admits : SettingKind → Value → Bool
  | .integer minimum, .int n => minimum.all fun m => decide (m ≤ n)
  | .truth, .bool _ => true
  | .choice kind, .choice c => c.kind == kind
  | _, _ => false

/-- The key of the fixity declarations in a document. -/
def fixitiesKey : String := "fixities"

end FormatterConfig
