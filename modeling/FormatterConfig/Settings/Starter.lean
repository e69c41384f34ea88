import FormatterConfig.Settings.Basic
import FormatterConfig.Yaml.Writing.Encode

set_option autoImplicit false

/-! # The starter document

A document that sets every setting to its default, each below a comment that says what it is for,
and declares no fixities. -/

namespace FormatterConfig

/-- A comment and the entry that it is about. -/
def commented (comment : String) (key : String) (v : Value) :
    Except ConversionFault String := do
  let text ← Mapping.yaml [(.text key, v)]
  return "# " ++ comment ++ "\n" ++ text

/-- The paragraph of a setting. -/
def Setting.paragraph (s : Setting) : Except ConversionFault String :=
  commented s.description s.key (TotalSettings.defaults s).written

/-- The starter document. -/
def starterDocument : Except ConversionFault String := do
  let paragraphs ← Setting.all.mapM Setting.paragraph
  let last ←
    commented "Fixity declarations of operators, e.g. 'infixr 5 <+>'" fixitiesKey (.list [])
  return "\n".intercalate (paragraphs ++ [last])

end FormatterConfig
