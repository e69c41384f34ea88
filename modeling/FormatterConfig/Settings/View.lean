import FormatterConfig.Settings.Basic

set_option autoImplicit false

/-! # Views of the settings

The settings that a source gives, or all of them. Filling the gaps of a view from another one gives
a view of the other one's kind: what a partial view leaves open may stay open, and a total one
closes every gap. -/

namespace FormatterConfig

/-- The settings, given in part or in full. -/
inductive SettingsView where
  | part (p : PartialSettings)
  | whole (t : TotalSettings)

namespace SettingsView

/-- The settings that a view gives. -/
def given : SettingsView → PartialSettings
  | .part p => p
  | .whole t => t.thaw

/-- A view with its gaps filled from another one. -/
def fill (high : SettingsView) : SettingsView → SettingsView
  | .part low => .part (high.given.combine low)
  | .whole low => .whole (high.given.resolve low)

/-- The settings of a caller, then those of a file, then a base. -/
def layer (caller file base : SettingsView) : SettingsView := caller.fill (file.fill base)

/-- Whether two views are of one kind and equal throughout. -/
def same : SettingsView → SettingsView → Bool
  | .part p, .part q => p.same q
  | .whole t, .whole u => t.same u
  | _, _ => false

/-- A view as the entries of a document, in order. -/
def entries : SettingsView → Mapping
  | .part p => p.entries
  | .whole t => t.entries

end SettingsView

end FormatterConfig
