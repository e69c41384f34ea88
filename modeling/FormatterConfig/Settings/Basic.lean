import FormatterConfig.Settings.Schema

set_option autoImplicit false

/-! # Settings given and settings resolved

A source of settings gives some of them: `PartialSettings`. The printer needs all of them:
`TotalSettings`. Layering keeps what the stronger source gives and fills the gaps from
the weaker. -/

namespace FormatterConfig

/-- The settings that a source gives. -/
def PartialSettings : Type := Setting → Option Value

/-- A value for every setting. -/
def TotalSettings : Type := Setting → Value

namespace PartialSettings

/-- No setting given. -/
def empty : PartialSettings := fun _ => none

/-- The settings of `high`, with the gaps filled from `low`. -/
def combine (high low : PartialSettings) : PartialSettings := fun s => (high s).or (low s)

/-- The settings of a source, with the gaps filled from a full set. -/
def resolve (p : PartialSettings) (base : TotalSettings) : TotalSettings :=
  fun s => (p s).getD (base s)

/-- Whether no setting is given. -/
def isEmpty (p : PartialSettings) : Bool := Setting.all.all fun s => (p s).isNone

/-- Whether every given setting has a value of its kind. -/
def wellFormed (p : PartialSettings) : Bool :=
  Setting.all.all fun s => (p s).all s.kind.admits

/-- Whether two sources give the same settings with equal values. -/
def same (p q : PartialSettings) : Bool :=
  Setting.all.all fun s =>
    match p s, q s with
    | none, none => true
    | some v, some w => v.same w
    | _, _ => false

end PartialSettings

namespace TotalSettings

/-- The defaults. -/
def defaults : TotalSettings := Setting.default

/-- All settings as given ones. -/
def thaw (t : TotalSettings) : PartialSettings := fun s => some (t s)

/-- Whether every setting has a value of its kind. -/
def wellFormed (t : TotalSettings) : Bool := Setting.all.all fun s => s.kind.admits (t s)

/-- Whether two sets have equal values throughout. -/
def same (t u : TotalSettings) : Bool := Setting.all.all fun s => (t s).same (u s)

end TotalSettings

/-- The settings of a run: those of the caller, then those of the file, then a full set. -/
def layerSettings (caller file : PartialSettings) (base : TotalSettings) : TotalSettings :=
  caller.resolve (file.resolve base)

/-! ## Written form

A document holds choices by their tags; other values stand for themselves. -/

/-- A value as a document holds it. -/
def Value.written : Value → Value
  | .choice c => .text c.tag
  | v => v

/-- The given settings as the entries of a document, in order. -/
def PartialSettings.entries (p : PartialSettings) : Mapping :=
  Setting.all.filterMap fun s => (p s).map fun v => (.text s.key, v.written)

/-- All settings as the entries of a document, in order. -/
def TotalSettings.entries (t : TotalSettings) : Mapping :=
  Setting.all.map fun s => (.text s.key, (t s).written)

end FormatterConfig
