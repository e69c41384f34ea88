import FormatterConfig.Log.Record

set_option autoImplicit false

/-! # The text of a record

A record's text shows its level and its message, and in the detailed format also where it was
written. It has a colour by its level; how a text is coloured is given. -/

namespace FormatterConfig.Log

/-- The formats of records. -/
inductive Format where
  | plain
  | detailed
  deriving DecidableEq

/-- Where a record was written. -/
structure Site where
  path : String
  line : Int
  function : String

/-- The last component of a path. -/
def fileName (path : String) : String :=
  String.ofList (path.toList.reverse.takeWhile (· != '/')).reverse

/-- The text of a record before it is coloured, by the name of its level. -/
def Format.text (f : Format) (levelName : String) (site : Site) (message : String) : String :=
  let head := "[" ++ levelName ++ "] "
  match f with
  | .plain => head ++ message
  | .detailed =>
    head ++ "[" ++ fileName site.path ++ ":" ++ toString site.line ++ "] [" ++ site.function ++
      "] " ++ message

/-! ## Colours -/

/-- The colours of records. -/
inductive Color where
  | brightRed
  | red
  | yellow
  | green
  | gray
  | blue
  | dimRed
  deriving DecidableEq

/-- What colours a text. -/
abbrev Paint := Color → String → String

/-- The colour of a level. -/
def Level.color (level : Level) : Color :=
  if level ≥ .critical then .brightRed
  else if level ≥ .error then .red
  else if level ≥ .warning then .yellow
  else if level ≥ .info then .green
  else if level ≥ .debug then .gray
  else if level ≥ .trace then .blue
  else .dimRed

/-- The coloured text of a record, by its level and the name of that. -/
def Format.colored (paint : Paint) (f : Format) (level : Level) (levelName : String) (site : Site)
    (message : String) : String :=
  paint level.color (f.text levelName site message)

end FormatterConfig.Log
