import FormatterConfig.Log.Record
import FormatterConfig.Value.Conversion

set_option autoImplicit false

/-! # Regions

A region restricts formatting to a range of lines. A user gives it by its first and last line,
counted from one, either of which may be left open; the formatter needs the number of lines before
and after it, which depends on the length of the input. -/

namespace FormatterConfig

/-- A region by its first and last line. -/
structure Region where
  start : Option Int
  stop : Option Int
  deriving DecidableEq

/-- The lines before and after a region. -/
structure Margins where
  before : Int
  after : Int
  deriving DecidableEq

/-- Why a region does not fit an input. -/
inductive RegionFault where
  | startBelowOne (start : Int)
  | startPastEnd (start total : Int)
  | stopBelowOne (stop : Int)
  | stopPastEnd (stop total : Int)
  | startAfterStop (start stop : Int)
  deriving DecidableEq

namespace RegionFault

/-- The wording of a fault. -/
def message : RegionFault → String
  | .startBelowOne start => "Region start must be at least 1, got " ++ toString start
  | .startPastEnd start total =>
    "Region start " ++ toString start ++ " is past the last line of the input (" ++
      toString total ++ ")"
  | .stopBelowOne stop => "Region end must be at least 1, got " ++ toString stop
  | .stopPastEnd stop total =>
    "Region end " ++ toString stop ++ " is past the last line of the input (" ++
      toString total ++ ")"
  | .startAfterStop start stop =>
    "Region start " ++ toString start ++ " is after region end " ++ toString stop

/-- The integers that the wording of a fault shows. -/
def shown : RegionFault → List Int
  | .startBelowOne start => [start]
  | .startPastEnd start total => [start, total]
  | .stopBelowOne stop => [stop]
  | .stopPastEnd stop total => [stop, total]
  | .startAfterStop start stop => [start, stop]

/-- Whether the wording of a fault would show an integer too long to be written out. -/
def isUnwritable (fault : RegionFault) : Bool := fault.shown.any Decimal.exceedsDigitLimit

end RegionFault

/-- What keeps a region from being accepted: it is refused, or its refusal cannot be worded. -/
inductive RegionFailure where
  | refused (fault : RegionFault)
  | broken (fault : ConversionFault)
  deriving DecidableEq

/-- What a fault ends in. -/
def RegionFault.failure (fault : RegionFault) : RegionFailure :=
  if fault.isUnwritable then .broken .longInteger else .refused fault

namespace Region

/-- The whole input. -/
def whole : Region := ⟨none, none⟩

/-- Accepts the regions that fit an input of `total` lines. -/
def check (r : Region) (total : Int) : Except RegionFailure Unit := do
  if let some start := r.start then
    if start < 1 then throw (RegionFault.startBelowOne start).failure
    if total < start then throw (RegionFault.startPastEnd start total).failure
  if let some stop := r.stop then
    if stop < 1 then throw (RegionFault.stopBelowOne stop).failure
    if total < stop then throw (RegionFault.stopPastEnd stop total).failure
  if let (some start, some stop) := (r.start, r.stop) then
    if stop < start then throw (RegionFault.startAfterStop start stop).failure

/-- The lines before and after a region in an input of `total` lines, whether it fits or not. -/
def margins (r : Region) (total : Int) : Margins :=
  { before := (r.start.map (· - 1)).getD 0
    after := (r.stop.map (total - ·)).getD 0 }

/-- How a message shows a line that may be left open. -/
def displayBound : Option Int → Except ConversionFault String
  | some n => writeInteger n
  | none => .ok "None"

/-- How a message shows a region. -/
def display (r : Region) : Except ConversionFault String := do
  return "RegionIndices(start=" ++ (← displayBound r.start) ++ ", end=" ++
    (← displayBound r.stop) ++ ")"

/-- How a message shows margins. -/
def displayMargins (m : Margins) : Except ConversionFault String := do
  return "RegionDeltas(prefix_lines=" ++ (← writeInteger m.before) ++ ", suffix_lines=" ++
    (← writeInteger m.after) ++ ")"

/-- The note of a region's margins. -/
def noteText (r : Region) (total : Int) (m : Margins) : Except ConversionFault String := do
  return "Region " ++ (← r.display) ++ " of " ++ (← writeInteger total) ++ " lines -> " ++
    (← displayMargins m)

/-- The logger of regions. -/
def loggerName : String := "fourmolu_config.config.region"

/-- The margins of a region, and a note of them. A note that cannot be worded is lost, and is no
error of whoever asks for the margins. -/
def marginsLogged {ε : Type} (r : Region) (total : Int) : Logged ε Margins := do
  let m := r.margins total
  if let .ok text := noteText r total m then Logged.note .trace loggerName text
  return m

/-- The margins are made whatever the region, and a note of them does not matter. -/
@[simp] theorem outcome_marginsLogged {ε : Type} (r : Region) (total : Int) :
    (r.marginsLogged total : Logged ε Margins).outcome = .ok (r.margins total) := by
  unfold marginsLogged
  dsimp only
  split
  · rfl
  · rfl

end Region

end FormatterConfig
