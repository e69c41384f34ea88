import FormatterConfig.Decimal.Layout

set_option autoImplicit false

/-! # Dates and times of day

Dates of the years 1 to 9999, times of day to the microsecond, and moments: a date and a time,
perhaps with an offset from universal time. `check` accepts exactly the dates and times that exist,
and names the part at fault otherwise; `isoText` is the usual written form. -/

namespace FormatterConfig.Calendar

open FormatterConfig.Decimal

/-- A day. -/
structure Date where
  year : Nat
  month : Nat
  day : Nat
  deriving DecidableEq

/-- A time of day. -/
structure TimeOfDay where
  hour : Nat
  minute : Nat
  second : Nat
  microsecond : Nat
  deriving DecidableEq

/-- A date and a time, with the seconds by which local time is ahead of universal time if known. -/
structure Moment where
  date : Date
  time : TimeOfDay
  offset : Option Int
  deriving DecidableEq

/-- The part of a date or time that does not exist. -/
inductive Fault where
  | year (given : Nat)
  | month
  | day
  | hour
  | minute
  | second
  | offset (seconds : Int)
  deriving DecidableEq

def secondsPerDay : Nat := 86400

/-- Whole days and the seconds over, the latter never negative. -/
def splitDays (seconds : Int) : Int × Int :=
  (Int.fdiv seconds secondsPerDay, Int.fmod seconds secondsPerDay)

/-- The wording of a stretch of time in days and seconds; a part that is zero is left out. -/
def durationText (seconds : Int) : String :=
  let (days, rest) := splitDays seconds
  let dayPart := if days = 0 then [] else ["days=" ++ toString days]
  let secondPart := if rest = 0 then [] else ["seconds=" ++ toString rest]
  let parts := dayPart ++ secondPart
  "datetime.timedelta(" ++ (if parts.isEmpty then "0" else ", ".intercalate parts) ++ ")"

/-- The wording of a fault. -/
def Fault.message : Fault → String
  | .year given => "year " ++ toString given ++ " is out of range"
  | .month => "month must be in 1..12"
  | .day => "day is out of range for month"
  | .hour => "hour must be in 0..23"
  | .minute => "minute must be in 0..59"
  | .second => "second must be in 0..59"
  | .offset seconds =>
    "offset must be a timedelta strictly between -timedelta(hours=24) and timedelta(hours=24), not "
      ++ durationText seconds ++ "."

/-- Whether a year has a 29th of February. -/
def isLeapYear (year : Nat) : Bool :=
  (year % 4 == 0 && year % 100 != 0) || year % 400 == 0

/-- The number of days of a month. -/
def daysInMonth (year month : Nat) : Nat :=
  if month = 2 then (if isLeapYear year then 29 else 28)
  else if month = 4 ∨ month = 6 ∨ month = 9 ∨ month = 11 then 30
  else 31

/-- Accepts the dates that exist. -/
def Date.check (d : Date) : Except Fault Unit :=
  if d.year < 1 ∨ 9999 < d.year then .error (.year d.year)
  else if d.month < 1 ∨ 12 < d.month then .error .month
  else if d.day < 1 ∨ daysInMonth d.year d.month < d.day then .error .day
  else .ok ()

/-- Accepts the times of day that exist. -/
def TimeOfDay.check (t : TimeOfDay) : Except Fault Unit :=
  if 23 < t.hour then .error .hour
  else if 59 < t.minute then .error .minute
  else if 59 < t.second then .error .second
  else .ok ()

/-- Accepts offsets of less than a day. -/
def checkOffset (seconds : Int) : Except Fault Unit :=
  if seconds.natAbs < secondsPerDay then .ok () else .error (.offset seconds)

/-- The date as year, month and day in digits. -/
def Date.isoText (d : Date) : String :=
  digitsPadded 4 d.year ++ "-" ++ digitsPadded 2 d.month ++ "-" ++ digitsPadded 2 d.day

/-- The time to the second, or to the microsecond where it is not a whole second. -/
def TimeOfDay.isoText (t : TimeOfDay) : String :=
  digitsPadded 2 t.hour ++ ":" ++ digitsPadded 2 t.minute ++ ":" ++ digitsPadded 2 t.second ++
    (if t.microsecond = 0 then "" else "." ++ digitsPadded 6 t.microsecond)

/-- An offset as a sign, hours and minutes, and seconds where there are some. -/
def offsetText (seconds : Int) : String :=
  let n := seconds.natAbs
  (if seconds < 0 then "-" else "+") ++ digitsPadded 2 (n / 3600) ++ ":" ++
    digitsPadded 2 (n / 60 % 60) ++ (if n % 60 = 0 then "" else ":" ++ digitsPadded 2 (n % 60))

/-- The date, a separator, the time and the offset if known. -/
def Moment.isoText (m : Moment) (separator : String) : String :=
  m.date.isoText ++ separator ++ m.time.isoText ++ (m.offset.map offsetText).getD ""

/-- Days from the first day of the year 1. -/
def Date.dayNumber (d : Date) : Nat :=
  let y := d.year - 1
  365 * y + y / 4 - y / 100 + y / 400 +
    (List.range (d.month - 1)).foldl (fun n i => n + daysInMonth d.year (i + 1)) 0 + (d.day - 1)

/-- Microseconds from the start of the year 1, in universal time where the offset is known. -/
def Moment.microseconds (m : Moment) : Int :=
  let seconds : Int := m.date.dayNumber * secondsPerDay + m.time.hour * 3600 + m.time.minute * 60 +
    m.time.second
  (seconds - m.offset.getD 0) * 1000000 + m.time.microsecond

/-- How a message shows a date. -/
def Date.display (d : Date) : String :=
  "datetime.date(" ++ toString d.year ++ ", " ++ toString d.month ++ ", " ++ toString d.day ++ ")"

/-- How a message shows a time of day's parts: seconds and microseconds only as far as they are not
zero. -/
def TimeOfDay.parts (t : TimeOfDay) : List String :=
  [toString t.hour, toString t.minute] ++
    (if t.microsecond ≠ 0 then [toString t.second, toString t.microsecond]
     else if t.second ≠ 0 then [toString t.second]
     else [])

/-- How a message shows an offset. -/
def offsetDisplay (seconds : Int) : String :=
  if seconds = 0 then "datetime.timezone.utc"
  else "datetime.timezone(" ++ durationText seconds ++ ")"

/-- How a message shows a moment. -/
def Moment.display (m : Moment) : String :=
  "datetime.datetime(" ++
    ", ".intercalate
      ([toString m.date.year, toString m.date.month, toString m.date.day] ++ m.time.parts ++
        (m.offset.map fun o => "tzinfo=" ++ offsetDisplay o).toList) ++ ")"

/-- How a message shows a time of day. -/
def TimeOfDay.display (t : TimeOfDay) : String :=
  "datetime.time(" ++ ", ".intercalate t.parts ++ ")"

end FormatterConfig.Calendar
