import FormatterConfig.Decimal.Binary64

set_option autoImplicit false

/-! # The shortest decimal of a floating-point number

The reals that round to a given binary number form an interval, which includes its ends when the
significand is even. Among the decimals in it those with the fewest digits are wanted, and of these
the one nearest to the number. For one digit, two digits and so on, the number's two neighbours on
that decimal grid are tried; seventeen digits always suffice. -/

namespace FormatterConfig.Decimal

/-- A positive decimal `digits * 10 ^ exponent`. -/
structure Scientific where
  digits : Nat
  exponent : Int
  deriving DecidableEq

/-- The interval of reals that round to a magnitude, and the magnitude itself, as multiples of one
unit: a quarter of its last binary place. -/
structure RoundingInterval where
  low : Nat
  value : Nat
  high : Nat
  closed : Bool
  /-- The unit is `2 ^ unitExponent`. -/
  unitExponent : Int

/-- The rounding interval of a finite number's magnitude. -/
def Binary64.interval (x : Binary64) : RoundingInterval :=
  let m := x.significand
  { low := 4 * m - (if x.atBinadeStart then 1 else 2)
    value := 4 * m
    high := 4 * m + 2
    closed := m % 2 == 0
    unitExponent := x.exponent - 2 }

/-- The natural numbers `a` and `b` with `a / b = 2 ^ twos * 10 ^ tens`. -/
def powerRatio (twos tens : Int) : Nat × Nat :=
  (Nat.pow 2 twos.toNat * Nat.pow 10 tens.toNat,
    Nat.pow 2 (-twos).toNat * Nat.pow 10 (-tens).toNat)

/-- The candidate on the grid of `10 ^ exponent` that lies in the interval, the nearer of two and
the even one of two equally near. -/
def RoundingInterval.onGrid? (r : RoundingInterval) (exponent : Int) : Option Scientific :=
  -- A real of `n` units of the interval is `n * a / b` steps of the grid.
  let (a, b) := powerRatio r.unitExponent (-exponent)
  let low := r.low * a
  let value := r.value * a
  let high := r.high * a
  let below := value / b
  let inside (c : Nat) : Bool :=
    if r.closed then decide (low ≤ c * b) && decide (c * b ≤ high)
    else decide (low < c * b) && decide (c * b < high)
  let above := below + 1
  let fromBelow := value - below * b
  let fromAbove := above * b - value
  let belowFits := decide (0 < below) && inside below
  let pickBelow := decide (fromBelow < fromAbove) || (fromBelow == fromAbove && below % 2 == 0)
  if belowFits && (pickBelow || !inside above) then some ⟨below, exponent⟩
  else if inside above then some ⟨above, exponent⟩
  else none

/-- The number of decimal digits of a positive magnitude before the point: `10 ^ (k - 1)` is at most
the magnitude and `10 ^ k` exceeds it. -/
def RoundingInterval.magnitude (r : RoundingInterval) : Int :=
  let (a, b) := powerRatio r.unitExponent 0
  let value := r.value * a
  if b ≤ value then (Nat.toDigits 10 (value / b)).length
  else
    -- The quotient of 10 ^ 400 has as many digits as zeros after the point are left of 400.
    ((Nat.toDigits 10 (value * Nat.pow 10 400 / b)).length : Int) - 400

/-- A decimal without trailing zeros among its digits. -/
def Scientific.trim : (fuel : Nat) → Scientific → Scientific
  | 0, s => s
  | fuel + 1, s =>
    if s.digits % 10 = 0 && s.digits != 0 then Scientific.trim fuel ⟨s.digits / 10, s.exponent + 1⟩
    else s

/-- The fewest digits, tried from `count` on, that read back as the number. -/
def RoundingInterval.shortestFrom (r : RoundingInterval) (magnitude : Int) :
    (fuel count : Nat) → Scientific
  | 0, _ => ⟨r.value, 0⟩
  | fuel + 1, count =>
    match r.onGrid? (magnitude - count) with
    | some s => s.trim 20
    | none => r.shortestFrom magnitude fuel (count + 1)

/-- The shortest decimal that reads back as the magnitude of a finite non-zero number. -/
def Binary64.shortest (x : Binary64) : Scientific :=
  let r := x.interval
  r.shortestFrom r.magnitude 17 1

end FormatterConfig.Decimal
