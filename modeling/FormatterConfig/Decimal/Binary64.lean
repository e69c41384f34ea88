set_option autoImplicit false

/-! # Binary floating-point numbers

A double-precision number by its 64 bits, so that two of them can be told apart and compared
exactly. A finite one is a natural number times a power of two; everything that reads or writes
decimals works on these two numbers in exact arithmetic. -/

namespace FormatterConfig.Decimal

/-- A double-precision floating-point number. -/
structure Binary64 where
  bits : UInt64
  deriving DecidableEq

namespace Binary64

/-- The number held by a machine register. -/
def ofFloat (x : Float) : Binary64 := ⟨x.toBits⟩

/-- The number in a machine register. -/
def toFloat (x : Binary64) : Float := Float.ofBits x.bits

/-- Whether the sign bit is set. -/
def isNegative (x : Binary64) : Bool := decide (Nat.pow 2 63 ≤ x.bits.toNat)

/-- The exponent field. -/
def exponentField (x : Binary64) : Nat := x.bits.toNat / Nat.pow 2 52 % Nat.pow 2 11

/-- The fraction field. -/
def fractionField (x : Binary64) : Nat := x.bits.toNat % Nat.pow 2 52

/-- Whether it is not a number. -/
def isNaN (x : Binary64) : Bool := x.exponentField == 2047 && x.fractionField != 0

/-- Whether it is an infinity. -/
def isInfinite (x : Binary64) : Bool := x.exponentField == 2047 && x.fractionField == 0

/-- The integer `m` of a finite magnitude `m * 2 ^ q`. -/
def significand (x : Binary64) : Nat :=
  if x.exponentField = 0 then x.fractionField else Nat.pow 2 52 + x.fractionField

/-- The exponent `q` of a finite magnitude `m * 2 ^ q`. -/
def exponent (x : Binary64) : Int :=
  (if x.exponentField = 0 then 1 else (x.exponentField : Int)) - 1075

/-- How many times a finite number holds the smallest positive one. -/
def smallestUnits (x : Binary64) : Int :=
  let count : Int := (x.significand * Nat.pow 2 (x.exponentField - 1) : Nat)
  if x.isNegative then -count else count

/-- Whether the next smaller magnitude is only half a step away. -/
def atBinadeStart (x : Binary64) : Bool := x.fractionField == 0 && decide (1 < x.exponentField)

/-- The number with the other sign. -/
def negate (x : Binary64) : Binary64 :=
  ⟨UInt64.ofNat ((x.bits.toNat + Nat.pow 2 63) % Nat.pow 2 64)⟩

def zero : Binary64 := ⟨0⟩
def infinity : Binary64 := ⟨0x7FF0000000000000⟩
def nan : Binary64 := ⟨0x7FF8000000000000⟩

/-- The "not a number" with a number of its own; the one numbered zero is `nan`. -/
def nanNumbered (n : Nat) : Binary64 :=
  ⟨UInt64.ofNat (nan.bits.toNat + n % Nat.pow 2 51)⟩

/-- The integer that a finite number without a fractional part is. -/
def toInt? (x : Binary64) : Option Int :=
  if x.exponentField = 2047 then none
  else
    let sign : Int := if x.isNegative then -1 else 1
    match x.exponent with
    | .ofNat q => some (sign * (x.significand * Nat.pow 2 q : Nat))
    | .negSucc q =>
      if x.significand % Nat.pow 2 (q + 1) = 0 then
        some (sign * (x.significand / Nat.pow 2 (q + 1) : Nat))
      else none

/-- The number nearest to `digits * 10 ^ exponent`, ties to the even significand; what is too large
is infinite. -/
def ofDecimal (negative : Bool) (digits : Nat) (exponent : Int) : Binary64 :=
  let size : Int := (Nat.toDigits 10 digits).length + exponent
  let magnitude : Binary64 :=
    if digits = 0 || decide (size < -330) then zero
    else if 310 < size then infinity
    else
      match exponent with
      | .ofNat e => ofFloat (Float.ofScientific (digits * Nat.pow 10 e) false 0)
      | .negSucc e => ofFloat (Float.ofScientific digits true (e + 1))
  if negative then magnitude.negate else magnitude

end Binary64

end FormatterConfig.Decimal
