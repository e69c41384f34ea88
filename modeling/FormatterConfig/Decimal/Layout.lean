import FormatterConfig.Decimal.Shortest

set_option autoImplicit false

/-! # The text of a floating-point number

Which digits a number shows is the matter of `Decimal/Shortest.lean`; how they are laid out is one
record of decisions, and the texts written here follow one of them: a decimal point is placed among
the digits while it falls close to them, an exponent with a sign and at least two digits is written
otherwise, and a whole number keeps one zero after its point. -/

namespace FormatterConfig.Decimal

/-- The decisions of a number format. -/
structure Layout where
  /-- Least and greatest place of the point, counted from the first digit, that is written out. -/
  leastPoint : Int
  greatestPoint : Int
  /-- Least number of digits of an exponent. -/
  exponentWidth : Nat
  infinity : String
  nan : String

/-- The format of messages and documents. -/
def plainLayout : Layout := ⟨-3, 16, 2, "inf", "nan"⟩

/-- Zeros in front of digits up to a width. -/
def padZeros (width : Nat) (ds : List Char) : List Char :=
  List.replicate (width - ds.length) '0' ++ ds

/-- A number in decimal digits, padded with zeros. -/
def digitsPadded (width n : Nat) : String := String.ofList (padZeros width (Nat.toDigits 10 n))

/-- Lays out digits whose point stands after the first `point` of them. -/
def Layout.place (l : Layout) (ds : List Char) (point : Int) : List Char :=
  if l.leastPoint ≤ point ∧ point ≤ l.greatestPoint then
    if point ≤ 0 then '0' :: '.' :: List.replicate (-point).toNat '0' ++ ds
    else
      let k := point.toNat
      if ds.length ≤ k then ds ++ List.replicate (k - ds.length) '0' ++ ['.', '0']
      else ds.take k ++ '.' :: ds.drop k
  else
    let e := point - 1
    let mantissa :=
      match ds with
      | d :: (f :: fs) => d :: '.' :: f :: fs
      | _ => ds
    mantissa ++ 'e' :: (if e < 0 then '-' else '+') ::
      padZeros l.exponentWidth (Nat.toDigits 10 e.natAbs)

/-- The text of a number in a layout. -/
def Layout.text (l : Layout) (x : Binary64) : String :=
  if x.isNaN then l.nan
  else
    let sign := if x.isNegative then "-" else ""
    if x.isInfinite then sign ++ l.infinity
    else if x.significand = 0 then sign ++ "0.0"
    else
      let s := x.shortest
      let ds := Nat.toDigits 10 s.digits
      sign ++ String.ofList (l.place ds (ds.length + s.exponent))

/-- The text of a number: the fewest digits that read back. -/
def Binary64.text (x : Binary64) : String := plainLayout.text x

end FormatterConfig.Decimal
