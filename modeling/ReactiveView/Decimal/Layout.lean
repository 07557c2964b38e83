/-
**How decimal digits are set out as text.**

A layout says which numbers are written with a plain point and which with an exponent, and how an
exponent looks. The digits themselves come from the shortest decimal or, with a fixed number of
places, from rounding the exact value.

* `Layout.text` — a number in a layout.
* `fixed` — a number with a fixed number of places, a tie going to the even last digit.
-/

import ReactiveView.Decimal.Shortest

namespace ReactiveView.Decimal

/-- The decimal digits of a number. -/
def digitText (number : Nat) : String := String.ofList (Nat.toDigits 10 number)

/-- A row of zeros. -/
def zeros (count : Nat) : String := String.ofList (List.replicate count '0')

/-- Choices in the text of a number. -/
structure Layout where
  /-- The least exponent of the first digit that is written with a plain point. -/
  leastPlain : Int
  /-- The greatest such exponent. -/
  mostPlain : Int
  /-- Whether a positive exponent has a sign. -/
  exponentPlus : Bool
  /-- What lies between two equally near decimals. -/
  tie : Tie
  /-- The texts of the values that are no finite numbers. -/
  infinity : String
  negativeInfinity : String
  nan : String

/-- The digits of a decimal around a plain point; a whole number has one zero behind it. -/
def plainText (decimal : Scaled) : String :=
  let digits := digitText decimal.digits
  if 0 ≤ decimal.exponent then digits ++ zeros decimal.exponent.toNat ++ ".0"
  else
    let places := (-decimal.exponent).toNat
    if places < digits.length then
      let whole := digits.length - places
      String.ofList (digits.toList.take whole) ++ "." ++ String.ofList (digits.toList.drop whole)
    else "0." ++ zeros (places - digits.length) ++ digits

/-- The digits of a decimal with the point behind the first and the exponent after them. -/
def scientificText (plus : Bool) (decimal : Scaled) : String :=
  let digits := digitText decimal.digits
  let exponent := decimal.exponent + (digits.length - 1 : Nat)
  let fraction :=
    if digits.length = 1 then "" else "." ++ String.ofList (digits.toList.drop 1)
  let sign := if exponent < 0 then "-" else if plus then "+" else ""
  String.ofList (digits.toList.take 1) ++ fraction ++ "e" ++ sign ++ digitText exponent.natAbs

/-- The text of a sign. -/
def signText (negative : Bool) : String := if negative then "-" else ""

/-- A number in a layout. -/
def Layout.text (layout : Layout) (x : Float) : String :=
  match Binary.ofFloat x with
  | .nan => layout.nan
  | .infinite negative => if negative then layout.negativeInfinity else layout.infinity
  | .finite negative mantissa exponent =>
    let decimal := shortest mantissa exponent layout.tie
    let leading := decimal.exponent + ((digitText decimal.digits).length - 1 : Nat)
    let body :=
      if mantissa = 0 || (layout.leastPlain ≤ leading && leading ≤ layout.mostPlain) then
        plainText decimal
      else scientificText layout.exponentPlus decimal
    signText negative ++ body

/-- The whole number nearest to a ratio; a tie goes to the even one. -/
def Ratio.round (ratio : Ratio) : Nat :=
  let quotient := ratio.numerator / ratio.denominator
  let rest := 2 * (ratio.numerator % ratio.denominator)
  if rest < ratio.denominator then quotient
  else if rest = ratio.denominator then quotient + quotient % 2
  else quotient + 1

/-- A whole number of the unit `10 ^ -places`, with its point. -/
def placesText (places number : Nat) : String :=
  if places = 0 then digitText number
  else
    let digits := digitText number
    let padded := zeros (places + 1 - digits.length) ++ digits
    let whole := padded.length - places
    String.ofList (padded.toList.take whole) ++ "." ++ String.ofList (padded.toList.drop whole)

/-- A number with a fixed number of places. -/
def fixed (places : Nat) (x : Float) : String :=
  match Binary.ofFloat x with
  | .nan => "NaN"
  | .infinite negative => signText negative ++ "inf"
  | .finite negative mantissa exponent =>
    signText negative ++
      placesText places ((Ratio.ofBinary mantissa exponent).scale places).round

end ReactiveView.Decimal
