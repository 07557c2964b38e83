/-
**The fewest digits that read back as the same number.**

The reals that round to a floating-point number form an interval around it; its ends belong to it
when the mantissa is even. For one digit, two digits and so on, the two neighbours of the number
on the grid of that many digits are tried, and the first grid with a neighbour inside the interval
gives the digits. Of two neighbours inside, the nearer one is taken; the tie rule decides between
equally near ones.

* `Span.mem` — whether a decimal lies in the interval, in exact arithmetic.
* `shortest` — the digits and the power of ten of the last one.
-/

import ReactiveView.Decimal.Binary

namespace ReactiveView.Decimal

/-- Which of two equally near numbers is taken. -/
inductive Tie where
  | up
  | toEven
deriving DecidableEq

/-- The number `digits * 10 ^ exponent`. -/
structure Scaled where
  digits : Nat
  exponent : Int
deriving DecidableEq

/--
The reals between `low` and `high` quarters of `2 ^ exponent`, with the ends if `closed`; `middle`
quarters is the number they round to.
-/
structure Span where
  low : Nat
  middle : Nat
  high : Nat
  exponent : Int
  closed : Bool

/-- The interval of the reals that round to `mantissa * 2 ^ exponent`. -/
def Span.around (mantissa : Nat) (exponent : Int) : Span :=
  let below :=
    if mantissa = Binary.hiddenBit && exponent ≠ Binary.leastExponent then 1 else 2
  ⟨4 * mantissa - below, 4 * mantissa, 4 * mantissa + 2, exponent - 2, mantissa % 2 == 0⟩

/-- A decimal and a number of quarters over one denominator, ready to be compared. -/
def Span.common (span : Span) (decimal : Scaled) (quarters : Nat) : Nat × Nat :=
  let value := (Ratio.mk decimal.digits 1).scale decimal.exponent
  let bound := Ratio.ofBinary quarters span.exponent
  (value.numerator * bound.denominator, bound.numerator * value.denominator)

/-- Whether a decimal lies in the interval. -/
def Span.mem (span : Span) (decimal : Scaled) : Bool :=
  let low := span.common decimal span.low
  let high := span.common decimal span.high
  if span.closed then low.2 ≤ low.1 && high.1 ≤ high.2 else low.2 < low.1 && high.1 < high.2

/-- Whether of the neighbours `digits` and `digits + 1` the upper is nearer, or as near and due. -/
def Span.prefersUpper (span : Span) (lower : Scaled) (tie : Tie) : Bool :=
  let twice := span.common ⟨2 * lower.digits + 1, lower.exponent⟩ (2 * span.middle)
  if twice.1 = twice.2 then
    match tie with
    | .up => true
    | .toEven => lower.digits % 2 == 1
  else twice.1 < twice.2

/-- The exponent of the first digit of `mantissa * 2 ^ exponent`, which is not zero. -/
def leadingExponent (mantissa : Nat) (exponent : Int) : Int :=
  let ratio := Ratio.ofBinary mantissa exponent
  let guess : Int := ((mantissa.log2 : Int) + exponent) * 30103 / 100000
  let reached (power : Int) : Bool :=
    let unit := (Ratio.mk 1 1).scale power
    unit.numerator * ratio.denominator ≤ ratio.numerator * unit.denominator
  if reached (guess + 1) then guess + 1
  else if reached guess then guess
  else guess - 1

/-- The nearest decimal of the interval among the multiples of `10 ^ exponent`, if there is one. -/
def Span.onGrid (span : Span) (exponent : Int) (tie : Tie) : Option Scaled :=
  let value := (Ratio.ofBinary span.middle span.exponent).scale (-exponent)
  let lower : Scaled := ⟨value.floor, exponent⟩
  let upper : Scaled := ⟨value.floor + 1, exponent⟩
  match span.mem lower, span.mem upper with
  | true, true => some (if span.prefersUpper lower tie then upper else lower)
  | true, false => some lower
  | false, true => some upper
  | false, false => none

/-- The first hit on ever finer grids, at most `more` steps finer than `10 ^ exponent`. -/
def Span.search (span : Span) (tie : Tie) (more : Nat) (exponent : Int) : Scaled :=
  match span.onGrid exponent tie, more with
  | some decimal, _ => decimal
  | none, 0 => ⟨0, 0⟩
  | none, more + 1 => span.search tie more (exponent - 1)

/-- A decimal without zeros at its end. -/
def Scaled.stripZeros (decimal : Scaled) : Scaled :=
  if _more : decimal.digits ≠ 0 ∧ decimal.digits % 10 = 0 then
    stripZeros ⟨decimal.digits / 10, decimal.exponent + 1⟩
  else decimal
termination_by decimal.digits
decreasing_by omega

/-- The shortest decimal that rounds to `mantissa * 2 ^ exponent`; seventeen digits always do. -/
def shortest (mantissa : Nat) (exponent : Int) (tie : Tie) : Scaled :=
  if mantissa = 0 then ⟨0, 0⟩
  else
    let span := Span.around mantissa exponent
    (span.search tie 17 (leadingExponent mantissa exponent)).stripZeros

end ReactiveView.Decimal
