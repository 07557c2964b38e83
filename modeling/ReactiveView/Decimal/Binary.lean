/-
**Floating-point numbers as exact fractions.**

A finite number is a natural number times a power of two. All decimal texts are computed from that
form, so nothing is rounded before the last digit is chosen.

* `Binary` — sign, mantissa and exponent of a number, infinity, or no number.
* `remainder` — the remainder of truncating division, which is always exact.
-/

namespace ReactiveView.Decimal

/-- What the bits of a floating-point number mean. -/
inductive Binary where
  /-- The number `mantissa * 2 ^ exponent`, negated if `negative`. -/
  | finite (negative : Bool) (mantissa : Nat) (exponent : Int)
  | infinite (negative : Bool)
  | nan
deriving DecidableEq

/-- The least exponent, that of the subnormal numbers. -/
def Binary.leastExponent : Int := -1074

/-- The mantissa of a normal number has this bit. -/
def Binary.hiddenBit : Nat := Nat.pow 2 52

/-- Reads the sign, the exponent field and the fraction field off the bits of a number. -/
def Binary.ofBits (bits : Nat) : Binary :=
  let negative := bits / Nat.pow 2 63 % 2 == 1
  let field : Nat := bits / hiddenBit % 2048
  let fraction := bits % hiddenBit
  if field = 2047 then
    if fraction = 0 then .infinite negative else .nan
  else if field = 0 then .finite negative fraction leastExponent
  else .finite negative (hiddenBit + fraction) (leastExponent + ((field : Int) - 1))

/-- The meaning of a floating-point number. -/
def Binary.ofFloat (x : Float) : Binary := ofBits x.toBits.toNat

/-- A number is whole when its fraction has no bit left of the point. -/
def Binary.isWhole : Binary → Bool
  | .finite _ mantissa exponent =>
    0 ≤ exponent || mantissa % Nat.pow 2 (-exponent).toNat == 0
  | _ => false

/-- A fraction of two natural numbers; the denominator is never zero. -/
structure Ratio where
  numerator : Nat
  denominator : Nat

/-- The exact value of `mantissa * 2 ^ exponent`. -/
def Ratio.ofBinary (mantissa : Nat) (exponent : Int) : Ratio :=
  if 0 ≤ exponent then ⟨mantissa * Nat.pow 2 exponent.toNat, 1⟩
  else ⟨mantissa, Nat.pow 2 (-exponent).toNat⟩

/-- A ratio multiplied by a power of ten. -/
def Ratio.scale (ratio : Ratio) (power : Int) : Ratio :=
  if 0 ≤ power then ⟨ratio.numerator * Nat.pow 10 power.toNat, ratio.denominator⟩
  else ⟨ratio.numerator, ratio.denominator * Nat.pow 10 (-power).toNat⟩

/-- The largest natural number not above the ratio. -/
def Ratio.floor (ratio : Ratio) : Nat := ratio.numerator / ratio.denominator

/-- The bits of `mantissa * 2 ^ exponent`, which must be a floating-point number. -/
def magnitudeBits (mantissa : Nat) (exponent : Int) : Nat :=
  if mantissa = 0 then 0
  else
    let shift := max ((mantissa.log2 : Int) - 52) (Binary.leastExponent - exponent)
    let fitted :=
      if 0 ≤ shift then mantissa / Nat.pow 2 shift.toNat else mantissa * Nat.pow 2 (-shift).toNat
    if fitted < Binary.hiddenBit then fitted
    else
      (exponent + shift - Binary.leastExponent + 1).toNat * Binary.hiddenBit +
        (fitted - Binary.hiddenBit)

/-- The floating-point number `mantissa * 2 ^ exponent` with the given sign. -/
def ofParts (negative : Bool) (mantissa : Nat) (exponent : Int) : Float :=
  let sign := if negative then Nat.pow 2 63 else 0
  Float.ofBits (UInt64.ofNat (sign + magnitudeBits mantissa exponent))

/--
The remainder of `x` by `y` with the sign of `x`: what is left after taking away `y` as often as it
fits. A remainder by zero and a remainder of an infinity are no numbers.
-/
def remainder (x y : Float) : Float :=
  match Binary.ofFloat x, Binary.ofFloat y with
  | .finite negative mantissa exponent, .finite _ divisor divisorExponent =>
    if divisor = 0 then 0.0 / 0.0
    else
      let shared := min exponent divisorExponent
      let left := mantissa * Nat.pow 2 (exponent - shared).toNat
      let right := divisor * Nat.pow 2 (divisorExponent - shared).toNat
      ofParts negative (left % right) shared
  | .finite .., .infinite _ => x
  | _, _ => 0.0 / 0.0

end ReactiveView.Decimal
