/-
**What written JSON means.**

A whole number in the range of 64 bits is exact. Any other number is computed from at most
nineteen or twenty significant digits: they are multiplied or divided by one power of ten, and a
number that becomes infinite has no meaning. A pair of surrogates is one character and a lone one
has no meaning. Values nest at most 127 deep.

* `string?`, `Numeral.value?` — the meaning of strings and numbers.
* `Written.value?` — the meaning of a value; a repeated member keeps its first place and last value.
* `ofText?` — the value of a text.
-/

import ReactiveView.Data.Integer
import ReactiveView.Data.OrderedMap
import ReactiveView.Json.Basic
import ReactiveView.Json.Written

namespace ReactiveView.Json

/-! ### Numbers -/

/-- Significant digits read so far, and how many more digits of the whole part were passed over. -/
structure Significand where
  value : Nat
  passed : Nat
  /-- Whether a digit has already been passed over. -/
  full : Bool

/-- The value of a decimal digit. -/
def digitValue (c : Char) : Nat := c.toNat - 48

/-- Takes one more digit in, unless that leaves 64 bits. -/
def Significand.push (sofar : Significand) (digit : Char) : Significand :=
  let next := sofar.value * 10 + digitValue digit
  if sofar.full || next > Integer.greatestWord then ⟨sofar.value, sofar.passed + 1, true⟩
  else ⟨next, sofar.passed, false⟩

/-- The significant digits of a row of digits. -/
def Significand.ofDigits (digits : List Char) : Significand :=
  digits.foldl push ⟨0, 0, false⟩

/--
The significand and the exponent after the digits behind the point. Each digit taken in lowers the
exponent by one; the first that leaves 64 bits ends the reading.
-/
def withPlaces (value : Nat) (exponent : Int) : List Char → Nat × Int
  | [] => (value, exponent)
  | digit :: rest =>
    let next := value * 10 + digitValue digit
    if next > Integer.greatestWord then (value, exponent) else withPlaces next (exponent - 1) rest

/-- A significand times a power of ten; none if that is infinite. -/
def scaled? (fuel : Nat) (value : Float) (exponent : Int) : Option Float :=
  if exponent.natAbs ≤ 308 then
    let power := Float.ofScientific 1 false exponent.natAbs
    if 0 ≤ exponent then
      let product := value * power
      if product.isInf then none else some product
    else some (value / power)
  else if value == 0.0 then some value
  else if 0 ≤ exponent then none
  else
    match fuel with
    | 0 => some 0.0
    | fuel + 1 => scaled? fuel (value / 1e308) (exponent + 308)

/-- The greatest exponent that is taken at its word. -/
def greatestExponent : Nat := 2147483647

/-- The number a numeral stands for. -/
def Numeral.float? (numeral : Numeral) : Option Float :=
  let whole := Significand.ofDigits numeral.whole
  let (value, exponent) := withPlaces whole.value whole.passed (numeral.fraction.getD [])
  let signed (magnitude : Float) : Float := if numeral.negative then -magnitude else magnitude
  match numeral.exponent with
  | none => (scaled? 4 (UInt64.ofNat value).toFloat exponent).map signed
  | some (negative, digits) =>
    let power := Text.numberIn 10 digits
    if power > greatestExponent then
      if value ≠ 0 && !negative then none else some (signed 0.0)
    else
      let exponent := if negative then exponent - power else exponent + power
      (scaled? 4 (UInt64.ofNat value).toFloat exponent).map signed

/-- The value of a numeral: exact if it is whole and fits, and floating-point otherwise. -/
def Numeral.value? (numeral : Numeral) : Option Json :=
  let whole := Significand.ofDigits numeral.whole
  if numeral.fraction.isSome || numeral.exponent.isSome || whole.full then
    numeral.float?.map Json.float
  else if !numeral.negative then some (.int whole.value)
  else if whole.value = 0 || !Integer.fits (-whole.value) then
    some (.float (-(UInt64.ofNat whole.value).toFloat))
  else some (.int (-whole.value))

/-! ### Strings -/

/-- The text of the pieces of a string. -/
def text? : List Piece → Option (List Char)
  | [] => some []
  | .char c :: rest => (text? rest).map (c :: ·)
  | .unit code :: rest =>
    if 0xDC00 ≤ code && code ≤ 0xDFFF then none
    else if 0xD800 ≤ code && code ≤ 0xDBFF then
      match rest with
      | .unit low :: rest =>
        if 0xDC00 ≤ low && low ≤ 0xDFFF then
          (text? rest).map (Char.ofNat (0x10000 + (code - 0xD800) * 1024 + (low - 0xDC00)) :: ·)
        else none
      | _ => none
    else (text? rest).map (Char.ofNat code :: ·)

/-- The string of some pieces. -/
def string? (pieces : List Piece) : Option String := (text? pieces).map String.ofList

/-! ### Values -/

/-- How deep values may nest. -/
def nestingLimit : Nat := 127

mutual

/-- The meaning of a value under which at most `room` further levels may nest. -/
def Written.value? (room : Nat) : Written → Option Json
  | .null => some .null
  | .bool value => some (.bool value)
  | .number numeral => numeral.value?
  | .string pieces => (string? pieces).map Json.string
  | .array items =>
    match room with
    | 0 => none
    | room + 1 => (valuesOf? room items).map Json.array
  | .object members =>
    match room with
    | 0 => none
    | room + 1 =>
      (membersOf? room members).map fun pairs => Json.object (OrderedMap.ofList pairs).entries

/-- The meanings of the items of an array. -/
def valuesOf? (room : Nat) : List Written → Option (List Json)
  | [] => some []
  | item :: rest => do
    let value ← Written.value? room item
    let values ← valuesOf? room rest
    return value :: values

/-- The meanings of the members of an object, repeated ones included. -/
def membersOf? (room : Nat) : List (List Piece × Written) → Option (List (String × Json))
  | [] => some []
  | (pieces, value) :: rest => do
    let name ← string? pieces
    let value ← Written.value? room value
    let members ← membersOf? room rest
    return (name, value) :: members

end

/-- The value that a text holds. -/
def ofText? (text : String) : Option Json :=
  (Written.ofText? text).bind (Written.value? nestingLimit)

end ReactiveView.Json
