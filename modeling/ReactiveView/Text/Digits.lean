/-
**Digits and the numbers they stand for.**

* `hexValue?` — the value of a hexadecimal digit.
* `numberIn` — the number of a row of digits.
-/

namespace ReactiveView.Text

/-- The value of a hexadecimal digit in either case. -/
def hexValue? (c : Char) : Option Nat :=
  if '0' ≤ c && c ≤ '9' then some (c.toNat - 48)
  else if 'a' ≤ c && c ≤ 'f' then some (c.toNat - 87)
  else if 'A' ≤ c && c ≤ 'F' then some (c.toNat - 55)
  else none

/-- Whether a character is a digit in a base of at most sixteen. -/
def isDigitIn (base : Nat) (c : Char) : Bool := (hexValue? c).any fun value => value < base

/-- The number that a row of digits stands for in a base of at most sixteen. -/
def numberIn (base : Nat) (digits : List Char) : Nat :=
  digits.foldl (fun number digit => number * base + (hexValue? digit).getD 0) 0

/-- The number of a row of decimal digits, of which there must be one. -/
def decimal? (digits : List Char) : Option Nat :=
  if digits.isEmpty || !digits.all (isDigitIn 10) then none else some (numberIn 10 digits)

end ReactiveView.Text
