/-
**Numbers, dates and truth values in TOML.**

A whole number is decimal, with a sign and without leading zeros, or has one of three bases after
`0x`, `0o` and `0b`. Single underscores may stand between digits. A floating-point number has a
fraction or an exponent, or is infinite or none. A date and a time stand alone or together, the
seconds may be missing, and an offset may follow both.

Which number it is shows only to those who ask for one: a value that is passed over may lack the
digits after its base, or have other characters behind a first underscore.

* `integer?` — the whole number that a text stands for.
* `isNumeral` — whether a text passes for a whole number although it may stand for none.
* `isFloat`, `isMoment` — whether a text is written as a floating-point number or as a date or time.
-/

import ReactiveView.Text.Digits

namespace ReactiveView.Toml

/-- The digits of a row in which single underscores may stand between digits. -/
def digits? (base : Nat) : List Char → Option (List Char)
  | [] => none
  | [c] => if Text.isDigitIn base c then some [c] else none
  | c :: '_' :: rest =>
    if Text.isDigitIn base c then (digits? base rest).map (c :: ·) else none
  | c :: rest => if Text.isDigitIn base c then (digits? base rest).map (c :: ·) else none

/-- Whether there is a sign and whether it is negative, and what follows it. -/
def signed : List Char → Bool × List Char
  | '-' :: rest => (true, rest)
  | '+' :: rest => (false, rest)
  | rest => (false, rest)

/-- The natural number of decimal digits without leading zeros. -/
def natural? (text : List Char) : Option Nat := do
  let digits ← digits? 10 text
  if digits.head? == some '0' && digits.length != 1 then none
  else return Text.numberIn 10 digits

/-- The whole number that a text stands for. -/
def integer? (text : List Char) : Option Int :=
  match text with
  | '0' :: 'x' :: rest => (digits? 16 rest).map fun digits => (Text.numberIn 16 digits : Int)
  | '0' :: 'o' :: rest => (digits? 8 rest).map fun digits => (Text.numberIn 8 digits : Int)
  | '0' :: 'b' :: rest => (digits? 2 rest).map fun digits => (Text.numberIn 2 digits : Int)
  | text =>
    let (negative, rest) := signed text
    (natural? rest).map fun number => if negative then -(number : Int) else number

/-- Whether a character begins an exponent. -/
def isExponentMark (c : Char) : Bool := c == 'e' || c == 'E'

/-- Whether each underscore stands between two characters that are digits in some base. -/
def isGrouped : List Char → Bool
  | [] => true
  | '_' :: _ => false
  | before :: '_' :: after :: rest =>
    Text.isDigitIn 16 before && Text.isDigitIn 16 after && isGrouped (after :: rest)
  | _ :: rest => isGrouped rest

/-- Whether a text passes for a whole number although it may stand for none. -/
def isNumeral (text : List Char) : Bool :=
  match text with
  | ['0', base] => base == 'x' || base == 'o' || base == 'b'
  | text =>
    let (_, number) := signed text
    let digits := number.takeWhile Char.isDigit
    let groups := number.drop digits.length
    digits.head?.any (· != '0') && groups.head? == some '_' && isGrouped number &&
      !groups.any fun c => c == '.' || isExponentMark c

/-- Whether a text is written as a floating-point number. -/
def isFloat (text : List Char) : Bool :=
  let (_, text) := signed text
  if text == ['i', 'n', 'f'] || text == ['n', 'a', 'n'] then true
  else
    let mantissa := text.takeWhile fun c => !isExponentMark c
    let exponent := text.drop mantissa.length
    let whole := mantissa.takeWhile (· != '.')
    let fraction := mantissa.drop whole.length
    !(fraction.isEmpty && exponent.isEmpty) && (natural? whole).isSome &&
      (fraction.isEmpty || (digits? 10 (fraction.drop 1)).isSome) &&
      (exponent.isEmpty || (digits? 10 (signed (exponent.drop 1)).2).isSome)

/-! ### Dates and times -/

/-- The number of two digits, if it is within bounds. -/
def twoDigits? (least most : Nat) (a b : Char) : Option Nat :=
  match Text.decimal? [a, b] with
  | some number => if least ≤ number && number ≤ most then some number else none
  | none => none

/-- The number of days of a month. -/
def daysIn (year month : Nat) : Nat :=
  if month = 2 then
    if year % 4 = 0 && (year % 100 ≠ 0 || year % 400 = 0) then 29 else 28
  else if month = 4 || month = 6 || month = 9 || month = 11 then 30
  else 31

/-- What follows a date at the start of a text. -/
def afterDate? : List Char → Option (List Char)
  | a :: b :: c :: d :: '-' :: e :: f :: '-' :: g :: h :: rest => do
    let year ← Text.decimal? [a, b, c, d]
    let month ← twoDigits? 1 12 e f
    let _ ← twoDigits? 1 (daysIn year month) g h
    return rest
  | _ => none

/-- What follows the part of a second; the point needs a digit after it. -/
def afterPart? : List Char → Option (List Char)
  | '.' :: rest =>
    if (rest.takeWhile Char.isDigit).isEmpty then none else some (rest.dropWhile Char.isDigit)
  | rest => some rest

/-- What follows a time at the start of a text. -/
def afterTime? : List Char → Option (List Char)
  | a :: b :: ':' :: c :: d :: ':' :: e :: f :: rest => do
    let _ ← twoDigits? 0 23 a b
    let _ ← twoDigits? 0 59 c d
    let _ ← twoDigits? 0 60 e f
    afterPart? rest
  | a :: b :: ':' :: c :: d :: rest => do
    let _ ← twoDigits? 0 23 a b
    let _ ← twoDigits? 0 59 c d
    return rest
  | _ => none

/-- Whether a text is an offset or nothing. -/
def isOffset : List Char → Bool
  | [] => true
  | [c] => c == 'Z' || c == 'z'
  | [sign, a, b, ':', c, d] =>
    (sign == '+' || sign == '-') && (twoDigits? 0 23 a b).isSome && (twoDigits? 0 59 c d).isSome
  | _ => false

/-- Whether a text is written as a date, a time or both. -/
def isMoment (text : List Char) : Bool :=
  match afterDate? text with
  | some [] => true
  | some (gap :: rest) =>
    (gap == 'T' || gap == 't' || gap == ' ') && (afterTime? rest).any isOffset
  | none => (afterTime? text).any List.isEmpty

end ReactiveView.Toml
