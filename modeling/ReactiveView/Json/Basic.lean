/-
**JSON values and their compact text.**

An object keeps the order of its members. Whole numbers are exact; other numbers are
floating-point and always finite. The text has no blanks, and a string escapes only quotes,
backslashes and controls.

* `escapeChar` — how one character of a string is written.
* `Json.text` — the text of a value.
-/

import ReactiveView.Decimal.Layout
import ReactiveView.Text.Quoted

namespace ReactiveView

/-- A JSON value. -/
inductive Json where
  | null
  | bool (value : Bool)
  | int (value : Int)
  | float (value : Float)
  | string (value : String)
  | array (items : List Json)
  | object (members : List (String × Json))

namespace Json

/-- A value that holds other values. -/
def isComposite : Json → Bool
  | array _ => true
  | object _ => true
  | _ => false

/-- Numbers have the fewest digits that read back; an exponent below `1e-5` and from `1e16` on. -/
def numberLayout : Decimal.Layout where
  leastPlain := -5
  mostPlain := 15
  exponentPlus := true
  tie := .toEven
  infinity := "null"
  negativeInfinity := "null"
  nan := "null"

/-- One character of a string as it is written. -/
def escapeChar (c : Char) : List Char :=
  match c with
  | '"' => ['\\', '"']
  | '\\' => ['\\', '\\']
  | '\n' => ['\\', 'n']
  | '\r' => ['\\', 'r']
  | '\t' => ['\\', 't']
  | c =>
    if c.toNat = 8 then ['\\', 'b']
    else if c.toNat = 12 then ['\\', 'f']
    else if c.toNat < 0x20 then
      ['\\', 'u', '0', '0', Text.hexDigit (c.toNat / 16), Text.hexDigit (c.toNat % 16)]
    else [c]

/-- A string between quotes. -/
def stringText (value : String) : String :=
  String.ofList ('"' :: value.toList.flatMap escapeChar ++ ['"'])

/-- The decimal text of a whole number. -/
def intText (value : Int) : String :=
  if value < 0 then "-" ++ Decimal.digitText value.natAbs else Decimal.digitText value.natAbs

mutual

/-- The compact text of a value. -/
def text : Json → String
  | null => "null"
  | bool value => if value then "true" else "false"
  | int value => intText value
  | float value => numberLayout.text value
  | string value => stringText value
  | array items => "[" ++ String.intercalate "," (itemTexts items) ++ "]"
  | object members => "\x7b" ++ String.intercalate "," (memberTexts members) ++ "\x7d"

/-- The texts of the items of an array. -/
def itemTexts : List Json → List String
  | [] => []
  | item :: rest => text item :: itemTexts rest

/-- The texts of the members of an object. -/
def memberTexts : List (String × Json) → List String
  | [] => []
  | (name, value) :: rest => (stringText name ++ ":" ++ text value) :: memberTexts rest

end

end Json

end ReactiveView
