/-
**Texts between double quotes, readable on one line.**

A quote and a backslash get a backslash, four controls have a letter of their own, and any other
character without a glyph is written by its code point in hexadecimal. All else stands for itself.
-/

import ReactiveView.Text.CharacterTable

namespace ReactiveView.Text

/-- One hexadecimal digit in lower case. -/
def hexDigit (digit : Nat) : Char :=
  if digit < 10 then Char.ofNat (48 + digit) else Char.ofNat (87 + digit)

/-- The digits of a number in hexadecimal, without leading zeros. -/
def hexDigits (number : Nat) : List Char :=
  if _large : 16 ≤ number then hexDigits (number / 16) ++ [hexDigit (number % 16)]
  else [hexDigit number]
termination_by number

/-- Whether a character has a glyph of its own that does not join the one before it. -/
def isPrintable (c : Char) : Bool :=
  if c.toNat < 0x7F then 0x20 ≤ c.toNat
  else !inRanges unprintableRanges c.toNat && !inRanges joiningMarkRanges c.toNat

/-- One character as it stands between quotes. -/
def quotedChar (c : Char) : List Char :=
  match c with
  | '"' => ['\\', '"']
  | '\\' => ['\\', '\\']
  | '\t' => ['\\', 't']
  | '\r' => ['\\', 'r']
  | '\n' => ['\\', 'n']
  | c =>
    if c.toNat = 0 then ['\\', '0']
    else if isPrintable c then [c]
    else ['\\', 'u', '\x7b'] ++ hexDigits c.toNat ++ ['\x7d']

/-- A text between quotes. -/
def quoted (text : String) : String :=
  String.ofList ('"' :: text.toList.flatMap quotedChar ++ ['"'])

end ReactiveView.Text
