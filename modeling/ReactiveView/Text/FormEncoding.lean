/-
**Pairs of texts as one line of `key=value` segments.**

Segments are separated by `&`, and the first `=` of a segment ends its key. A space is written
`+`; letters, digits and `*-._` stand for themselves; every other byte is a percent sign and two
hexadecimal digits. Reading forgives: empty segments are skipped, a segment without `=` is a key
with an empty value, and a percent sign without two digits stands for itself.

* `component_append` — texts are written byte by byte.
-/

import ReactiveView.Text.Utf8
import ReactiveView.Text.Search

namespace ReactiveView.FormEncoding

/-- Whether a byte stands for itself: a letter, a digit or one of `*-._`. -/
def isPlain (byte : UInt8) : Bool :=
  (0x30 ≤ byte && byte ≤ 0x39) || (0x41 ≤ byte && byte ≤ 0x5A) || (0x61 ≤ byte && byte ≤ 0x7A) ||
    byte == 0x2A || byte == 0x2D || byte == 0x2E || byte == 0x5F

/-- One hexadecimal digit in upper case. -/
def hexDigit (digit : Nat) : Char :=
  if digit < 10 then Char.ofNat (48 + digit) else Char.ofNat (55 + digit)

/-- One byte as it is written. -/
def encodeByte (byte : UInt8) : List Char :=
  if isPlain byte then [Char.ofNat byte.toNat]
  else if byte == 0x20 then ['+']
  else ['%', hexDigit (byte.toNat / 16), hexDigit (byte.toNat % 16)]

/-- A key or a value as it is written. -/
def component (text : List Char) : List Char := (Utf8.encode text).flatMap encodeByte

/-- Pairs as one line. -/
def encode (pairs : List (String × String)) : String :=
  String.ofList <| Text.join ['&'] <| pairs.map fun pair =>
    component pair.1.toList ++ '=' :: component pair.2.toList

/-- The value of a hexadecimal digit in either case. -/
def hexValue? (byte : UInt8) : Option UInt8 :=
  if 0x30 ≤ byte && byte ≤ 0x39 then some (byte - 0x30)
  else if 0x41 ≤ byte && byte ≤ 0x46 then some (byte - 0x37)
  else if 0x61 ≤ byte && byte ≤ 0x66 then some (byte - 0x57)
  else none

/-- The bytes a written text stands for. -/
def decodeBytes : List UInt8 → List UInt8
  | [] => []
  | [byte] => [if byte == 0x2B then 0x20 else byte]
  | byte :: high :: [] => (if byte == 0x2B then 0x20 else byte) :: decodeBytes [high]
  | byte :: high :: low :: rest =>
    match byte == 0x25, hexValue? high, hexValue? low with
    | true, some h, some l => (h * 16 + l) :: decodeBytes rest
    | _, _, _ => (if byte == 0x2B then 0x20 else byte) :: decodeBytes (high :: low :: rest)

/-- The text a written key or value stands for. -/
def decodeComponent (bytes : List UInt8) : String :=
  String.ofList (Utf8.decode (decodeBytes bytes))

/-- The parts of a list between the elements equal to a separator. -/
def segments (separator : UInt8) : List UInt8 → List (List UInt8)
  | [] => [[]]
  | byte :: rest =>
    match segments separator rest with
    | [] => [[byte]]
    | first :: others =>
      if byte == separator then [] :: first :: others else (byte :: first) :: others

/-- One segment as a pair; what follows its first `=` is the value. -/
def decodeSegment (segment : List UInt8) : String × String :=
  let key := segment.takeWhile (· != 0x3D)
  (decodeComponent key, decodeComponent (segment.drop (key.length + 1)))

/-- The pairs of a line, in their order. -/
def decode (line : String) : List (String × String) :=
  let written := (segments 0x26 (Utf8.encode line.toList)).filter fun segment => !segment.isEmpty
  written.map decodeSegment

theorem component_append (left right : List Char) :
    component (left ++ right) = component left ++ component right := by
  simp [component, Utf8.encode, List.flatMap_append]

end ReactiveView.FormEncoding
