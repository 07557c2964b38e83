/-
**Bytes of texts, and texts of any bytes.**

Every character has one to four bytes. Bytes that are no such sequence still give a text: each
longest piece that could have begun a character, and each byte that can begin none, is read as the
replacement character.

* `followers_length` — reading continuation bytes never leaves more than there was.
-/

namespace ReactiveView.Utf8

/-- The bytes of a text. -/
def encode (text : List Char) : List UInt8 := text.flatMap String.utf8EncodeChar

/--
Reads `count` continuation bytes onto `code`. The first must lie between `low` and `high`, the
others anywhere among the continuation bytes. The bytes that were not read come back.
-/
def followers (count : Nat) (low high : UInt8) (code : Nat) (bytes : List UInt8) :
    Option Nat × List UInt8 :=
  match count, bytes with
  | 0, bytes => (some code, bytes)
  | _ + 1, [] => (none, [])
  | more + 1, byte :: rest =>
    if low ≤ byte && byte ≤ high then
      followers more 0x80 0xBF (code * 64 + (byte.toNat - 0x80)) rest
    else (none, byte :: rest)

theorem followers_length (count : Nat) (low high : UInt8) (code : Nat) (bytes : List UInt8) :
    (followers count low high code bytes).2.length ≤ bytes.length := by
  induction count generalizing low high code bytes with
  | zero => simp [followers]
  | succ more ih =>
    cases bytes with
    | nil => simp [followers]
    | cons byte rest =>
      simp only [followers]
      split
      · exact Nat.le_succ_of_le (ih _ _ _ rest)
      · simp

/-- How many bytes follow a leading byte, the bounds of the first of them, and its own bits. -/
def leading (byte : UInt8) : Option (Nat × UInt8 × UInt8 × Nat) :=
  if byte < 0x80 then some (0, 0x80, 0xBF, byte.toNat)
  else if byte < 0xC2 then none
  else if byte < 0xE0 then some (1, 0x80, 0xBF, byte.toNat - 0xC0)
  else if byte = 0xE0 then some (2, 0xA0, 0xBF, 0)
  else if byte = 0xED then some (2, 0x80, 0x9F, 13)
  else if byte < 0xF0 then some (2, 0x80, 0xBF, byte.toNat - 0xE0)
  else if byte = 0xF0 then some (3, 0x90, 0xBF, 0)
  else if byte < 0xF4 then some (3, 0x80, 0xBF, byte.toNat - 0xF0)
  else if byte = 0xF4 then some (3, 0x80, 0x8F, 4)
  else none

/-- The character that stands for bytes that are no character. -/
def replacement : Char := '\uFFFD'

/-- The text of any bytes. -/
def decode : List UInt8 → List Char
  | [] => []
  | byte :: rest =>
    match leading byte with
    | none => replacement :: decode rest
    | some (count, low, high, code) =>
      have _shorter := followers_length count low high code rest
      match _found : followers count low high code rest with
      | (some code, unread) => Char.ofNat code :: decode unread
      | (none, unread) => replacement :: decode unread
termination_by bytes => bytes.length
decreasing_by
  · simp
  · simp only [_found] at _shorter
    simp only [List.length_cons]
    omega
  · simp only [_found] at _shorter
    simp only [List.length_cons]
    omega

end ReactiveView.Utf8
