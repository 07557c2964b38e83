/-
**The bytes of a text are read as the text.**

A character has one to four bytes. The first of them tells how many follow, and how much of the range of
continuation bytes is left for the second one: short characters written in more bytes than they need, the
surrogates, and what is no character any more are outside. What is inside has the bits of the character.

* `followers_tail` — a continuation byte adds one digit to base 64.
* `leading_two`, `leading_three`, `leading_four` — what a first byte says of those that follow.
* `decode_encodeChar` — the bytes of a character are read as the character, whatever follows them.
* `decode_encode` — the bytes of a text are read as the text.
-/

import Mathlib.Data.List.Basic
import ReactiveView.Text.Utf8

namespace ReactiveView.Utf8

/-! ### Bytes -/

theorem toNat_ofNat {number : Nat} (fits : number < 256) : (UInt8.ofNat number).toNat = number :=
  Nat.mod_eq_of_lt fits

/-- The continuation byte of a digit to base 64. -/
def tail (digit : Nat) : UInt8 := UInt8.ofNat (digit % 64 + 128)

theorem toNat_tail (digit : Nat) : (tail digit).toNat = digit % 64 + 128 :=
  toNat_ofNat (by omega)

/-- A continuation byte within bounds gives its digit. -/
theorem followers_tail {more code digit : Nat} {low high : UInt8} (above : low.toNat ≤ digit % 64 + 128)
    (below : digit % 64 + 128 ≤ high.toNat) (rest : List UInt8) :
    followers (more + 1) low high code (tail digit :: rest) =
      followers more 0x80 0xBF (code * 64 + digit % 64) rest := by
  have within : (low ≤ tail digit && tail digit ≤ high) = true := by
    rw [Bool.and_eq_true, decide_eq_true_iff, decide_eq_true_iff, UInt8.le_iff_toNat_le,
      UInt8.le_iff_toNat_le, toNat_tail]
    exact ⟨above, below⟩
  rw [followers, if_pos within, toNat_tail, Nat.add_sub_cancel]

/-- Where no part of the range is left out, every continuation byte is within bounds. -/
theorem followers_anyTail (more code digit : Nat) (rest : List UInt8) :
    followers (more + 1) 0x80 0xBF code (tail digit :: rest) =
      followers more 0x80 0xBF (code * 64 + digit % 64) rest :=
  followers_tail (Nat.le_add_left 128 _) (show digit % 64 + 128 ≤ 191 by omega) rest

/-! ### Leading bytes -/

theorem leading_one : ∀ number < 128,
    leading (UInt8.ofNat number) = some (0, 0x80, 0xBF, number) := by
  decide +kernel

/-- A character of two bytes would not fit into one. -/
theorem leading_two : ∀ digit < 32, leading (UInt8.ofNat (digit % 32 + 192)) =
    if digit < 2 then none else some (1, 0x80, 0xBF, digit) := by
  decide +kernel

/-- A character of three bytes would not fit into two, and is no surrogate. -/
theorem leading_three : ∀ digit < 16, leading (UInt8.ofNat (digit % 16 + 224)) =
    some (2, if digit = 0 then 0xA0 else 0x80, if digit = 13 then 0x9F else 0xBF, digit) := by
  decide +kernel

/-- A character of four bytes would not fit into three, and is one. -/
theorem leading_four : ∀ digit < 5, leading (UInt8.ofNat (digit % 8 + 240)) =
    some (3, if digit = 0 then 0x90 else 0x80, if digit = 4 then 0x8F else 0xBF, digit) := by
  decide +kernel

/-! ### Characters -/

/-- The bytes of a character that were read in full. -/
theorem decode_of_followers {byte low high : UInt8} {rest unread : List UInt8} {count code found : Nat}
    (leads : leading byte = some (count, low, high, code))
    (follow : followers count low high code rest = (some found, unread)) :
    decode (byte :: rest) = Char.ofNat found :: decode unread := by
  rw [decode, leads]
  simp only
  split
  · next same =>
    rw [follow] at same
    cases same
    rfl
  · next same =>
    rw [follow] at same
    cases same

/-- **The bytes of a character are read as the character**, whatever follows them. -/
theorem decode_encodeChar (c : Char) (rest : List UInt8) :
    decode (String.utf8EncodeChar c ++ rest) = c :: decode rest := by
  have valid : c.val.toNat < 0xD800 ∨ 0xDFFF < c.val.toNat ∧ c.val.toNat < 0x110000 := c.valid
  have back : Char.ofNat c.val.toNat = c := Char.ofNat_toNat c
  rw [String.utf8EncodeChar]
  generalize c.val.toNat = code at valid back
  subst back
  split_ifs with one two three
  · exact decode_of_followers (leading_one code (by omega)) rfl
  · have leads := (leading_two (code / 64) (by omega)).trans (if_neg (by omega))
    have digits : code / 64 * 64 + code % 64 = code := by omega
    refine decode_of_followers leads ?_
    change followers 1 0x80 0xBF (code / 64) (tail code :: rest) = _
    rw [followers_anyTail, digits, followers]
  · have digits : (code / 4096 * 64 + code / 64 % 64) * 64 + code % 64 = code := by omega
    refine decode_of_followers (leading_three (code / 4096) (by omega)) ?_
    change followers 2 _ _ _ (tail (code / 64) :: tail code :: rest) = _
    rw [followers_tail ?_ ?_, followers_anyTail, digits, followers]
    · split
      · exact show 160 ≤ _ by omega
      · exact Nat.le_add_left 128 _
    · split
      · exact show _ ≤ 159 by omega
      · exact show _ ≤ 191 by omega
  · have digits : ((code / 262144 * 64 + code / 4096 % 64) * 64 + code / 64 % 64) * 64 + code % 64 =
        code := by omega
    refine decode_of_followers (leading_four (code / 262144) (by omega)) ?_
    change followers 3 _ _ _ (tail (code / 4096) :: tail (code / 64) :: tail code :: rest) = _
    rw [followers_tail ?_ ?_, followers_anyTail, followers_anyTail, digits, followers]
    · split
      · exact show 144 ≤ _ by omega
      · exact Nat.le_add_left 128 _
    · split
      · exact show _ ≤ 143 by omega
      · exact show _ ≤ 191 by omega

/-- **The bytes of a text are read as the text.** -/
theorem decode_encode (text : List Char) : decode (encode text) = text := by
  induction text with
  | nil => rw [encode, List.flatMap_nil, decode]
  | cons c text ih => rw [encode, List.flatMap_cons, decode_encodeChar, ← encode, ih]

end ReactiveView.Utf8
