/-
**Blank characters, and texts without blank ends.**

The blank characters are the twenty-five of the property White_Space. Trimming takes them off both
ends of a text and leaves those inside.

* `isBlank_of_isWhitespace` — every blank of ASCII is among them.
* `trim_head`, `trim_last` — a trimmed text neither begins nor ends with a blank.
-/

namespace ReactiveView.Text

/-- The characters of the property White_Space. -/
def isBlank (c : Char) : Bool :=
  let code := c.toNat
  (0x9 ≤ code && code ≤ 0xD) || code == 0x20 || code == 0x85 || code == 0xA0 || code == 0x1680 ||
    (0x2000 ≤ code && code ≤ 0x200A) || code == 0x2028 || code == 0x2029 || code == 0x202F ||
    code == 0x205F || code == 0x3000

theorem isBlank_of_isWhitespace (c : Char) (white : c.isWhitespace = true) : isBlank c = true := by
  simp only [Char.isWhitespace, Bool.or_eq_true, decide_eq_true_eq] at white
  rcases white with ((rfl | rfl) | rfl) | rfl <;> decide

/-- A text without the blanks at its start. -/
def trimStart (text : List Char) : List Char := text.dropWhile isBlank

/-- A text without the blanks at its end. -/
def trimEnd (text : List Char) : List Char := (text.reverse.dropWhile isBlank).reverse

/-- A text without the blanks at either end. -/
def trim (text : List Char) : List Char := trimEnd (trimStart text)

theorem trimEnd_last (text : List Char) {c : Char} (last : (trimEnd text).getLast? = some c) :
    isBlank c = false := by
  rw [trimEnd, List.getLast?_reverse] at last
  have := List.head?_dropWhile_not isBlank text.reverse
  rw [last] at this
  simpa using this

theorem trimEnd_prefix (text : List Char) : trimEnd text <+: text := by
  have suffix := List.dropWhile_suffix (l := text.reverse) isBlank
  simpa [trimEnd] using List.reverse_prefix.mpr suffix

theorem trim_head (text : List Char) {c : Char} (first : (trim text).head? = some c) :
    isBlank c = false := by
  obtain ⟨rest, split⟩ := trimEnd_prefix (trimStart text)
  have start : (trimStart text).head? = some c := by
    rw [← split, List.head?_append]
    simp only [trim] at first
    simp [first]
  have none_or := List.head?_dropWhile_not isBlank text
  rw [trimStart] at start
  rw [start] at none_or
  simpa using none_or

theorem trim_last (text : List Char) {c : Char} (last : (trim text).getLast? = some c) :
    isBlank c = false := trimEnd_last _ last

end ReactiveView.Text
