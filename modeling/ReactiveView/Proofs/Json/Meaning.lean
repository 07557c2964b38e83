/-
**What is written for a value, told apart from the reader that computes it.**

A whole number is written by its digits, with a sign in front of them if it is negative; a string by any
pieces that stand for its characters; a list by its items and an object by its members, in their order. The
reader takes nothing else out of what is written, as long as values nest no deeper than there is room.

* `Numeral.Means`, `Written.Means` — numbers and values with what is written for them.
* `Json.depth` — how deep a value nests.
* `Written.value?_of_means` — the value is found just if there is room for it.
-/

import ReactiveView.Json.Reading
import ReactiveView.Proofs.Data.Entries
import ReactiveView.Proofs.Json.Grammar

namespace ReactiveView.Json

/-! ### Whole numbers -/

/-- **What is written for a whole number**; a zero has no sign. -/
inductive Numeral.Means : Numeral → Int → Prop
  | plain {whole : List Char} (digits : ∀ c ∈ whole, c.isDigit = true) :
    Means ⟨false, whole, none, none⟩ (Text.numberIn 10 whole)
  | signed {whole : List Char} (digits : ∀ c ∈ whole, c.isDigit = true)
    (nonzero : Text.numberIn 10 whole ≠ 0) :
    Means ⟨true, whole, none, none⟩ (-Text.numberIn 10 whole)

/-- The two readings of a decimal digit agree. -/
theorem hexValue?_of_isDigit {c : Char} (digit : c.isDigit = true) :
    Text.hexValue? c = some (digitValue c) := by
  simp only [Char.isDigit, Bool.and_eq_true, decide_eq_true_eq] at digit
  have inside : (decide ('0' ≤ c) && decide (c ≤ '9')) = true := by
    rw [Bool.and_eq_true, decide_eq_true_eq, decide_eq_true_eq]
    exact digit
  rw [Text.hexValue?, if_pos inside]
  rfl

/-- **A row of digits is taken in as a whole** if it fits in 64 bits. -/
theorem ofDigits_of_le {digits : List Char} (decimal : ∀ c ∈ digits, c.isDigit = true)
    (small : Text.numberIn 10 digits ≤ Integer.greatestWord) :
    Significand.ofDigits digits = ⟨Text.numberIn 10 digits, 0, false⟩ := by
  induction digits using List.reverseRecOn with
  | nil => rfl
  | append_singleton digits digit ih =>
    have value := hexValue?_of_isDigit (decimal digit (List.mem_append_right _ List.mem_cons_self))
    rw [Token.numberIn_append, value, Option.getD_some] at small ⊢
    have sofar := ih (fun c member => decimal c (List.mem_append_left _ member)) (by omega)
    have fits : ¬ (false || decide (Text.numberIn 10 digits * 10 + digitValue digit
        > Integer.greatestWord)) = true := by
      rw [Bool.false_or, decide_eq_true_eq]
      omega
    rw [Significand.ofDigits, List.foldl_append, ← Significand.ofDigits, sofar]
    exact if_neg fits

/-- A whole number of 64 bits is read exactly. -/
theorem Numeral.value?_of_means {numeral : Numeral} {number : Int} (means : numeral.Means number)
    (fits : Integer.fits number = true) : numeral.value? = some (.int number) := by
  obtain ⟨low, high⟩ := Integer.fits_iff.mp fits
  unfold Integer.least at low
  unfold Integer.greatest at high
  cases means with
  | @plain whole digits =>
    have taken := ofDigits_of_le digits (by unfold Integer.greatestWord; omega)
    simp [Numeral.value?, taken]
  | @signed whole digits nonzero =>
    have taken := ofDigits_of_le digits (by unfold Integer.greatestWord; omega)
    simp [Numeral.value?, taken, nonzero, fits]

/-! ### Values -/

mutual

/-- **What is written for a value**, all of whose numbers are whole numbers of 64 bits. -/
inductive Written.Means : Written → Json → Prop
  | null : Means .null .null
  | bool (value : Bool) : Means (.bool value) (.bool value)
  | int {numeral : Numeral} {number : Int} (means : numeral.Means number)
    (fits : Integer.fits number = true) : Means (.number numeral) (.int number)
  | string {pieces : List Piece} {value : String} (means : string? pieces = some value) :
    Means (.string pieces) (.string value)
  | array {items : List Written} {values : List Json} (means : Written.ItemsMean items values) :
    Means (.array items) (.array values)
  | object {members : List (List Piece × Written)} {pairs : List (String × Json)}
    (means : Written.MembersMean members pairs) (distinct : (pairs.map Prod.fst).Nodup) :
    Means (.object members) (.object pairs)

/-- What is written for the items of an array. -/
inductive Written.ItemsMean : List Written → List Json → Prop
  | nil : ItemsMean [] []
  | cons {item : Written} {items : List Written} {value : Json} {values : List Json}
    (first : Written.Means item value) (rest : ItemsMean items values) :
    ItemsMean (item :: items) (value :: values)

/-- What is written for the members of an object. -/
inductive Written.MembersMean : List (List Piece × Written) → List (String × Json) → Prop
  | nil : MembersMean [] []
  | cons {pieces : List Piece} {name : String} {item : Written} {value : Json}
    {members : List (List Piece × Written)} {pairs : List (String × Json)}
    (named : string? pieces = some name) (first : Written.Means item value)
    (rest : MembersMean members pairs) : MembersMean ((pieces, item) :: members) ((name, value) :: pairs)

end

mutual

/-- **How deep a value nests**: the lists and objects on the longest way into it. -/
def depth : Json → Nat
  | null | bool _ | int _ | float _ | string _ => 0
  | array items => itemsDepth items + 1
  | object members => membersDepth members + 1

/-- How deep the items of an array nest. -/
def itemsDepth : List Json → Nat
  | [] => 0
  | item :: rest => max (depth item) (itemsDepth rest)

/-- How deep the members of an object nest. -/
def membersDepth : List (String × Json) → Nat
  | [] => 0
  | (_, value) :: rest => max (depth value) (membersDepth rest)

end

namespace Written

mutual

/-- **What is written for a value is read as the value**, if there is room for it, and else not at all. -/
theorem value?_of_means {written : Written} {value : Json} (room : Nat) :
    written.Means value → written.value? room = if value.depth ≤ room then some value else none
  | .null => by rw [value?, depth, if_pos (Nat.zero_le _)]
  | .bool _ => by rw [value?, depth, if_pos (Nat.zero_le _)]
  | .int means fits => by
    rw [value?, depth, if_pos (Nat.zero_le _), Numeral.value?_of_means means fits]
  | .string means => by
    rw [value?, depth, if_pos (Nat.zero_le _), means]
    rfl
  | @Means.array _ values means => by
    cases room with
    | zero => rw [value?, depth, if_neg (Nat.not_succ_le_zero _)]
    | succ room =>
      rw [value?, valuesOf?_of_means room means, depth]
      by_cases fits : itemsDepth values ≤ room
      · rw [if_pos fits, if_pos (Nat.succ_le_succ fits)]
        rfl
      · rw [if_neg fits, if_neg fun within => fits (Nat.le_of_succ_le_succ within)]
        rfl
  | @Means.object _ pairs means distinct => by
    cases room with
    | zero => rw [value?, depth, if_neg (Nat.not_succ_le_zero _)]
    | succ room =>
      rw [value?, membersOf?_of_means room means, depth]
      by_cases fits : membersDepth pairs ≤ room
      · rw [if_pos fits, if_pos (Nat.succ_le_succ fits), Option.map_some,
          OrderedMap.entries_ofList distinct]
      · rw [if_neg fits, if_neg fun within => fits (Nat.le_of_succ_le_succ within)]
        rfl

/-- The items of an array are read just if there is room for all of them. -/
theorem valuesOf?_of_means {items : List Written} {values : List Json} (room : Nat) :
    ItemsMean items values →
      valuesOf? room items = if itemsDepth values ≤ room then some values else none
  | .nil => rfl
  | @ItemsMean.cons _ _ value values first rest => by
    rw [valuesOf?, value?_of_means room first, valuesOf?_of_means room rest, itemsDepth]
    simp only [Nat.max_le]
    by_cases fits : value.depth ≤ room <;> by_cases others : itemsDepth values ≤ room <;>
      simp [fits, others]

/-- The members of an object are read just if there is room for all of them. -/
theorem membersOf?_of_means {members : List (List Piece × Written)} {pairs : List (String × Json)}
    (room : Nat) : MembersMean members pairs →
      membersOf? room members = if membersDepth pairs ≤ room then some pairs else none
  | .nil => rfl
  | @MembersMean.cons _ _ _ value _ pairs named first rest => by
    rw [membersOf?, named, value?_of_means room first, membersOf?_of_means room rest, membersDepth]
    simp only [Nat.max_le]
    by_cases fits : value.depth ≤ room <;> by_cases others : membersDepth pairs ≤ room <;>
      simp [fits, others]

end

end Written

end ReactiveView.Json
