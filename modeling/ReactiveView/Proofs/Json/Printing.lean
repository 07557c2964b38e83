/-
**The compact text of a value means the value.**

Every character of a string has a piece of its own in the text, and a whole number the digits that it has in
base ten; commas, colons and brackets stand where the grammar has them, with no blanks between them. So the
text is one of the value, and the reader finds the value in it if there is room for it.

* `Json.IsPlain` — the values of which the text tells everything.
* `spelled_stringText` — the text of a string.
* `spelled_text` — the text of a value.
* `ofText?_text` — a value that nests no deeper than values may is read back from its text.
-/

import ReactiveView.Proofs.Json.Meaning

namespace ReactiveView.Json

mutual

/-- **A value of which the text tells everything**: its numbers are whole numbers of 64 bits, and no object
in it has two members of one name. -/
def IsPlain : Json → Prop
  | null | bool _ | string _ => True
  | int number => Integer.fits number = true
  | float _ => False
  | array items => ItemsPlain items
  | object members => MembersPlain members ∧ (members.map Prod.fst).Nodup

/-- The items of an array are plain. -/
def ItemsPlain : List Json → Prop
  | [] => True
  | item :: rest => IsPlain item ∧ ItemsPlain rest

/-- The members of an object are plain. -/
def MembersPlain : List (String × Json) → Prop
  | [] => True
  | (_, value) :: rest => IsPlain value ∧ MembersPlain rest

end

/-! ### Strings -/

/-- The four digits of a control character. -/
theorem unit?_control : ∀ code < 0x20,
    Written.unit? '0' '0' (Text.hexDigit (code / 16)) (Text.hexDigit (code % 16)) = some code := by
  decide

/-- A code unit that is no half of a pair is a character of its own. -/
theorem text?_unit_of_lt {code : Nat} (small : code < 0xD800) (rest : List Piece) :
    text? (.unit code :: rest) = (text? rest).map (Char.ofNat code :: ·) := by
  have noLow : (decide (0xDC00 ≤ code) && decide (code ≤ 0xDFFF)) = false := by
    rw [Bool.and_eq_false_iff, decide_eq_false_iff_not]
    omega
  have noHigh : (decide (0xD800 ≤ code) && decide (code ≤ 0xDBFF)) = false := by
    rw [Bool.and_eq_false_iff, decide_eq_false_iff_not]
    omega
  rw [text?.eq_def]
  simp only [noLow, noHigh, Bool.false_eq_true, if_false]

/-- **Every character has a piece** in what is written of it. -/
theorem exists_piece (c : Char) : ∃ piece : Piece, piece.Spelled (escapeChar c) ∧
    ∀ rest, text? (piece :: rest) = (text? rest).map (c :: ·) := by
  have known (letter : Char) (found : Written.escaped? letter = some c) :
      ∃ piece : Piece, piece.Spelled ['\\', letter] ∧
        ∀ rest, text? (piece :: rest) = (text? rest).map (c :: ·) :=
    ⟨.char c, .escaped found, fun _ => rfl⟩
  unfold escapeChar
  split
  · exact known _ rfl
  · exact known _ rfl
  · exact known _ rfl
  · exact known _ rfl
  · exact known _ rfl
  · next noQuote noBackslash _ _ _ =>
    split
    · next code =>
      obtain rfl : c = '\x08' := by rw [← Char.ofNat_toNat c, code]
      exact known _ rfl
    split
    · next code =>
      obtain rfl : c = '\x0c' := by rw [← Char.ofNat_toNat c, code]
      exact known _ rfl
    split
    · next control =>
      refine ⟨.unit c.toNat, .unit (unit?_control c.toNat control), fun rest => ?_⟩
      rw [text?_unit_of_lt (Nat.lt_trans control (by decide)), Char.ofNat_toNat]
    · next printable =>
      exact ⟨.char c, .plain printable noQuote noBackslash, fun _ => rfl⟩

/-- Every string has pieces in what is written of it. -/
theorem exists_pieces (text : List Char) : ∃ pieces,
    Piece.SpelledRow pieces (text.flatMap escapeChar) ∧ text? pieces = some text := by
  induction text with
  | nil => exact ⟨[], .nil, rfl⟩
  | cons c text ih =>
    obtain ⟨piece, spelled, reads⟩ := exists_piece c
    obtain ⟨pieces, others, same⟩ := ih
    refine ⟨piece :: pieces, .cons spelled others, ?_⟩
    rw [reads, same]
    rfl

/-- **The text of a string is a quoted row of pieces that stand for it.** -/
theorem spelled_stringText (value : String) : ∃ pieces text, string? pieces = some value ∧
    Piece.SpelledRow pieces text ∧ (stringText value).toList = '"' :: (text ++ ['"']) := by
  obtain ⟨pieces, spelled, reads⟩ := exists_pieces value.toList
  refine ⟨pieces, _, ?_, spelled, String.toList_ofList⟩
  rw [string?, reads, Option.map_some, String.ofList_toList]

/-! ### Whole numbers -/

/-- The text of a numeral with neither places nor exponent. -/
theorem spelled_whole (negative : Bool) {whole : List Char} (isDigits : IsDigits whole)
    (leads : whole.head? = some '0' → whole.length = 1) :
    (⟨negative, whole, none, none⟩ : Numeral).Spelled ((if negative then ['-'] else []) ++ whole) := by
  have spelled : (⟨negative, whole, none, none⟩ : Numeral).Spelled _ := .intro isDigits leads .none .none
  simpa using spelled

/-- The text of a whole number is one of a numeral that stands for it. -/
theorem spelled_intText (number : Int) : ∃ numeral : Numeral, numeral.Means number ∧
    numeral.Spelled (intText number).toList := by
  obtain ⟨first, rest, cons, -, zero⟩ := Token.toDigits_cons number.natAbs
  have decimal : ∀ c ∈ Nat.toDigits 10 number.natAbs, c.isDigit = true :=
    fun c member => Token.isDigit_of_mem_toDigits member
  have value := Token.numberIn_toDigits number.natAbs
  have isDigits : IsDigits (Nat.toDigits 10 number.natAbs) := ⟨decimal, by rw [cons]; exact nofun⟩
  have leads : (Nat.toDigits 10 number.natAbs).head? = some '0' →
      (Nat.toDigits 10 number.natAbs).length = 1 := by
    intro head
    rw [cons] at head
    rw [zero (Option.some.inj head)]
    rfl
  by_cases negative : number < 0
  · have means := Numeral.Means.signed decimal (by omega)
    have spelled := spelled_whole true isDigits leads
    have same : -(Text.numberIn 10 (Nat.toDigits 10 number.natAbs) : Int) = number := by omega
    rw [same] at means
    refine ⟨_, means, ?_⟩
    rw [intText, if_pos negative, Decimal.digitText, String.toList_append, String.toList_ofList]
    simpa using spelled
  · have means := Numeral.Means.plain decimal
    have spelled := spelled_whole false isDigits leads
    have same : (Text.numberIn 10 (Nat.toDigits 10 number.natAbs) : Int) = number := by omega
    rw [same] at means
    refine ⟨_, means, ?_⟩
    rw [intText, if_neg negative, Decimal.digitText, String.toList_ofList]
    simpa using spelled

/-! ### Values -/

theorem blanks_nil : Blanks [] := List.forall_mem_nil _

/-- One member of an object, whatever is between its name and its value. -/
theorem spelled_member (name : String) {written : Written} {text : List Char}
    (spelled : written.Spelled text) : ∃ pieces, string? pieces = some name ∧
      Written.SpelledMember (pieces, written) ((stringText name).toList ++ ':' :: text) := by
  obtain ⟨pieces, label, named, row, same⟩ := spelled_stringText name
  refine ⟨pieces, named, ?_⟩
  have member := Written.SpelledMember.intro blanks_nil row blanks_nil blanks_nil spelled blanks_nil
  rw [same]
  simpa using member

mutual

/-- **The text of a value is one of something written that means the value.** -/
theorem spelled_text : ∀ value : Json, value.IsPlain →
    ∃ written : Written, written.Means value ∧ written.Spelled value.text.toList
  | null, _ => ⟨.null, .null, .null⟩
  | bool true, _ => ⟨.bool true, .bool true, .true⟩
  | bool false, _ => ⟨.bool false, .bool false, .false⟩
  | int number, plain => by
    obtain ⟨numeral, means, spelled⟩ := spelled_intText number
    exact ⟨.number numeral, .int means plain, .number spelled⟩
  | string value, _ => by
    obtain ⟨pieces, text, means, spelled, same⟩ := spelled_stringText value
    refine ⟨.string pieces, .string means, ?_⟩
    rw [Json.text, same]
    exact .string spelled
  | array items, plain => by
    obtain ⟨written, means, spelled⟩ := spelled_itemTexts items plain
    refine ⟨.array written, .array means, ?_⟩
    rw [Json.text, String.toList_append, String.toList_append]
    by_cases none : items = []
    · subst none
      cases means
      exact .emptyArray blanks_nil
    · exact .array (spelled none)
  | object members, plain => by
    obtain ⟨written, means, spelled⟩ := spelled_memberTexts members plain.1
    refine ⟨.object written, .object means plain.2, ?_⟩
    rw [Json.text, String.toList_append, String.toList_append]
    by_cases none : members = []
    · subst none
      cases means
      exact .emptyObject blanks_nil
    · exact .object (spelled none)

/-- The items of an array stand in its text. -/
theorem spelled_itemTexts : ∀ items : List Json, ItemsPlain items →
    ∃ written, Written.ItemsMean written items ∧ (items ≠ [] →
      Written.SpelledItems written (String.intercalate "," (itemTexts items)).toList)
  | [], _ => ⟨[], .nil, fun some => absurd rfl some⟩
  | [item], plain => by
    obtain ⟨written, means, spelled⟩ := spelled_text item plain.1
    refine ⟨[written], .cons means .nil, fun _ => ?_⟩
    have row := Written.SpelledItems.last blanks_nil spelled blanks_nil
    rw [itemTexts, itemTexts, String.intercalate_singleton]
    simpa using row
  | item :: next :: items, plain => by
    obtain ⟨written, means, spelled⟩ := spelled_text item plain.1
    obtain ⟨others, mean, rest⟩ := spelled_itemTexts (next :: items) plain.2
    refine ⟨written :: others, .cons means mean, fun _ => ?_⟩
    have row := Written.SpelledItems.cons blanks_nil spelled blanks_nil (rest (List.cons_ne_nil _ _))
    rw [itemTexts, itemTexts, String.intercalate_cons_cons, ← itemTexts]
    simpa using row

/-- The members of an object stand in its text. -/
theorem spelled_memberTexts : ∀ members : List (String × Json), MembersPlain members →
    ∃ written, Written.MembersMean written members ∧ (members ≠ [] →
      Written.SpelledMembers written (String.intercalate "," (memberTexts members)).toList)
  | [], _ => ⟨[], .nil, fun some => absurd rfl some⟩
  | [(name, value)], plain => by
    obtain ⟨written, means, spelled⟩ := spelled_text value plain.1
    obtain ⟨pieces, named, member⟩ := spelled_member name spelled
    refine ⟨[(pieces, written)], .cons named means .nil, fun _ => ?_⟩
    rw [memberTexts, memberTexts, String.intercalate_singleton]
    simpa using Written.SpelledMembers.last member
  | (name, value) :: (other, next) :: members, plain => by
    obtain ⟨written, means, spelled⟩ := spelled_text value plain.1
    obtain ⟨pieces, named, member⟩ := spelled_member name spelled
    obtain ⟨others, mean, rest⟩ := spelled_memberTexts ((other, next) :: members) plain.2
    refine ⟨(pieces, written) :: others, .cons named means mean, fun _ => ?_⟩
    have row := Written.SpelledMembers.cons member (rest (List.cons_ne_nil _ _))
    rw [memberTexts, memberTexts, String.intercalate_cons_cons, ← memberTexts]
    simpa using row

end

/-- A text with no blanks around it. -/
theorem Written.isText_of_spelled {written : Written} {text : String}
    (spelled : written.Spelled text.toList) : written.IsText text :=
  ⟨[], text.toList, [], blanks_nil, spelled, blanks_nil, (List.append_nil _).symm⟩

/-- **A value is read back from its text** if it nests no deeper than values may; else there is none. -/
theorem ofText?_text {value : Json} (plain : value.IsPlain) :
    ofText? value.text = if value.depth ≤ nestingLimit then some value else none := by
  obtain ⟨written, means, spelled⟩ := spelled_text value plain
  rw [ofText?, Written.ofText?_of_isText (Written.isText_of_spelled spelled)]
  exact Written.value?_of_means nestingLimit means

end ReactiveView.Json
