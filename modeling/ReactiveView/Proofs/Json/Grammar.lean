/-
**Every JSON text is read.**

The grammar of JSON is told here apart from its reader: what may be written for a piece of a string, for a
number, for a value, with blanks wherever they may stand. Whatever text the grammar has for a value, the
reader finds the value in it, and takes no more of the text than that.

* `Piece.Spelled`, `Numeral.Spelled`, `Written.Spelled` — the texts of pieces, numbers and values.
* `pieces?_of_spelled`, `numeral?_of_spelled` — strings and numbers are read.
* `read?_of_spelled` — values are read, with any blanks in front and anything behind that ends a number.
* `ofText?_of_isText` — a text that holds a value and nothing else but blanks.
-/

import ReactiveView.Json.Written
import ReactiveView.Proofs.Template.Spelling

namespace ReactiveView.Json

/-! ### Strings -/

/-- **The texts of a piece of a string**: a character as it is, one behind a backslash, or the four digits of a
code unit. -/
inductive Piece.Spelled : Piece → List Char → Prop
  | plain {c : Char} (printable : ¬ c.toNat < 0x20) (noQuote : c ≠ '"') (noBackslash : c ≠ '\\') :
    Spelled (.char c) [c]
  | escaped {letter c : Char} (known : Written.escaped? letter = some c) :
    Spelled (.char c) ['\\', letter]
  | unit {first second third fourth : Char} {code : Nat}
    (known : Written.unit? first second third fourth = some code) :
    Spelled (.unit code) ['\\', 'u', first, second, third, fourth]

/-- The texts of the pieces of a string, one after the other. -/
inductive Piece.SpelledRow : List Piece → List Char → Prop
  | nil : SpelledRow [] []
  | cons {piece : Piece} {pieces : List Piece} {own text : List Char} (first : piece.Spelled own)
    (rest : SpelledRow pieces text) : SpelledRow (piece :: pieces) (own ++ text)

namespace Written

/-- **The pieces of a string are read** up to its closing quote. -/
theorem pieces?_of_spelled {pieces : List Piece} {text : List Char}
    (spelled : Piece.SpelledRow pieces text) (rest : List Char) :
    pieces? (text ++ '"' :: rest) = some (pieces, rest) := by
  induction spelled with
  | nil => rw [List.nil_append, pieces?]
  | @cons piece pieces own text first _ ih =>
    rw [List.append_assoc]
    cases first with
    | @plain c printable noQuote noBackslash =>
      rw [List.singleton_append, pieces?, if_neg, ih]
      · rfl
      · simp [printable, noBackslash]
      · exact fun same => absurd same noQuote
      · exact fun _ _ _ _ _ same => absurd same noBackslash
      · exact fun _ _ same => absurd same noBackslash
    | @escaped letter c known =>
      have other : letter ≠ 'u' := by
        rintro rfl
        cases known
      rw [List.cons_append, List.cons_append, List.nil_append, pieces?, known, ih]
      · rfl
      · exact fun _ _ _ _ _ same => absurd same other
    | @unit first second third fourth code known =>
      simp only [List.cons_append, List.nil_append]
      rw [pieces?, known, ih]
      rfl

end Written

/-! ### Numbers -/

/-- A row of digits, of which there is at least one. -/
structure IsDigits (text : List Char) : Prop where
  digits : ∀ c ∈ text, c.isDigit = true
  nonempty : text ≠ []

/-- The texts of the digits behind a point, if there is one. -/
inductive SpelledFraction : Option (List Char) → List Char → Prop
  | none : SpelledFraction none []
  | some {places : List Char} (digits : IsDigits places) : SpelledFraction (some places) ('.' :: places)

/-- The texts of an exponent, if there is one. -/
inductive SpelledExponent : Option (Bool × List Char) → List Char → Prop
  | none : SpelledExponent none []
  | bare {mark : Char} {power : List Char} (marked : mark = 'e' ∨ mark = 'E') (digits : IsDigits power) :
    SpelledExponent (some (false, power)) (mark :: power)
  | plus {mark : Char} {power : List Char} (marked : mark = 'e' ∨ mark = 'E') (digits : IsDigits power) :
    SpelledExponent (some (false, power)) (mark :: '+' :: power)
  | minus {mark : Char} {power : List Char} (marked : mark = 'e' ∨ mark = 'E') (digits : IsDigits power) :
    SpelledExponent (some (true, power)) (mark :: '-' :: power)

/-- **The texts of a number**; a whole part of several digits begins with no zero. -/
inductive Numeral.Spelled : Numeral → List Char → Prop
  | intro {negative : Bool} {whole places power : List Char} {fraction : Option (List Char)}
    {exponent : Option (Bool × List Char)} (digits : IsDigits whole)
    (leads : whole.head? = some '0' → whole.length = 1) (behindPoint : SpelledFraction fraction places)
    (scaled : SpelledExponent exponent power) :
    Spelled ⟨negative, whole, fraction, exponent⟩
      ((if negative then ['-'] else []) ++ (whole ++ (places ++ power)))

/-- **What may stand right behind a number**: nothing that it would go on with. -/
def Ends (rest : List Char) : Prop :=
  ∀ c, rest.head? = some c → c.isDigit = false ∧ c ≠ '.' ∧ c ≠ 'e' ∧ c ≠ 'E'

namespace Written

theorem ne_of_isDigit {c other : Char} (digit : c.isDigit = true) (noDigit : other.isDigit = false) :
    c ≠ other := by
  rintro rfl
  rw [digit] at noDigit
  cases noDigit

/-- A row of digits is read up to what is no digit. -/
theorem digits_append {text rest : List Char} (isDigits : IsDigits text)
    (ends : ∀ c, rest.head? = some c → c.isDigit = false) : digits (text ++ rest) = (text, rest) := by
  obtain ⟨taken, left⟩ := Token.takeWhile_exact isDigits.digits ends
  rw [digits, taken, left]

/-- An exponent is read, whether or not there is one. -/
theorem exponent?_of_spelled {exponent : Option (Bool × List Char)} {text rest : List Char}
    (spelled : SpelledExponent exponent text) (ends : Ends rest) :
    exponent? (text ++ rest) = some (exponent, rest) := by
  have marks {mark : Char} (marked : mark = 'e' ∨ mark = 'E') : (mark == 'e' || mark == 'E') = true := by
    simpa using marked
  cases spelled with
  | none =>
    unfold exponent?
    cases rest with
    | nil => rfl
    | cons c rest =>
      obtain ⟨-, -, small, great⟩ := ends c rfl
      simp [small, great]
  | @bare mark power marked isDigits =>
    obtain ⟨first, others, rfl⟩ := List.exists_cons_of_ne_nil isDigits.nonempty
    have digit := isDigits.digits first List.mem_cons_self
    rw [List.cons_append, exponent?, if_pos (marks marked),
      digits_append isDigits fun c head => (ends c head).1]
    · exact fun _ same => ne_of_isDigit digit (by decide) (List.cons.inj same).1
    · exact fun _ same => ne_of_isDigit digit (by decide) (List.cons.inj same).1
  | @plus mark power marked isDigits =>
    obtain ⟨first, others, rfl⟩ := List.exists_cons_of_ne_nil isDigits.nonempty
    rw [List.cons_append, List.cons_append, exponent?, if_pos (marks marked),
      digits_append isDigits fun c head => (ends c head).1]
  | @minus mark power marked isDigits =>
    obtain ⟨first, others, rfl⟩ := List.exists_cons_of_ne_nil isDigits.nonempty
    rw [List.cons_append, List.cons_append, exponent?, if_pos (marks marked),
      digits_append isDigits fun c head => (ends c head).1]

/-- The digits behind a point are read, whether or not there is one. -/
theorem fraction?_of_spelled {fraction : Option (List Char)} {text rest : List Char}
    (spelled : SpelledFraction fraction text)
    (ends : ∀ c, rest.head? = some c → c.isDigit = false ∧ c ≠ '.') :
    fraction? (text ++ rest) = some (fraction, rest) := by
  cases spelled with
  | none =>
    rw [List.nil_append, fraction?]
    rintro more rfl
    exact (ends '.' rfl).2 rfl
  | @some places isDigits =>
    obtain ⟨first, others, rfl⟩ := List.exists_cons_of_ne_nil isDigits.nonempty
    rw [List.cons_append, fraction?, digits_append isDigits fun c head => (ends c head).1]

/-- **A number is read**, up to what may stand behind it. -/
theorem numeral?_of_spelled {numeral : Numeral} {text rest : List Char} (spelled : numeral.Spelled text)
    (ends : Ends rest) : numeral? (text ++ rest) = some (numeral, rest) := by
  cases spelled with
  | @intro negative whole places power fraction exponent isDigits leads behindPoint scaled =>
    have behind : ∀ c, (power ++ rest).head? = some c → c.isDigit = false ∧ c ≠ '.' := by
      cases scaled with
      | none => exact fun c head => ⟨(ends c head).1, (ends c head).2.1⟩
      | bare marked _ | plus marked _ | minus marked _ =>
        rintro c head
        obtain rfl := Option.some.inj head
        rcases marked with rfl | rfl <;> decide
    have after : ∀ c, (places ++ (power ++ rest)).head? = some c → c.isDigit = false := by
      cases behindPoint with
      | none => exact fun c head => (behind c head).1
      | some _ =>
        rintro c head
        obtain rfl := Option.some.inj head
        rfl
    have taken := digits_append isDigits after
    have point := fraction?_of_spelled behindPoint behind
    have scale := exponent?_of_spelled scaled ends
    have fits : (whole.isEmpty || (whole.head? == some '0' && whole.length != 1)) = false := by
      have filled : whole.isEmpty = false := by simpa using isDigits.nonempty
      rw [filled, Bool.false_or, Bool.and_eq_false_iff, beq_eq_false_iff_ne, bne_eq_false_iff_eq]
      exact or_iff_not_imp_left.mpr fun same => leads (not_not.mp same)
    have unsigned : ∀ more, whole ++ (places ++ (power ++ rest)) = '-' :: more → False := by
      intro more same
      obtain ⟨first, others, rfl⟩ := List.exists_cons_of_ne_nil isDigits.nonempty
      exact ne_of_isDigit (isDigits.digits first List.mem_cons_self) (by decide) (List.cons.inj same).1
    simp only [List.append_assoc]
    cases negative with
    | true =>
      rw [if_pos rfl, List.singleton_append, numeral?]
      simp only [taken, fits, Bool.false_eq_true, if_false, point, scale, Option.bind_eq_bind,
        Option.bind_some, Option.pure_def]
    | false =>
      rw [if_neg Bool.false_ne_true, List.nil_append, numeral?]
      · simp only [taken, fits, Bool.false_eq_true, if_false, point, scale, Option.bind_eq_bind,
          Option.bind_some, Option.pure_def]
      · exact unsigned

end Written

/-! ### Values -/

/-- A row of blanks. -/
def Blanks (text : List Char) : Prop := ∀ c ∈ text, Written.isSpace c = true

mutual

/-- **The texts of a value**, from its first character to its last. -/
inductive Written.Spelled : Written → List Char → Prop
  | null : Spelled .null ['n', 'u', 'l', 'l']
  | true : Spelled (.bool true) ['t', 'r', 'u', 'e']
  | false : Spelled (.bool false) ['f', 'a', 'l', 's', 'e']
  | number {numeral : Numeral} {text : List Char} (spelled : numeral.Spelled text) :
    Spelled (.number numeral) text
  | string {pieces : List Piece} {text : List Char} (spelled : Piece.SpelledRow pieces text) :
    Spelled (.string pieces) ('"' :: (text ++ ['"']))
  | emptyArray {between : List Char} (blanks : Blanks between) :
    Spelled (.array []) ('[' :: (between ++ [']']))
  | array {items : List Written} {text : List Char} (spelled : Written.SpelledItems items text) :
    Spelled (.array items) ('[' :: (text ++ [']']))
  | emptyObject {between : List Char} (blanks : Blanks between) :
    Spelled (.object []) ('\x7b' :: (between ++ ['\x7d']))
  | object {members : List (List Piece × Written)} {text : List Char}
    (spelled : Written.SpelledMembers members text) :
    Spelled (.object members) ('\x7b' :: (text ++ ['\x7d']))

/-- The texts of the items of an array, of which there is at least one. -/
inductive Written.SpelledItems : List Written → List Char → Prop
  | last {item : Written} {before own after : List Char} (blanks : Blanks before)
    (spelled : Written.Spelled item own) (moreBlanks : Blanks after) :
    SpelledItems [item] (before ++ (own ++ after))
  | cons {item : Written} {items : List Written} {before own after text : List Char} (blanks : Blanks before)
    (spelled : Written.Spelled item own) (moreBlanks : Blanks after) (rest : SpelledItems items text) :
    SpelledItems (item :: items) (before ++ (own ++ (after ++ ',' :: text)))

/-- The texts of the members of an object, of which there is at least one. -/
inductive Written.SpelledMembers : List (List Piece × Written) → List Char → Prop
  | last {member : List Piece × Written} {own : List Char} (spelled : Written.SpelledMember member own) :
    SpelledMembers [member] own
  | cons {member : List Piece × Written} {members : List (List Piece × Written)} {own text : List Char}
    (spelled : Written.SpelledMember member own) (rest : SpelledMembers members text) :
    SpelledMembers (member :: members) (own ++ ',' :: text)

/-- The texts of one member of an object, with the blanks around it. -/
inductive Written.SpelledMember : List Piece × Written → List Char → Prop
  | intro {name : List Piece} {value : Written} {before label behind gap own after : List Char}
    (blanks : Blanks before) (named : Piece.SpelledRow name label) (blanksBehind : Blanks behind)
    (blanksBetween : Blanks gap) (spelled : Written.Spelled value own) (blanksAfter : Blanks after) :
    SpelledMember (name, value)
      (before ++ '"' :: (label ++ '"' :: (behind ++ ':' :: (gap ++ (own ++ after)))))

end

namespace Written

/-! ### The reader at work -/

/-- Blanks are skipped up to what is no blank. -/
theorem skipSpace_append {blanks text : List Char} (isBlanks : Blanks blanks)
    (solid : ∀ c, text.head? = some c → isSpace c = false) : skipSpace (blanks ++ text) = text :=
  (Token.takeWhile_exact isBlanks solid).2

theorem skipSpace_append_cons {blanks text : List Char} {c : Char} (isBlanks : Blanks blanks)
    (solid : isSpace c = false) : skipSpace (blanks ++ c :: text) = c :: text :=
  skipSpace_append isBlanks fun d head => (Option.some.inj head : c = d) ▸ solid

/-- Blanks stand behind a number as well as whatever stands behind them. -/
theorem ends_append {blanks rest : List Char} (isBlanks : Blanks blanks) (ends : Ends rest) :
    Ends (blanks ++ rest) := by
  cases blanks with
  | nil => exact ends
  | cons blank blanks =>
    rintro c head
    obtain rfl := Option.some.inj head
    have blank := isBlanks blank List.mem_cons_self
    simp only [isSpace, Bool.or_eq_true, beq_iff_eq] at blank
    rcases blank with ((rfl | rfl) | rfl) | rfl <;> decide

/-- Nothing may stand behind a number. -/
theorem ends_nil : Ends [] := fun c head => absurd head.symm (Option.some_ne_none c)

theorem ends_cons {c : Char} {rest : List Char}
    (closes : c.isDigit = false ∧ c ≠ '.' ∧ c ≠ 'e' ∧ c ≠ 'E') : Ends (c :: rest) :=
  fun d head => (Option.some.inj head : c = d) ▸ closes

/-- A number begins with its sign or with a digit. -/
theorem head_of_spelledNumeral {numeral : Numeral} {text : List Char} (spelled : numeral.Spelled text) :
    ∃ c more, text = c :: more ∧ (c = '-' ∨ c.isDigit = true) := by
  cases spelled with
  | @intro negative whole places power _ _ isDigits =>
    obtain ⟨first, others, rfl⟩ := List.exists_cons_of_ne_nil isDigits.nonempty
    cases negative with
    | true => exact ⟨'-', _, rfl, .inl rfl⟩
    | false => exact ⟨first, _, rfl, .inr (isDigits.digits first List.mem_cons_self)⟩

/-- What begins a number begins nothing else. -/
theorem ne_of_beginsNumeral {c other : Char} (begins : c = '-' ∨ c.isDigit = true)
    (noSign : '-' ≠ other) (noDigit : other.isDigit = false) : c ≠ other := by
  rcases begins with rfl | digit
  · exact noSign
  · exact ne_of_isDigit digit noDigit

theorem isSpace_of_beginsNumeral {c : Char} (begins : c = '-' ∨ c.isDigit = true) : isSpace c = false := by
  simp only [isSpace, Bool.or_eq_false_iff, beq_eq_false_iff_ne]
  exact ⟨⟨⟨ne_of_beginsNumeral begins (by decide) rfl, ne_of_beginsNumeral begins (by decide) rfl⟩,
    ne_of_beginsNumeral begins (by decide) rfl⟩, ne_of_beginsNumeral begins (by decide) rfl⟩

/-- No blank begins a value. -/
theorem solid_of_spelled {value : Written} {text : List Char} (spelled : value.Spelled text)
    (rest : List Char) : ∀ c, (text ++ rest).head? = some c → isSpace c = false := by
  rintro c head
  cases spelled with
  | number spelled =>
    obtain ⟨first, more, rfl, begins⟩ := head_of_spelledNumeral spelled
    obtain rfl := Option.some.inj head
    exact isSpace_of_beginsNumeral begins
  | _ =>
    obtain rfl := Option.some.inj head
    rfl

/-- What begins a value begins no rest of an array or an object. -/
theorem noClosing_of_spelled {value : Written} {text : List Char} (spelled : value.Spelled text)
    (rest : List Char) : ∀ c, (text ++ rest).head? = some c → c ≠ ']' := by
  rintro c head
  cases spelled with
  | number spelled =>
    obtain ⟨first, more, rfl, begins⟩ := head_of_spelledNumeral spelled
    obtain rfl := Option.some.inj head
    exact ne_of_beginsNumeral begins (by decide) rfl
  | _ =>
    obtain rfl := Option.some.inj head
    decide

/-- No bracket closes an array in front of its items. -/
theorem noClosing_of_spelledItems {items : List Written} {text : List Char} (spelled : SpelledItems items text)
    (rest : List Char) : ∀ after, skipSpace (text ++ rest) ≠ ']' :: after := by
  intro after closes
  cases spelled with
  | last blanks spelled _ | cons blanks spelled _ _ =>
    rw [List.append_assoc, List.append_assoc, skipSpace_append blanks (solid_of_spelled spelled _)] at closes
    exact noClosing_of_spelled spelled _ ']' (congrArg List.head? closes) rfl

/-- No brace closes an object in front of its members. -/
theorem noClosing_of_spelledMembers {members : List (List Piece × Written)} {text : List Char}
    (spelled : SpelledMembers members text) (rest : List Char) :
    ∀ after, skipSpace (text ++ rest) ≠ '\x7d' :: after := by
  intro after closes
  cases spelled with
  | last own | cons own _ =>
    obtain ⟨blanks, -, -, -, -, -⟩ := own
    simp only [List.append_assoc, List.cons_append] at closes
    rw [skipSpace_append_cons blanks (by decide)] at closes
    exact absurd (List.cons.inj closes).1 (by decide)

mutual

/-- **A value is read**, with the blanks in front of it and up to what may stand behind a number. -/
theorem read?_of_spelled {value : Written} {text blanks rest : List Char} {fuel : Nat}
    (isBlanks : Blanks blanks) (ends : Ends rest) (enough : 2 * text.length ≤ fuel) :
    value.Spelled text → read? (fuel + 1) (blanks ++ (text ++ rest)) = some (value, rest)
  | .null => by
    rw [read?, skipSpace_append isBlanks (solid_of_spelled .null rest)]
    rfl
  | .true => by
    rw [read?, skipSpace_append isBlanks (solid_of_spelled .true rest)]
    rfl
  | .false => by
    rw [read?, skipSpace_append isBlanks (solid_of_spelled .false rest)]
    rfl
  | .number spelled => by
    rw [read?, skipSpace_append isBlanks (solid_of_spelled (.number spelled) rest)]
    have read := numeral?_of_spelled spelled ends
    obtain ⟨first, more, rfl, begins⟩ := head_of_spelledNumeral spelled
    split
    case h_7 =>
      rw [read]
      rfl
    all_goals
      rename_i same
      exact absurd (List.cons.inj same).1 (ne_of_beginsNumeral begins (by decide) rfl)
  | .string spelled => by
    rw [read?, skipSpace_append isBlanks (solid_of_spelled (.string spelled) rest)]
    simp only [List.cons_append, List.append_assoc, List.nil_append, pieces?_of_spelled spelled]
    rfl
  | .emptyArray between => by
    have closed : isSpace ']' = false := by decide
    rw [read?, skipSpace_append isBlanks (solid_of_spelled (.emptyArray between) rest)]
    simp only [List.cons_append, List.append_assoc, List.nil_append, skipSpace_append_cons between closed]
  | .array spelled => by
    rw [List.length_cons, List.length_append, List.length_singleton] at enough
    obtain ⟨fuel, rfl⟩ : ∃ less, fuel = less + 2 := ⟨fuel - 2, by omega⟩
    have read := items?_of_spelled rest (show 2 * _ ≤ fuel by omega) spelled
    rw [read?, skipSpace_append isBlanks (solid_of_spelled (.array spelled) rest)]
    simp only [List.cons_append, List.append_assoc, List.nil_append, read]
    split
    · exact absurd ‹_› (noClosing_of_spelledItems spelled _ _)
    · rfl
  | .emptyObject between => by
    have closed : isSpace '\x7d' = false := by decide
    rw [read?, skipSpace_append isBlanks (solid_of_spelled (.emptyObject between) rest)]
    simp only [List.cons_append, List.append_assoc, List.nil_append, skipSpace_append_cons between closed]
  | .object spelled => by
    rw [List.length_cons, List.length_append, List.length_singleton] at enough
    obtain ⟨fuel, rfl⟩ : ∃ less, fuel = less + 2 := ⟨fuel - 2, by omega⟩
    have read := members?_of_spelled rest (show 2 * _ ≤ fuel by omega) spelled
    rw [read?, skipSpace_append isBlanks (solid_of_spelled (.object spelled) rest)]
    simp only [List.cons_append, List.append_assoc, List.nil_append, read]
    split
    · exact absurd ‹_› (noClosing_of_spelledMembers spelled _ _)
    · rfl

/-- The items of an array are read up to its closing bracket. -/
theorem items?_of_spelled {items : List Written} {text : List Char} {fuel : Nat} (rest : List Char)
    (enough : 2 * text.length ≤ fuel) :
    SpelledItems items text → items? (fuel + 2) (text ++ ']' :: rest) = some (items, rest)
  | @SpelledItems.last item before own after blanks spelled moreBlanks => by
    simp only [List.length_append] at enough
    have closed : isSpace ']' = false := by decide
    have ends : Ends (after ++ ']' :: rest) := ends_append moreBlanks (ends_cons (by decide))
    have read := read?_of_spelled blanks ends (show 2 * own.length ≤ fuel by omega) spelled
    simp only [List.append_assoc]
    rw [items?, read]
    simp only [Option.bind_eq_bind, Option.bind_some, skipSpace_append_cons moreBlanks closed]
    rfl
  | @SpelledItems.cons item items before own after text blanks spelled moreBlanks more => by
    simp only [List.length_append, List.length_cons] at enough
    obtain ⟨fuel, rfl⟩ : ∃ less, fuel = less + 1 := ⟨fuel - 1, by omega⟩
    have goesOn : isSpace ',' = false := by decide
    have ends : Ends (after ++ ',' :: (text ++ ']' :: rest)) :=
      ends_append moreBlanks (ends_cons (by decide))
    have read := read?_of_spelled blanks ends (show 2 * own.length ≤ fuel + 1 by omega) spelled
    have others := items?_of_spelled rest (show 2 * text.length ≤ fuel by omega) more
    simp only [List.append_assoc, List.cons_append]
    rw [items?, read]
    simp only [Option.bind_eq_bind, Option.bind_some, skipSpace_append_cons moreBlanks goesOn, others]
    rfl

/-- The members of an object are read up to its closing brace. -/
theorem members?_of_spelled {members : List (List Piece × Written)} {text : List Char} {fuel : Nat}
    (rest : List Char) (enough : 2 * text.length ≤ fuel) :
    SpelledMembers members text → members? (fuel + 2) (text ++ '\x7d' :: rest) = some (members, rest)
  | .last (@SpelledMember.intro name value before label behind gap own after blanks named blanksBehind
      blanksBetween spelled blanksAfter) => by
    simp only [List.length_append, List.length_cons] at enough
    have quote : isSpace '"' = false := by decide
    have colon : isSpace ':' = false := by decide
    have closed : isSpace '\x7d' = false := by decide
    have ends : Ends (after ++ '\x7d' :: rest) := ends_append blanksAfter (ends_cons (by decide))
    have read := read?_of_spelled blanksBetween ends (show 2 * own.length ≤ fuel by omega) spelled
    simp only [List.append_assoc, List.cons_append]
    rw [members?, skipSpace_append_cons blanks quote]
    simp only [pieces?_of_spelled named, Option.bind_eq_bind, Option.bind_some,
      skipSpace_append_cons blanksBehind colon, read, skipSpace_append_cons blanksAfter closed]
    rfl
  | @SpelledMembers.cons _ members _ text (@SpelledMember.intro name value before label behind gap own after
      blanks named blanksBehind blanksBetween spelled blanksAfter) more => by
    simp only [List.length_append, List.length_cons] at enough
    obtain ⟨fuel, rfl⟩ : ∃ less, fuel = less + 1 := ⟨fuel - 1, by omega⟩
    have quote : isSpace '"' = false := by decide
    have colon : isSpace ':' = false := by decide
    have goesOn : isSpace ',' = false := by decide
    have ends : Ends (after ++ ',' :: (text ++ '\x7d' :: rest)) :=
      ends_append blanksAfter (ends_cons (by decide))
    have read := read?_of_spelled blanksBetween ends (show 2 * own.length ≤ fuel + 1 by omega) spelled
    have others := members?_of_spelled rest (show 2 * text.length ≤ fuel by omega) more
    simp only [List.append_assoc, List.cons_append]
    rw [members?, skipSpace_append_cons blanks quote]
    simp only [pieces?_of_spelled named, Option.bind_eq_bind, Option.bind_some,
      skipSpace_append_cons blanksBehind colon, read, skipSpace_append_cons blanksAfter goesOn, others]
    rfl

end

/-! ### The whole of a text -/

/-- **A text of a value**, with nothing but blanks in front of it and behind it. -/
def IsText (value : Written) (text : String) : Prop :=
  ∃ before own after, Blanks before ∧ value.Spelled own ∧ Blanks after ∧
    text.toList = before ++ (own ++ after)

/-- **A text of a value is read as the value.** -/
theorem ofText?_of_isText {value : Written} {text : String} (isText : value.IsText text) :
    ofText? text = some value := by
  obtain ⟨before, own, after, blanks, spelled, moreBlanks, same⟩ := isText
  have ends : Ends after := by
    have ends := ends_append moreBlanks ends_nil
    rwa [List.append_nil] at ends
  have skipped : skipSpace after = [] := by
    have skipped : skipSpace (after ++ []) = [] :=
      skipSpace_append moreBlanks fun c head => absurd head.symm (Option.some_ne_none c)
    rwa [List.append_nil] at skipped
  have enough : 2 * own.length ≤ 2 * text.toList.length + 1 := by
    rw [same, List.length_append, List.length_append]
    omega
  have read := read?_of_spelled blanks ends enough spelled
  rw [← same] at read
  rw [ofText?, read]
  simp only [Option.bind_eq_bind, Option.bind_some, skipped, List.isEmpty_nil, if_true]

end Written

end ReactiveView.Json
