/-
**What tokens are read from.**

A token is read from the characters in front of what it leaves: those of a word or a number, a
string with its quotes, or a sign. The first and the last of them tell which signs a text can begin
and end with, and no token is read from a blank, so blanks at the end of a text make no difference.

* `Token.Takes` — the characters that a token is read from.
* `Token.takes_of_nextToken` — a token is read from the characters in front of what it leaves.
* `nextToken_of_tokensFrom` — a token stands at its place.
* `last_of_tokensFrom` — only a minus sign is read from a hyphen at the end.
* `nextToken_blanks`, `tokensFrom_blanks` — blanks at the end of a text.
* `tokenize_trim` — the tokens of a trimmed text.
-/

import Mathlib.Data.List.TakeWhile
import ReactiveView.Proofs.Template.Spelling

namespace ReactiveView

/-! ### What a token is read from -/

namespace Token

/-- **The characters that a token is read from.** -/
inductive Takes : Token → List Char → Prop
  | wordy {token : Token} {taken : List Char}
    (inside : ∀ c ∈ taken, isWordPart c = true ∨ c = '.') : Takes token taken
  | quoted {quote : Char} {body text : List Char} (kind : quote = '"' ∨ quote = '\'')
    (stands : Quotes quote body text) :
    Takes (str (String.ofList body)) (quote :: (text ++ [quote]))
  | pair {first second : Char} {token : Token} (known : ofPair first second = some token) :
    Takes token [first, second]
  | lone {c : Char} {token : Token} (known : ofChar c = some token) : Takes token [c]

/-- What is read up to the closing quote stands between quotes. -/
theorem quotes_of_stringBody? {quote : Char} {text : List Char} {found : List Char × List Char}
    (closed : stringBody? quote text = some found) :
    ∃ inside, text = inside ++ quote :: found.2 ∧ Quotes quote found.1 inside := by
  fun_induction stringBody? quote text generalizing found with
  | case1 => cases closed
  | case2 c rest ih =>
    obtain ⟨inner, eq, rfl⟩ := Option.map_eq_some_iff.mp closed
    obtain ⟨inside, rfl, stands⟩ := ih eq
    exact ⟨'\\' :: c :: inside, rfl, .escaped stands⟩
  | case3 c rest _ isQuote =>
    cases closed
    exact ⟨[], by rw [eq_of_beq isQuote, List.nil_append], .nil⟩
  | case4 => cases closed
  | case5 c rest _ noQuote noBackslash ih =>
    obtain ⟨inner, eq, rfl⟩ := Option.map_eq_some_iff.mp closed
    obtain ⟨inside, rfl, stands⟩ := ih eq
    refine ⟨c :: inside, rfl, .plain ?_ ?_ stands⟩
    · simpa using noQuote
    · simpa using noBackslash

theorem mem_wholeDigits {text : List Char} {c : Char} (member : c ∈ wholeDigits text) :
    c.isDigit = true := by
  unfold wholeDigits at member
  split at member
  · rw [List.mem_singleton.mp member]
    rfl
  · exact List.mem_takeWhile_imp member

/-- The front of a text that is taken by a kind of characters, and the rest of the text. -/
theorem takeWhile_append_drop (kind : Char → Bool) (text : List Char) :
    text.takeWhile kind ++ text.drop (text.takeWhile kind).length = text := by
  have front := text.takeWhile_prefix kind
  exact List.prefix_iff_eq_append.mp front

theorem wholeDigits_append_drop (text : List Char) :
    wholeDigits text ++ text.drop (wholeDigits text).length = text := by
  unfold wholeDigits
  split
  · rfl
  · exact takeWhile_append_drop _ _

theorem mem_placesDigits {text : List Char} {c : Char} (member : c ∈ placesDigits text) :
    c.isDigit = true := by
  unfold placesDigits at member
  split at member
  · exact List.mem_takeWhile_imp member
  · cases member

/-- The places of a number stand behind a point. -/
theorem eq_of_placesDigits {text : List Char} (some : (placesDigits text).isEmpty = false) :
    text = '.' :: (placesDigits text ++ text.drop ((placesDigits text).length + 1)) := by
  unfold placesDigits at some ⊢
  split at some
  · next after =>
    rw [List.drop_succ_cons, takeWhile_append_drop]
  · cases some

theorem takes_of_number {text after : List Char} {token : Token}
    (read : number text = .ok (token, after)) :
    ∃ taken, text = taken ++ after ∧ Takes token taken := by
  have whole := wholeDigits_append_drop text
  have digit {c : Char} (isDigit : c.isDigit = true) : isWordPart c = true ∨ c = '.' :=
    Or.inl ((isWordPart_iff c).mpr (Or.inr isDigit))
  simp only [number] at read
  split at read
  · split at read
    · cases read
      exact ⟨_, whole.symm, .wordy fun c member => digit (mem_wholeDigits member)⟩
    · cases read
  · next places =>
    cases read
    have point := eq_of_placesDigits (Bool.not_eq_true _ ▸ places)
    refine ⟨wholeDigits text ++ '.' :: placesDigits (text.drop (wholeDigits text).length), ?_,
      .wordy fun c member => ?_⟩
    · rw [List.append_assoc, List.cons_append, ← point, whole]
    · rcases List.mem_append.mp member with front | back
      · exact digit (mem_wholeDigits front)
      · rcases List.mem_cons.mp back with same | place
        · exact Or.inr same
        · exact digit (mem_placesDigits place)

theorem takes_of_sign {c : Char} {rest after : List Char} {token : Token}
    (read : sign c rest = .ok (token, after)) :
    ∃ taken, c :: rest = taken ++ after ∧ Takes token taken := by
  unfold sign at read
  split at read
  · next found pair =>
    cases read
    obtain ⟨second, head, known⟩ := Option.bind_eq_some_iff.mp pair
    obtain ⟨after, rfl⟩ := List.head?_eq_some_iff.mp head
    exact ⟨[c, second], rfl, .pair known⟩
  · next found lone =>
    cases read
    exact ⟨[c], rfl, .lone lone⟩
  · cases read

theorem exists_taken {c : Char} {rest after : List Char} {token : Token}
    (read : nextToken c rest = .ok (token, after)) :
    ∃ taken, c :: rest = taken ++ after ∧ Takes token taken := by
  unfold nextToken at read
  split at read
  · exact takes_of_number read
  · split at read
    · next start =>
      cases read
      refine ⟨c :: rest.takeWhile isWordPart, ?_, .wordy fun other member => Or.inl ?_⟩
      · rw [List.cons_append, List.takeWhile_append_dropWhile]
      · rcases List.mem_cons.mp member with rfl | later
        · exact (isWordPart_iff other).mpr (Or.inl start)
        · exact List.mem_takeWhile_imp later
    · split at read
      · next isQuote =>
        split at read
        · next body tail closed =>
          cases read
          obtain ⟨inside, rfl, stands⟩ := quotes_of_stringBody? closed
          refine ⟨c :: (inside ++ [c]), ?_, .quoted (by simpa using isQuote) stands⟩
          rw [List.cons_append, List.append_assoc, List.singleton_append]
        · cases read
      · exact takes_of_sign read

/-- **A token is read from the characters in front of what it leaves**, and from the first at
least. -/
theorem takes_of_nextToken {c : Char} {rest after : List Char} {token : Token}
    (read : nextToken c rest = .ok (token, after)) :
    ∃ taken, rest = taken ++ after ∧ Takes token (c :: taken) := by
  obtain ⟨taken, whole, takes⟩ := exists_taken read
  cases taken with
  | nil =>
    have shorter := nextToken_shorter read
    rw [whole] at shorter
    exact absurd shorter (Nat.lt_irrefl _)
  | cons first taken =>
    cases whole
    exact ⟨taken, rfl, takes⟩

namespace Takes

variable {token : Token} {taken more : List Char}

/-- No word, number or string begins with a sign. -/
theorem of_sign {c : Char} (takes : token.Takes (c :: more)) (sign : c = '>' ∨ c = '=') :
    ofChar c = some token ∨ ∃ second, ofPair c second = some token := by
  generalize whole : c :: more = taken at takes
  cases takes with
  | wordy inside =>
    subst whole
    rcases sign with rfl | rfl <;>
      exact absurd (inside _ List.mem_cons_self) (by decide)
  | quoted kind =>
    cases whole
    rcases sign with rfl | rfl <;> exact absurd kind (by decide)
  | pair known =>
    cases whole
    exact Or.inr ⟨_, known⟩
  | lone known =>
    cases whole
    exact Or.inl known

theorem of_greater (takes : token.Takes ('>' :: more)) : token = greater ∨ token = atLeast := by
  rcases takes.of_sign (Or.inl rfl) with known | ⟨second, known⟩
  · cases known
    exact Or.inl rfl
  · unfold ofPair at known
    split at known <;> first | contradiction | exact Or.inr (Option.some.inj known).symm

theorem of_equality (takes : token.Takes ('=' :: more)) : token = assign ∨ token = equals := by
  rcases takes.of_sign (Or.inr rfl) with known | ⟨second, known⟩
  · cases known
    exact Or.inl rfl
  · unfold ofPair at known
    split at known <;> first | contradiction | exact Or.inr (Option.some.inj known).symm

/-- Nothing but a minus sign ends with a hyphen. -/
theorem of_hyphen (takes : token.Takes taken) (last : taken.getLast? = some '-') :
    token = minus := by
  cases takes with
  | wordy inside => exact absurd (inside _ (List.mem_of_getLast? last)) (by decide)
  | quoted kind =>
    rw [← List.cons_append, List.getLast?_concat] at last
    cases last
    exact absurd kind (by decide)
  | pair known =>
    cases last
    unfold ofPair at known
    split at known <;> contradiction
  | lone known =>
    cases last
    cases known
    rfl

end Takes

end Token

/-! ### The tokens of a text -/

/-- The tokens of a text are its first token and those of what follows it. -/
theorem exists_of_tokensFrom {place : Nat} {c : Char} {rest : List Char} {placed : List PlacedToken}
    (read : tokensFrom place (c :: rest) = .ok placed) :
    ∃ token after next later, nextToken c rest = .ok (token, after) ∧
      tokensFrom next (Text.trimStart after) = .ok later ∧ placed = ⟨token, place⟩ :: later := by
  rw [tokensFrom] at read
  split at read
  · cases read
  · next token after one =>
    simp only at read
    split at read
    · cases read
    · next later others =>
      cases read
      exact ⟨token, after, _, later, one, others, rfl⟩

/-- A text that has tokens begins with what the first of them is read from. -/
theorem takes_of_tokensFrom {place : Nat} {c : Char} {rest : List Char} {placed : List PlacedToken}
    (read : tokensFrom place (c :: rest) = .ok placed) :
    ∃ token taken later, placed = ⟨token, place⟩ :: later ∧ Token.Takes token (c :: taken) := by
  obtain ⟨token, after, next, later, one, -, rfl⟩ := exists_of_tokensFrom read
  obtain ⟨taken, -, takes⟩ := Token.takes_of_nextToken one
  exact ⟨token, taken, later, rfl, takes⟩

/-- A text is its first blanks and what stands behind them. -/
theorem takeWhile_append_trimStart (text : List Char) :
    text.takeWhile Text.isBlank ++ Text.trimStart text = text := List.takeWhile_append_dropWhile

/-- **A token stands at its place**: the text has it there, behind what the tokens before it are
read from. -/
theorem nextToken_of_tokensFrom {place : Nat} {text : List Char} {placed : List PlacedToken}
    (read : tokensFrom place text = .ok placed) {found : PlacedToken} (member : found ∈ placed) :
    ∃ before c rest after, text = before ++ c :: rest ∧ found.place = place + before.length ∧
      nextToken c rest = .ok (found.token, after) := by
  fun_induction tokensFrom place text generalizing placed with
  | case1 =>
    cases read
    cases member
  | case2 => cases read
  | case3 => cases read
  | case4 place c rest token after one next later eq =>
    rename_i ih
    cases read
    rcases List.mem_cons.mp member with rfl | member
    · exact ⟨[], c, rest, after, rfl, rfl, one⟩
    · obtain ⟨between, first, others, left, same, stands, alone⟩ := ih eq member
      obtain ⟨taken, rfl, -⟩ := Token.takes_of_nextToken one
      -- Between the two are the rest of the first one and the blanks behind it.
      have whole : c :: (taken ++ after) =
          c :: (taken ++ after.takeWhile Text.isBlank) ++ next := by
        rw [List.cons_append, List.append_assoc, takeWhile_append_trimStart]
      refine ⟨c :: (taken ++ after.takeWhile Text.isBlank) ++ between, first, others, left, ?_, ?_,
        alone⟩
      · rw [whole, same, List.append_assoc]
      · rw [stands, whole, List.length_append, List.length_append, Nat.add_sub_cancel,
          Nat.add_assoc]

/-- **Only tokens that end with a minus sign are read from a text that ends with a hyphen.** -/
theorem last_of_tokensFrom {place : Nat} {text : List Char} {placed : List PlacedToken}
    (read : tokensFrom place text = .ok placed) (hyphen : text.getLast? = some '-') :
    (placed.map PlacedToken.token).getLast? = some .minus := by
  fun_induction tokensFrom place text generalizing placed with
  | case1 => cases hyphen
  | case2 => cases read
  | case3 => cases read
  | case4 place c rest token after one next later eq =>
    rename_i ih
    cases read
    obtain ⟨taken, rfl, takes⟩ := Token.takes_of_nextToken one
    have parts :
        c :: (taken ++ after) = (c :: taken) ++ (after.takeWhile Text.isBlank ++ next) := by
      rw [takeWhile_append_trimStart, List.cons_append]
    rw [parts, List.getLast?_append, List.getLast?_append] at hyphen
    rw [List.map_cons, List.getLast?_cons]
    cases ends : next.getLast? with
    | some last =>
      rw [ends] at hyphen
      cases hyphen
      rw [ih eq ends, Option.getD_some]
    | none =>
      rw [List.getLast?_eq_none_iff.mp ends, tokensFrom] at eq
      cases eq
      rw [ends] at hyphen
      cases blank : (after.takeWhile Text.isBlank).getLast? with
      | some last =>
        rw [blank] at hyphen
        cases hyphen
        exact absurd (List.mem_takeWhile_imp (List.mem_of_getLast? blank)) (by decide)
      | none =>
        rw [blank] at hyphen
        rw [takes.of_hyphen hyphen]
        rfl

/-! ### Blanks at the end -/

section Blanks

variable {text blanks : List Char}

/-- What blanks are not is taken from a text with blanks behind it as from the text. -/
theorem takeWhile_blanks (text : List Char) {kind : Char → Bool}
    (other : ∀ c ∈ blanks, kind c = false) :
    (text ++ blanks).takeWhile kind = text.takeWhile kind ∧
      (text ++ blanks).dropWhile kind = text.dropWhile kind ++ blanks := by
  induction text with
  | nil =>
    cases blanks with
    | nil => exact ⟨rfl, rfl⟩
    | cons c blanks => simp [other c List.mem_cons_self]
  | cons c text ih =>
    obtain ⟨taken, dropped⟩ := ih
    rw [List.cons_append, List.takeWhile_cons, List.takeWhile_cons, List.dropWhile_cons,
      List.dropWhile_cons, taken, dropped]
    cases kind c <;> exact ⟨rfl, rfl⟩

namespace Token

variable (blank : ∀ c ∈ blanks, Text.isBlank c = true)

include blank

theorem isWordPart_of_blank {c : Char} (member : c ∈ blanks) : isWordPart c = false := by
  refine Bool.eq_false_iff.mpr fun part => ?_
  have solid := isBlank_of_isWordPart part
  rw [blank c member] at solid
  cases solid

theorem isDigit_of_blank {c : Char} (member : c ∈ blanks) : c.isDigit = false := by
  have noPart := isWordPart_of_blank blank member
  refine Bool.eq_false_iff.mpr fun digit => ?_
  rw [(isWordPart_iff c).mpr (Or.inr digit)] at noPart
  cases noPart

/-- What is no blank stands at the front of a text, not in the blanks behind it. -/
theorem head?_of_blanks {c : Char} (solid : Text.isBlank c = false)
    (begins : (text ++ blanks).head? = some c) : text.head? = some c := by
  cases text with
  | nil =>
    rw [blank c (List.mem_of_head? begins)] at solid
    cases solid
  | cons first text => exact begins

theorem wholeDigits_blanks (text : List Char) :
    wholeDigits (text ++ blanks) = wholeDigits text := by
  have plain {other : List Char} (noZero : other.head? ≠ some '0') :
      wholeDigits other = other.takeWhile Char.isDigit := by
    unfold wholeDigits
    split
    · exact absurd rfl noZero
    · rfl
  by_cases zero : text.head? = some '0'
  · obtain ⟨rest, rfl⟩ := List.head?_eq_some_iff.mp zero
    rfl
  · rw [plain zero, plain fun begins => zero (head?_of_blanks blank (by decide) begins)]
    exact (takeWhile_blanks _ fun c => isDigit_of_blank blank).1

theorem placesDigits_blanks (text : List Char) :
    placesDigits (text ++ blanks) = placesDigits text := by
  have none {other : List Char} (noPoint : other.head? ≠ some '.') : placesDigits other = [] := by
    unfold placesDigits
    split
    · exact absurd rfl noPoint
    · rfl
  by_cases point : text.head? = some '.'
  · obtain ⟨rest, rfl⟩ := List.head?_eq_some_iff.mp point
    exact (takeWhile_blanks _ fun c => isDigit_of_blank blank).1
  · rw [none point, none fun begins => point (head?_of_blanks blank (by decide) begins)]

theorem number_blanks (text : List Char) {token : Token} {after : List Char}
    (read : number (text ++ blanks) = .ok (token, after)) :
    ∃ left, after = left ++ blanks ∧ number text = .ok (token, left) := by
  have length : (wholeDigits text).length ≤ text.length := by
    have whole := congrArg List.length (wholeDigits_append_drop text)
    rw [List.length_append] at whole
    omega
  simp only [number, wholeDigits_blanks blank, List.drop_append_of_le_length length,
    placesDigits_blanks blank] at read ⊢
  split at read
  · next noPlaces =>
    rw [if_pos noPlaces]
    split at read
    · next fits =>
      rw [if_pos fits]
      cases read
      exact ⟨_, rfl, rfl⟩
    · cases read
  · next places =>
    rw [if_neg places]
    cases read
    have point := congrArg List.length (eq_of_placesDigits (Bool.not_eq_true _ ▸ places))
    refine ⟨_, List.drop_append_of_le_length ?_, rfl⟩
    rw [point, List.length_cons, List.length_append]
    omega

omit blank in
theorem stringBody?_cons (quote : Char) {c : Char} (noBackslash : c ≠ '\\') (rest : List Char) :
    stringBody? quote (c :: rest) =
      if c = quote then some ([], rest)
      else (stringBody? quote rest).map fun found => (c :: found.1, found.2) := by
  rw [stringBody?]
  · simp only [beq_iff_eq, noBackslash, if_false]
  · intro _ _ same
    exact absurd same noBackslash

/-- No string is closed by blanks. -/
theorem stringBody?_of_blank {quote : Char} (kind : quote = '"' ∨ quote = '\'') :
    stringBody? quote blanks = none := by
  induction blanks with
  | nil => rfl
  | cons c blanks ih =>
    obtain ⟨isBlank, later⟩ := List.forall_mem_cons.mp blank
    have noBackslash : c ≠ '\\' := by
      rintro rfl
      exact absurd isBlank (by decide)
    have noQuote : c ≠ quote := by
      rintro rfl
      rcases kind with rfl | rfl <;> exact absurd isBlank (by decide)
    rw [stringBody?_cons quote noBackslash, if_neg noQuote, ih later, Option.map_none]

theorem stringBody?_blanks {quote : Char} (kind : quote = '"' ∨ quote = '\'') (text : List Char) :
    stringBody? quote (text ++ blanks) =
      (stringBody? quote text).map fun found => (found.1, found.2 ++ blanks) := by
  fun_induction stringBody? quote text with
  | case1 => exact stringBody?_of_blank blank kind
  | case2 c rest ih =>
    rw [List.cons_append, List.cons_append, stringBody?, ih, Option.map_map, Option.map_map]
    rfl
  | case3 c rest lone isQuote =>
    have same : c = quote := eq_of_beq isQuote
    have noBackslash : c ≠ '\\' := by
      rw [same]
      rcases kind with rfl | rfl <;> decide
    rw [List.cons_append, stringBody?_cons quote noBackslash, if_pos same]
    rfl
  | case4 c rest lone noQuote isBackslash =>
    -- A backslash at the end of the text: what it stands in front of is a blank, and no quote.
    obtain rfl : c = '\\' := eq_of_beq isBackslash
    cases rest with
    | cons other rest => exact (lone other rest rfl rfl).elim
    | nil =>
      cases blanks with
      | nil =>
        rw [List.append_nil, stringBody?, if_neg noQuote, if_pos isBackslash]
        · rfl
        · exact lone
      | cons other blanks =>
        rw [List.cons_append, List.nil_append, stringBody?,
          stringBody?_of_blank (List.forall_mem_cons.mp blank).2 kind]
        rfl
  | case5 c rest lone noQuote noBackslash ih =>
    rw [List.cons_append, stringBody?_cons quote (by simpa using noBackslash),
      if_neg (by simpa using noQuote), ih, Option.map_map, Option.map_map]
    rfl

theorem sign_blanks {c : Char} {text : List Char} {token : Token} {after : List Char}
    (read : sign c (text ++ blanks) = .ok (token, after)) :
    ∃ left, after = left ++ blanks ∧ sign c text = .ok (token, left) := by
  cases text with
  | cons first text =>
    simp only [sign, List.cons_append, List.head?_cons, List.drop_succ_cons, List.drop_zero]
      at read ⊢
    split at read
    · cases read
      exact ⟨_, rfl, rfl⟩
    · cases read
      exact ⟨_, rfl, rfl⟩
    · cases read
  | nil =>
    have alone : blanks.head?.bind (ofPair c) = none := by
      refine Option.bind_eq_none_iff.mpr fun second head => ?_
      have isBlank := blank second (List.mem_of_head? head)
      unfold ofPair
      split <;> first | rfl | exact absurd isBlank (by decide)
    rw [List.nil_append] at read
    simp only [sign, alone, List.head?_nil, Option.bind_none] at read ⊢
    cases known : ofChar c with
    | none =>
      rw [known] at read
      cases read
    | some sign =>
      rw [known] at read
      cases read
      exact ⟨[], rfl, rfl⟩

/-- **A token is read in the same way if there are blanks at the end of the text.** -/
theorem nextToken_blanks {c : Char} {text : List Char} {token : Token} {after : List Char}
    (read : nextToken c (text ++ blanks) = .ok (token, after)) :
    ∃ left, after = left ++ blanks ∧ nextToken c text = .ok (token, left) := by
  unfold nextToken at read ⊢
  split at read
  · next digit =>
    rw [if_pos digit]
    exact number_blanks blank (c :: text) read
  · next noDigit =>
    rw [if_neg noDigit]
    split at read
    · next start =>
      rw [if_pos start]
      cases read
      obtain ⟨taken, dropped⟩ :=
        takeWhile_blanks text fun c => isWordPart_of_blank blank (c := c)
      exact ⟨_, dropped, by rw [taken]⟩
    · next noStart =>
      rw [if_neg noStart]
      split at read
      · next isQuote =>
        rw [if_pos isQuote]
        rw [stringBody?_blanks blank (by simpa using isQuote)] at read
        cases closed : stringBody? c text with
        | none => rw [closed] at read; cases read
        | some found =>
          rw [closed] at read
          cases read
          exact ⟨found.2, rfl, rfl⟩
      · next noQuote =>
        rw [if_neg noQuote]
        exact sign_blanks blank read

end Token

/-- A text with blanks at its end begins where the text does, if that has more than blanks. -/
theorem trimStart_blanks (blank : ∀ c ∈ blanks, Text.isBlank c = true) (text : List Char) :
    Text.trimStart (text ++ blanks) =
      if (Text.trimStart text).isEmpty then [] else Text.trimStart text ++ blanks := by
  have none : blanks.dropWhile Text.isBlank = [] := List.dropWhile_eq_nil_iff.mpr blank
  rw [Text.trimStart, List.dropWhile_append, none]
  rfl

/-- **Blanks at the end of a text add no tokens and take none away.** -/
theorem tokensFrom_blanks (blank : ∀ c ∈ blanks, Text.isBlank c = true) {text : List Char}
    {place : Nat} {placed : List PlacedToken}
    (read : tokensFrom place (Text.trimStart (text ++ blanks)) = .ok placed) (other : Nat) :
    ∃ same, tokensFrom other (Text.trimStart text) = .ok same ∧
      same.map PlacedToken.token = placed.map PlacedToken.token := by
  generalize whole : Text.trimStart (text ++ blanks) = source at read
  fun_induction tokensFrom place source generalizing text other placed with
  | case1 =>
    cases read
    cases code : Text.trimStart text with
    | nil => exact ⟨[], by rw [tokensFrom], rfl⟩
    | cons first text =>
      rw [trimStart_blanks blank, code] at whole
      cases whole
  | case2 => cases read
  | case3 => cases read
  | case4 place c rest token after one next later eq =>
    rename_i ih
    cases read
    cases code : Text.trimStart text with
    | nil =>
      rw [trimStart_blanks blank, code] at whole
      cases whole
    | cons first text =>
      rw [trimStart_blanks blank, code] at whole
      cases whole
      obtain ⟨left, rfl, alone⟩ := Token.nextToken_blanks blank one
      obtain ⟨others, reads, same⟩ :=
        ih (other + ((c :: text).length - (Text.trimStart left).length)) rfl eq
      refine ⟨⟨token, other⟩ :: others, tokensFrom_cons alone reads, ?_⟩
      rw [List.map_cons, same]
      rfl

/-- A text that does not begin with a blank has none in front. -/
theorem trimStart_of_solid (solid : ∀ c, text.head? = some c → Text.isBlank c = false) :
    Text.trimStart text = text := by
  cases text with
  | nil => rfl
  | cons c text => exact List.dropWhile_cons_of_neg (by rw [solid c rfl]; decide)

/-- Trimming leaves out the blanks behind a text. -/
theorem exists_blanks_of_trimEnd (text : List Char) :
    ∃ blanks, text = Text.trimEnd text ++ blanks ∧ ∀ c ∈ blanks, Text.isBlank c = true := by
  refine ⟨(text.reverse.takeWhile Text.isBlank).reverse, ?_, fun c member => ?_⟩
  · rw [Text.trimEnd, ← List.reverse_append, List.takeWhile_append_dropWhile, List.reverse_reverse]
  · exact List.mem_takeWhile_imp (List.mem_reverse.mp member)

/-- **A trimmed text has the tokens of the text.** -/
theorem tokenize_trim {place : Nat} {placed : List PlacedToken}
    (read : tokensFrom place (Text.trimStart text) = .ok placed) :
    ∃ same, tokenize (Text.trim text) = .ok same ∧
      same.map PlacedToken.token = placed.map PlacedToken.token := by
  obtain ⟨blanks, whole, blank⟩ := exists_blanks_of_trimEnd (Text.trimStart text)
  have solid : ∀ c, (Text.trimStart text).head? = some c → Text.isBlank c = false := by
    intro c head
    have notBlank := List.head?_dropWhile_not Text.isBlank text
    rw [Text.trimStart] at head
    rw [head] at notBlank
    exact notBlank
  have again : Text.trimStart (Text.trim text ++ blanks) = Text.trimStart text := by
    rw [Text.trim, ← whole, trimStart_of_solid solid]
  rw [← again] at read
  obtain ⟨same, reads, tokens⟩ := tokensFrom_blanks blank read 0
  rw [trimStart_of_solid fun c => Text.trim_head text] at reads
  exact ⟨same, reads, tokens⟩

end Blanks

end ReactiveView
