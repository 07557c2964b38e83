/-
**How tokens are written.**

A row of tokens is spelled by writing one after the other, with any blanks in between or none. Two
tokens that stand side by side are told apart if they are not both words or numbers, no number comes
right behind a point, and no equals sign comes right behind a sign that it would lengthen. Then the
tokens of the text are the row.

* `Token.Writes` — a text that is written for a token; a string may stand in either kind of quotes.
* `Spells` — a text that spells a row of tokens.
* `nextToken_of_writes` — what is written for a token is read as the token, up to what follows it.
* `tokenize_of_spells` — the tokens of a text that spells a row.
-/

import Mathlib.Data.List.Chain
import ReactiveView.Template.Token

namespace ReactiveView

namespace Token

/-- The words that are no names. -/
def words : List String := ["nil", "true", "false", "and", "or", "not", "in"]

/-- Whether a text is a name: a word of ASCII that has no meaning of its own. -/
def isName (name : String) : Bool :=
  match name.toList with
  | [] => false
  | first :: rest => isWordStart first && rest.all isWordPart && !words.contains name

/-- Texts that stand for characters between quotes of a kind: a quote and a backslash need a
backslash in front, and what a backslash may stand in front of is up to `unescape`. -/
inductive Quotes (quote : Char) : List Char → List Char → Prop where
  | nil : Quotes quote [] []
  | plain {c : Char} {body text : List Char} (noQuote : c ≠ quote) (noBackslash : c ≠ '\\')
    (rest : Quotes quote body text) : Quotes quote (c :: body) (c :: text)
  | escaped {c : Char} {body text : List Char} (rest : Quotes quote body text) :
    Quotes quote (unescape c :: body) ('\\' :: c :: text)

/-- The text of a word or a sign; operators are written as signs, never as words. -/
def sign? : Token → Option (List Char)
  | nilWord => some ['n', 'i', 'l']
  | trueWord => some ['t', 'r', 'u', 'e']
  | falseWord => some ['f', 'a', 'l', 's', 'e']
  | equals => some ['=', '=']
  | differs => some ['!', '=']
  | atMost => some ['<', '=']
  | atLeast => some ['>', '=']
  | less => some ['<']
  | greater => some ['>']
  | bothSign => some ['&', '&']
  | eitherSign => some ['|', '|']
  | plus => some ['+']
  | minus => some ['-']
  | star => some ['*']
  | slash => some ['/']
  | percent => some ['%']
  | bang => some ['!']
  | assign => some ['=']
  | question => some ['?']
  | colon => some [':']
  | comma => some [',']
  | dot => some ['.']
  | openRound => some ['(']
  | closeRound => some [')']
  | openSquare => some ['[']
  | closeSquare => some [']']
  | _ => none

/-- **A text that is written for a token.** -/
inductive Writes : Token → List Char → Prop where
  | name {name : String} (fits : isName name = true) : Writes (ident name) name.toList
  | number {value : Int64} (fits : 0 ≤ value.toInt) :
    Writes (int value) (Nat.toDigits 10 value.toInt.toNat)
  | quoted {quote : Char} {value : String} {text : List Char} (kind : quote = '"' ∨ quote = '\'')
    (stands : Quotes quote value.toList text) : Writes (str value) (quote :: (text ++ [quote]))
  | fixed {token : Token} {text : List Char} (known : token.sign? = some text) : Writes token text

/-- Whether a token is a word or a number. -/
def isWordy : Token → Bool
  | ident _ | int _ | float _ => true
  | nilWord | trueWord | falseWord | andWord | orWord | notWord | inWord => true
  | _ => false

/-- Whether a token is a number. -/
def isNumber : Token → Bool
  | int _ | float _ => true
  | _ => false

/-- Whether an equals sign right behind a token would make it another one. -/
def isOpenEnded : Token → Bool
  | less | greater | bang | assign => true
  | _ => false

/-- Whether the text of a token begins with an equals sign. -/
def isEquality : Token → Bool
  | equals | assign => true
  | _ => false

/-- **Two tokens that may stand side by side**, with no blank in between. -/
structure Adjoins (first second : Token) : Prop where
  words : first.isWordy = true → second.isWordy = false
  places : first = dot → second.isNumber = false
  signs : first.isOpenEnded = true → second.isEquality = false

/-- A token that what follows it in a text does not go on with. -/
structure Parted (token : Token) (rest : List Char) : Prop where
  words : token.isWordy = true → ∀ c, rest.head? = some c → isWordPart c = false
  places : token.isNumber = true → placesDigits rest = []
  signs : token.isOpenEnded = true → rest.head? ≠ some '='

/-- What the first character of a text tells about the token that is written there. -/
structure Heads (c : Char) (token : Token) : Prop where
  solid : Text.isBlank c = false
  word : isWordPart c = true → token.isWordy = true
  digit : c.isDigit = true → token.isNumber = true
  point : c = '.' → token = dot
  equality : c = '=' → token.isEquality = true

/-! ### Characters -/

theorem isWordStart_iff (c : Char) : isWordStart c = true ↔
    (65 ≤ c.toNat ∧ c.toNat ≤ 90) ∨ (97 ≤ c.toNat ∧ c.toNat ≤ 122) ∨ c.toNat = 95 := by
  have underscore : c = '_' ↔ c.toNat = 95 := by
    rw [← Char.toNat_inj]
    rfl
  have ranges : isWordStart c = (decide (c.val ≥ 'A'.val ∧ c.val ≤ 'Z'.val) ||
      (decide (c.val ≥ 'a'.val) && decide (c.val ≤ 'z'.val)) || c == '_') := rfl
  simp only [ranges, Bool.or_eq_true, beq_iff_eq, Bool.and_eq_true, decide_eq_true_eq, underscore,
    ge_iff_le, UInt32.le_iff_toNat_le]
  exact or_assoc

theorem isDigit_iff (c : Char) : c.isDigit = true ↔ 48 ≤ c.toNat ∧ c.toNat ≤ 57 :=
  Char.isDigit_iff_toNat

theorem isWordPart_iff (c : Char) :
    isWordPart c = true ↔ isWordStart c = true ∨ c.isDigit = true := by
  simp only [isWordPart, isWordStart, Char.isAlphanum, Bool.or_eq_true]
  tauto

theorem isBlank_of_isWordPart {c : Char} (part : isWordPart c = true) : Text.isBlank c = false := by
  have range : 48 ≤ c.toNat ∧ c.toNat ≤ 122 := by
    rw [isWordPart_iff, isWordStart_iff, isDigit_iff] at part
    omega
  simp only [Text.isBlank, Bool.or_eq_false_iff, Bool.and_eq_false_iff, decide_eq_false_iff_not,
    beq_eq_false_iff_ne]
  omega

theorem isDigit_of_isWordStart {c : Char} (start : isWordStart c = true) : c.isDigit = false := by
  rw [isWordStart_iff] at start
  rw [Bool.eq_false_iff, ne_eq, isDigit_iff]
  omega

theorem ne_of_isWordPart {c other : Char} (part : isWordPart c = true)
    (noPart : isWordPart other = false) : c ≠ other := by
  rintro rfl
  rw [part] at noPart
  cases noPart

/-- A run of characters of a kind ends where the next character is of another kind. -/
theorem takeWhile_exact {kind : Char → Bool} {body rest : List Char}
    (inside : ∀ c ∈ body, kind c = true) (ends : ∀ c, rest.head? = some c → kind c = false) :
    (body ++ rest).takeWhile kind = body ∧ (body ++ rest).dropWhile kind = rest := by
  rw [List.takeWhile_append_of_pos inside, List.dropWhile_append_of_pos inside]
  cases rest with
  | nil => simp
  | cons c rest => simp [ends c rfl]

/-! ### First characters -/

theorem isName_cons {name : String} (fits : isName name = true) : ∃ first rest,
    name.toList = first :: rest ∧ isWordStart first = true ∧ rest.all isWordPart = true ∧
      name ∉ words := by
  unfold isName at fits
  split at fits
  · cases fits
  · next first rest eq =>
    simp only [Bool.and_eq_true, Bool.not_eq_true', List.contains_eq_mem,
      decide_eq_false_iff_not] at fits
    exact ⟨first, rest, eq, fits.1.1, fits.1.2, fits.2⟩

theorem isDigit_of_mem_toDigits {number : Nat} {c : Char} (member : c ∈ Nat.toDigits 10 number) :
    c.isDigit = true := Nat.isDigit_of_mem_toDigits (by decide) (by decide) member

theorem toDigits_cons (number : Nat) : ∃ first rest, Nat.toDigits 10 number = first :: rest ∧
    first.isDigit = true ∧ (first = '0' → number = 0) := by
  have alone : ∀ value, value < 10 →
      (Nat.digitChar value).isDigit = true ∧ (Nat.digitChar value = '0' → value = 0) := by decide
  induction number using Nat.strongRecOn with
  | ind number ih =>
    by_cases small : number < 10
    · exact ⟨_, _, Nat.toDigits_of_lt_base small, alone number small⟩
    · obtain ⟨first, rest, eq, digit, zero⟩ := ih (number / 10) (by omega)
      rw [Nat.toDigits_of_base_le (by decide) (by omega), eq]
      exact ⟨first, _, rfl, digit, fun same => by have := zero same; omega⟩

theorem Heads.of_isWordPart {c : Char} {token : Token} (part : isWordPart c = true)
    (wordy : token.isWordy = true) (digit : c.isDigit = true → token.isNumber = true) :
    Heads c token where
  solid := isBlank_of_isWordPart part
  word _ := wordy
  digit := digit
  point same := absurd same (ne_of_isWordPart part (by decide))
  equality same := absurd same (ne_of_isWordPart part (by decide))

/-- What is written for a token begins with a character that tells its kind. -/
theorem Writes.heads {token : Token} {text : List Char} (writes : Writes token text) :
    ∃ c tail, text = c :: tail ∧ Heads c token := by
  cases writes with
  | name fits =>
    obtain ⟨first, rest, eq, start, -⟩ := isName_cons fits
    refine ⟨first, rest, eq, .of_isWordPart ((isWordPart_iff first).mpr (.inl start)) rfl ?_⟩
    rw [isDigit_of_isWordStart start]
    exact nofun
  | number fits =>
    obtain ⟨first, rest, eq, digit, -⟩ := toDigits_cons _
    exact ⟨first, rest, eq,
      .of_isWordPart ((isWordPart_iff first).mpr (.inr digit)) rfl fun _ => rfl⟩
  | quoted kind stands =>
    refine ⟨_, _, rfl, ?_⟩
    rcases kind with rfl | rfl
    all_goals exact ⟨by decide, fun _ => by contradiction, fun _ => by contradiction,
      fun _ => by contradiction, fun _ => by contradiction⟩
  | fixed known =>
    cases token <;> cases known <;> exact ⟨_, _, rfl, by constructor <;> decide⟩

/-! ### One token -/

theorem ofWord_of_not_mem {word : String} (name : word ∉ words) : ofWord word = ident word := by
  simp only [words, List.mem_cons, List.not_mem_nil, or_false, not_or] at name
  obtain ⟨nil, yes, no, both, either, reverse, inside⟩ := name
  simp only [ofWord, nil, yes, no, both, either, reverse, inside, if_false]

theorem nextToken_word {first : Char} {word rest : List Char} (start : isWordStart first = true)
    (inside : word.all isWordPart = true)
    (ends : ∀ c, rest.head? = some c → isWordPart c = false) :
    nextToken first (word ++ rest) = .ok (ofWord (String.ofList (first :: word)), rest) := by
  obtain ⟨taken, left⟩ := takeWhile_exact (List.all_eq_true.mp inside) ends
  simp [nextToken, isDigit_of_isWordStart start, start, taken, left]

theorem numberIn_append (digits : List Char) (c : Char) : Text.numberIn 10 (digits ++ [c]) =
    Text.numberIn 10 digits * 10 + (Text.hexValue? c).getD 0 := by
  simp [Text.numberIn]

theorem numberIn_toDigits (number : Nat) : Text.numberIn 10 (Nat.toDigits 10 number) = number := by
  induction number using Nat.strongRecOn with
  | ind number ih =>
    have digit : ∀ value, value < 10 → (Text.hexValue? (Nat.digitChar value)).getD 0 = value := by
      decide
    by_cases small : number < 10
    · rw [Nat.toDigits_of_lt_base small, ← List.nil_append [Nat.digitChar number], numberIn_append,
        digit number small]
      simp [Text.numberIn]
    · rw [Nat.toDigits_of_base_le (by decide) (by omega), numberIn_append, ih _ (by omega),
        digit _ (Nat.mod_lt _ (by decide))]
      omega

theorem wholeDigits_toDigits (number : Nat) {rest : List Char}
    (ends : ∀ c, rest.head? = some c → c.isDigit = false) :
    wholeDigits (Nat.toDigits 10 number ++ rest) = Nat.toDigits 10 number := by
  obtain ⟨first, others, eq, -, zero⟩ := toDigits_cons number
  by_cases same : first = '0'
  · rw [zero same]
    rfl
  · have inside : ∀ c ∈ Nat.toDigits 10 number, c.isDigit = true :=
      fun c member => isDigit_of_mem_toDigits member
    have taken := (takeWhile_exact inside ends).1
    rw [eq, List.cons_append] at taken ⊢
    unfold wholeDigits
    split
    · next begins => exact absurd (List.cons.inj begins).1 same
    · exact taken

theorem number_toDigits {value : Int64} {rest : List Char} (fits : 0 ≤ value.toInt)
    (ends : ∀ c, rest.head? = some c → c.isDigit = false) (noPlaces : placesDigits rest = []) :
    number (Nat.toDigits 10 value.toInt.toNat ++ rest) = .ok (int value, rest) := by
  have whole : ((value.toInt.toNat : Nat) : Int) = value.toInt := Int.toNat_of_nonneg fits
  have back : Int64.ofNat value.toInt.toNat = value := by
    rw [← Int64.ofInt_eq_ofNat, whole, Int64.ofInt_toInt]
  have holds : Integer.fits value.toInt.toNat = true := by
    rw [whole]
    exact Integer.fits_toInt value
  generalize value.toInt.toNat = digits at back holds
  simp [number, wholeDigits_toDigits _ ends, noPlaces, numberIn_toDigits, holds, back]

theorem stringBody?_of_quotes {quote : Char} {body text rest : List Char} (other : quote ≠ '\\')
    (stands : Quotes quote body text) :
    stringBody? quote (text ++ quote :: rest) = some (body, rest) := by
  induction stands with
  | nil =>
    rw [List.nil_append, stringBody?]
    · simp
    · intro _ _ begins
      exact absurd begins other
  | plain noQuote noBackslash stands ih =>
    rw [List.cons_append, stringBody?]
    · simp [noQuote, noBackslash, ih]
    · intro _ _ begins
      exact absurd begins noBackslash
  | escaped stands ih =>
    rw [List.cons_append, List.cons_append, stringBody?, ih]
    rfl

/-- A sign of one character, behind which no other makes it a sign of two. -/
theorem sign_of_lone {c : Char} {rest : List Char} {token : Token} (known : ofChar c = some token)
    (alone : ∀ second, rest.head? = some second → ofPair c second = none) :
    sign c rest = .ok (token, rest) := by
  have noPair : rest.head?.bind (ofPair c) = none := Option.bind_eq_none_iff.mpr alone
  simp [sign, noPair, known]

theorem nextToken_of_sign {token : Token} {text rest : List Char} (known : token.sign? = some text)
    (parted : Parted token rest) :
    ∃ c tail, text = c :: tail ∧ nextToken c (tail ++ rest) = .ok (token, rest) := by
  cases token <;> cases known
  case nilWord.refl | trueWord.refl | falseWord.refl =>
    exact ⟨_, _, rfl, nextToken_word rfl rfl (parted.words rfl)⟩
  case equals.refl | differs.refl | atMost.refl | atLeast.refl | bothSign.refl | eitherSign.refl =>
    exact ⟨_, _, rfl, rfl⟩
  case less.refl | greater.refl | bang.refl | assign.refl =>
    refine ⟨_, _, rfl, sign_of_lone rfl fun second head => ?_⟩
    have other : second ≠ '=' := fun same => parted.signs rfl (same ▸ head)
    simp [ofPair, other]
  all_goals exact ⟨_, _, rfl, sign_of_lone rfl fun second _ => by simp [ofPair]⟩

/-- **What is written for a token is read as the token**, and what follows it is left. -/
theorem nextToken_of_writes {token : Token} {text rest : List Char} (writes : Writes token text)
    (parted : Parted token rest) :
    ∃ c tail, text = c :: tail ∧ nextToken c (tail ++ rest) = .ok (token, rest) := by
  cases writes with
  | name fits =>
    obtain ⟨first, tail, eq, start, inside, name⟩ := isName_cons fits
    refine ⟨first, tail, eq, ?_⟩
    rw [nextToken_word start inside (parted.words rfl), ← eq, String.ofList_toList,
      ofWord_of_not_mem name]
  | number fits =>
    obtain ⟨first, tail, eq, digit, -⟩ := toDigits_cons _
    refine ⟨first, tail, eq, ?_⟩
    have ends : ∀ c, rest.head? = some c → c.isDigit = false := fun c head =>
      Bool.eq_false_iff.mpr fun isDigit => by
        have := parted.words rfl c head
        rw [(isWordPart_iff c).mpr (.inr isDigit)] at this
        cases this
    rw [nextToken, if_pos digit, ← List.cons_append, ← eq]
    exact number_toDigits fits ends (parted.places rfl)
  | @quoted quote value text kind stands =>
    refine ⟨_, _, rfl, ?_⟩
    have noBackslash : quote ≠ '\\' := by rcases kind with rfl | rfl <;> decide
    have read : stringBody? quote (text ++ quote :: rest) = some (value.toList, rest) :=
      stringBody?_of_quotes noBackslash stands
    rw [List.append_assoc, List.singleton_append, nextToken, read, if_neg, if_neg, if_pos]
    · simp only [String.ofList_toList]
    all_goals rcases kind with rfl | rfl <;> decide
  | fixed known => exact nextToken_of_sign known parted

end Token

open Token

/-- **A text that spells a row of tokens**, with blanks behind each of them or none. -/
inductive Spells : List Token → List Char → Prop where
  | nil : Spells [] []
  | cons {token : Token} {tokens : List Token} {written blanks text : List Char}
    (writes : token.Writes written) (blank : ∀ c ∈ blanks, Text.isBlank c = true)
    (rest : Spells tokens text) : Spells (token :: tokens) (written ++ (blanks ++ text))

/-! ### Rows of tokens -/

section Rows

variable {tokens : List Token} {blanks text : List Char}

/-- A text that spells tokens begins with the first of them. -/
theorem Spells.first (spells : Spells tokens text) {c : Char} (head : text.head? = some c) :
    ∃ next more, tokens = next :: more ∧ Heads c next := by
  cases spells with
  | nil => cases head
  | cons writes _ _ =>
    obtain ⟨first, tail, rfl, heads⟩ := writes.heads
    obtain rfl : first = c := by simpa using head
    exact ⟨_, _, rfl, heads⟩

/-- What stands behind a token begins with a blank or with the next token. -/
theorem Spells.head (rest : Spells tokens text) (blank : ∀ c ∈ blanks, Text.isBlank c = true)
    {c : Char} (head : (blanks ++ text).head? = some c) :
    Text.isBlank c = true ∨ ∃ next more, tokens = next :: more ∧ Heads c next := by
  cases blanks with
  | nil => exact .inr (rest.first head)
  | cons first others =>
    obtain rfl : first = c := by simpa using head
    exact .inl (blank first (by simp))

theorem Spells.trimStart (rest : Spells tokens text) (blank : ∀ c ∈ blanks, Text.isBlank c = true) :
    Text.trimStart (blanks ++ text) = text := by
  refine (takeWhile_exact blank fun c head => ?_).2
  obtain ⟨next, more, -, heads⟩ := rest.first head
  exact heads.solid

theorem Spells.behind_dot {after : List Char} (spells : Spells tokens ('.' :: after)) :
    ∃ more blanks text, tokens = dot :: more ∧ after = blanks ++ text ∧ Spells more text ∧
      ∀ c ∈ blanks, Text.isBlank c = true := by
  obtain ⟨next, more, rfl, heads⟩ := spells.first rfl
  obtain rfl := heads.point rfl
  generalize eq : '.' :: after = whole at spells
  cases spells with
  | cons writes blank rest =>
    cases writes with
    | fixed known =>
      cases known
      exact ⟨more, _, _, rfl, by simpa using eq, rest, blank⟩

/-- No digits stand behind a point that stands right behind a number. -/
theorem placesDigits_of_spells {first : Token} (chain : (first :: tokens).IsChain Adjoins)
    (rest : Spells tokens text) (blank : ∀ c ∈ blanks, Text.isBlank c = true) :
    placesDigits (blanks ++ text) = [] := by
  cases blanks with
  | cons c others =>
    have other : c ≠ '.' := by
      rintro rfl
      exact absurd (blank '.' (by simp)) (by decide)
    simp [placesDigits, other]
  | nil =>
    rw [List.nil_append]
    unfold placesDigits
    split
    · -- The point is a token of its own, and no number stands right behind it.
      obtain ⟨more, between, behind, rfl, rfl, others, isBlank⟩ := rest.behind_dot
      suffices ends : ∀ c, (between ++ behind).head? = some c → c.isDigit = false from
        (takeWhile_exact (List.forall_mem_nil _) ends).1
      refine fun c head => Bool.eq_false_iff.mpr fun digit => ?_
      rcases others.head isBlank head with blankHead | ⟨next, last, rfl, heads⟩
      · have := isBlank_of_isWordPart ((isWordPart_iff c).mpr (.inr digit))
        rw [this] at blankHead
        cases blankHead
      · have := (List.isChain_cons_cons.mp chain.tail).1.places rfl
        rw [heads.digit digit] at this
        cases this
    · rfl

/-- Tokens that may stand side by side are told apart where they do. -/
theorem parted_of_spells {first : Token} (chain : (first :: tokens).IsChain Adjoins)
    (rest : Spells tokens text) (blank : ∀ c ∈ blanks, Text.isBlank c = true) :
    first.Parted (blanks ++ text) where
  words wordy c head := by
    rcases rest.head blank head with isBlank | ⟨next, more, rfl, heads⟩
    · refine Bool.eq_false_iff.mpr fun part => ?_
      rw [isBlank_of_isWordPart part] at isBlank
      cases isBlank
    · refine Bool.eq_false_iff.mpr fun part => ?_
      have := (List.isChain_cons_cons.mp chain).1.words wordy
      rw [heads.word part] at this
      cases this
  places _ := placesDigits_of_spells chain rest blank
  signs openEnded head := by
    rcases rest.head blank head with isBlank | ⟨next, more, rfl, heads⟩
    · exact absurd isBlank (by decide)
    · have := (List.isChain_cons_cons.mp chain).1.signs openEnded
      rw [heads.equality rfl] at this
      cases this

theorem tokensFrom_cons {place : Nat} {c : Char} {rest after : List Char} {token : Token}
    {later : List PlacedToken} (one : nextToken c rest = .ok (token, after))
    (others : tokensFrom (place + ((c :: rest).length - (Text.trimStart after).length))
      (Text.trimStart after) = .ok later) :
    tokensFrom place (c :: rest) = .ok (⟨token, place⟩ :: later) := by
  rw [tokensFrom]
  split
  · next stuck =>
    rw [one] at stuck
    cases stuck
  · next found =>
    rw [one] at found
    cases found
    simp only [others]

theorem tokensFrom_of_spells (spells : Spells tokens text) (chain : tokens.IsChain Adjoins)
    (place : Nat) :
    ∃ placed, tokensFrom place text = .ok placed ∧ placed.map PlacedToken.token = tokens := by
  induction spells generalizing place with
  | nil => exact ⟨[], by rw [tokensFrom], rfl⟩
  | cons writes blank rest ih =>
    obtain ⟨c, tail, rfl, read⟩ := nextToken_of_writes writes (parted_of_spells chain rest blank)
    obtain ⟨placed, reads, same⟩ := ih chain.tail
      (place + ((c :: (tail ++ _)).length - _))
    refine ⟨⟨_, place⟩ :: placed, tokensFrom_cons read ?_, by rw [List.map_cons, same]⟩
    rw [rest.trimStart blank]
    exact reads

/-- **The tokens of a text that spells a row of them are the row.** -/
theorem tokenize_of_spells (spells : Spells tokens text) (chain : tokens.IsChain Adjoins) :
    ∃ placed, tokenize text = .ok placed ∧ placed.map PlacedToken.token = tokens :=
  tokensFrom_of_spells spells chain 0

end Rows

/-! ### One text of each row -/

namespace Token

/-- A character of a string as it is written between double quotes. -/
def escape (c : Char) : List Char :=
  if c = '"' then ['\\', '"']
  else if c = '\\' then ['\\', '\\']
  else if c = '\n' then ['\\', 'n']
  else if c = '\t' then ['\\', 't']
  else if c = '\r' then ['\\', 'r']
  else [c]

/-- The text that is written for a token, without need. -/
def text : Token → List Char
  | ident name => name.toList
  | int value => Nat.toDigits 10 value.toInt.toNat
  | str value => '"' :: (value.toList.flatMap escape ++ ['"'])
  | token => token.sign?.getD []

/-- Whether a token can be written: it is no number with a sign or a point, and no operator that is
a word. -/
def isWritable : Token → Bool
  | ident name => isName name
  | int value => 0 ≤ value.toInt
  | str _ => true
  | token => token.sign?.isSome

theorem quotes_escape (body : List Char) : Quotes '"' body (body.flatMap escape) := by
  induction body with
  | nil => exact .nil
  | cons c body ih =>
    rw [List.flatMap_cons, escape]
    split_ifs with isQuote isBackslash isNewline isTab isReturn
    · subst isQuote
      exact .escaped (c := '"') ih
    · subst isBackslash
      exact .escaped (c := '\\') ih
    · subst isNewline
      exact .escaped (c := 'n') ih
    · subst isTab
      exact .escaped (c := 't') ih
    · subst isReturn
      exact .escaped (c := 'r') ih
    · exact .plain isQuote isBackslash ih

theorem writes_text {token : Token} (writable : token.isWritable = true) :
    token.Writes token.text := by
  cases token with
  | ident name => exact .name writable
  | int value => exact .number (of_decide_eq_true writable)
  | str value => exact .quoted (.inl rfl) (quotes_escape _)
  | float | andWord | orWord | notWord | inWord => cases writable
  | _ => exact .fixed rfl

end Token

/-- The texts of tokens that can be written, one right after the other, spell them. -/
theorem spells_text {tokens : List Token} (writable : ∀ token ∈ tokens, token.isWritable = true) :
    Spells tokens (tokens.flatMap Token.text) := by
  induction tokens with
  | nil => exact .nil
  | cons token tokens ih =>
    have rest := ih fun other member => writable other (List.mem_cons_of_mem _ member)
    have writes := writes_text (writable token List.mem_cons_self)
    exact @Spells.cons _ _ _ [] _ writes (by simp) rest

end ReactiveView
