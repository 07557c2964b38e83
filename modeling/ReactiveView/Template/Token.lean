/-
**The code of a tag as tokens.**

Blanks separate tokens and mean nothing else. At every place the longest number or word is taken, a
string up to its closing quote, and of the signs the longer ones before the shorter.

* `nextToken` — one token and what follows it, or where and why there is none.
* `nextToken_shorter` — a token has at least one character.
* `tokenize` — all tokens with their places.
-/

import ReactiveView.Data.Integer
import ReactiveView.Template.Expr
import ReactiveView.Text.Blank
import ReactiveView.Text.Digits

namespace ReactiveView

/-- A token of the code of a tag. -/
inductive Token where
  | ident (name : String)
  | int (value : Int64)
  | float (value : Float)
  | str (value : String)
  | nilWord
  | trueWord
  | falseWord
  | andWord
  | orWord
  | notWord
  | inWord
  | equals
  | differs
  | atMost
  | atLeast
  | less
  | greater
  | bothSign
  | eitherSign
  | plus
  | minus
  | star
  | slash
  | percent
  | bang
  | assign
  | question
  | colon
  | comma
  | dot
  | openRound
  | closeRound
  | openSquare
  | closeSquare
deriving DecidableEq

/-- A token and the place where it begins. -/
structure PlacedToken where
  token : Token
  place : Nat

namespace Token

/-- Whether a word can begin with a character. -/
def isWordStart (c : Char) : Bool := c.isAlpha || c == '_'

/-- Whether a word can go on with a character. -/
def isWordPart (c : Char) : Bool := c.isAlphanum || c == '_'

/-- The token of a word: seven words have a meaning of their own. -/
def ofWord (word : String) : Token :=
  if word = "nil" then nilWord
  else if word = "true" then trueWord
  else if word = "false" then falseWord
  else if word = "and" then andWord
  else if word = "or" then orWord
  else if word = "not" then notWord
  else if word = "in" then inWord
  else ident word

/-- The whole part of a number: one zero, or digits that do not begin with zero. -/
def wholeDigits (text : List Char) : List Char :=
  match text with
  | '0' :: _ => ['0']
  | text => text.takeWhile Char.isDigit

/-- The number of a whole part and digits behind the point. -/
def decimalValue (whole places : List Char) : Float :=
  Float.ofScientific (Text.numberIn 10 (whole ++ places)) true places.length

/-- The character that a backslash and another character stand for. -/
def unescape (c : Char) : Char :=
  match c with
  | 'n' => '\n'
  | 't' => '\t'
  | 'r' => '\r'
  | c => c

/-- The characters of a string up to its closing quote, and what follows the quote. -/
def stringBody? (quote : Char) : List Char → Option (List Char × List Char)
  | [] => none
  | '\\' :: c :: rest => (stringBody? quote rest).map fun found => (unescape c :: found.1, found.2)
  | c :: rest =>
    if c == quote then some ([], rest)
    else if c == '\\' then none
    else (stringBody? quote rest).map fun found => (c :: found.1, found.2)

theorem stringBody?_shorter {quote : Char} {text : List Char} {found : List Char × List Char}
    (closed : stringBody? quote text = some found) : found.2.length < text.length := by
  fun_induction stringBody? quote text generalizing found with
  | case1 => simp at closed
  | case2 c rest ih =>
    obtain ⟨inner, eq, rfl⟩ := Option.map_eq_some_iff.mp closed
    have := ih eq
    simp only [List.length_cons]
    omega
  | case3 c rest _ isQuote =>
    simp only [Option.some.injEq] at closed
    subst closed
    simp
  | case4 => simp at closed
  | case5 c rest _ _ _ ih =>
    obtain ⟨inner, eq, rfl⟩ := Option.map_eq_some_iff.mp closed
    have := ih eq
    simp only [List.length_cons]
    omega

/-- The signs of two characters. -/
def ofPair (first second : Char) : Option Token :=
  match first, second with
  | '=', '=' => some equals
  | '!', '=' => some differs
  | '<', '=' => some atMost
  | '>', '=' => some atLeast
  | '&', '&' => some bothSign
  | '|', '|' => some eitherSign
  | _, _ => none

/-- The signs of one character. -/
def ofChar (c : Char) : Option Token :=
  match c with
  | '<' => some less
  | '>' => some greater
  | '+' => some plus
  | '-' => some minus
  | '*' => some star
  | '/' => some slash
  | '%' => some percent
  | '!' => some bang
  | '=' => some assign
  | '?' => some question
  | ':' => some colon
  | ',' => some comma
  | '.' => some dot
  | '(' => some openRound
  | ')' => some closeRound
  | '[' => some openSquare
  | ']' => some closeSquare
  | _ => none

/-- Whether a character is the first half of a sign of two and no sign by itself. -/
def isHalf (c : Char) : Bool := c == '&' || c == '|'

end Token

/-- Why code has no tokens or no meaning. -/
inductive Reason where
  | unexpected
  | integerRange
deriving DecidableEq

/-- The text of a reason. -/
def Reason.message : Reason → String
  | unexpected => "syntax error"
  | integerRange => "integer out of range"

/-- What cannot be read, and why. -/
structure Stuck (α : Type) where
  rest : List α
  reason : Reason

/-- The digits behind a point at the start of a text. -/
def Token.placesDigits : List Char → List Char
  | '.' :: after => after.takeWhile Char.isDigit
  | _ => []

/-- The number at the start of a text that begins with a digit. -/
def Token.number (text : List Char) : Except (Stuck Char) (Token × List Char) :=
  let whole := wholeDigits text
  let rest := text.drop whole.length
  let places := placesDigits rest
  if places.isEmpty then
    let number := Text.numberIn 10 whole
    if Integer.fits number then .ok (.int (Int64.ofNat number), rest)
    else .error ⟨text, .integerRange⟩
  else .ok (.float (decimalValue whole places), rest.drop (places.length + 1))

/-- The sign at the start of a text. -/
def Token.sign (c : Char) (rest : List Char) : Except (Stuck Char) (Token × List Char) :=
  match rest.head?.bind (ofPair c), ofChar c with
  | some token, _ => .ok (token, rest.drop 1)
  | none, some token => .ok (token, rest)
  | none, none => .error ⟨if isHalf c then rest else c :: rest, .unexpected⟩

/-- The token at the start of a text, and what follows it. -/
def nextToken (c : Char) (rest : List Char) : Except (Stuck Char) (Token × List Char) :=
  if c.isDigit then Token.number (c :: rest)
  else if Token.isWordStart c then
    let word := c :: rest.takeWhile Token.isWordPart
    .ok (Token.ofWord (String.ofList word), rest.dropWhile Token.isWordPart)
  else if c == '"' || c == '\'' then
    match Token.stringBody? c rest with
    | some (body, after) => .ok (.str (String.ofList body), after)
    | none => .error ⟨[], .unexpected⟩
  else Token.sign c rest

theorem Token.wholeDigits_pos {c : Char} (rest : List Char) (digit : c.isDigit = true) :
    0 < (wholeDigits (c :: rest)).length := by
  unfold wholeDigits
  split
  · simp
  · simp [digit]

theorem Token.number_shorter {c : Char} {rest : List Char} {token : Token} {after : List Char}
    (digit : c.isDigit = true) (read : number (c :: rest) = .ok (token, after)) :
    after.length < (c :: rest).length := by
  have pos := wholeDigits_pos rest digit
  simp only [number] at read
  split at read
  · split at read
    · simp only [Except.ok.injEq, Prod.mk.injEq] at read
      rw [← read.2, List.length_drop]
      simp only [List.length_cons]
      omega
    · simp at read
  · simp only [Except.ok.injEq, Prod.mk.injEq] at read
    rw [← read.2, List.length_drop, List.length_drop]
    simp only [List.length_cons] at pos ⊢
    omega

theorem Token.sign_shorter {c : Char} {rest : List Char} {token : Token} {after : List Char}
    (read : sign c rest = .ok (token, after)) : after.length < (c :: rest).length := by
  unfold sign at read
  split at read
  · simp only [Except.ok.injEq, Prod.mk.injEq] at read
    rw [← read.2, List.length_drop]
    simp only [List.length_cons]
    omega
  · simp only [Except.ok.injEq, Prod.mk.injEq] at read
    rw [← read.2]
    simp
  · simp at read

/-- A token has at least one character. -/
theorem nextToken_shorter {c : Char} {rest : List Char} {token : Token} {after : List Char}
    (read : nextToken c rest = .ok (token, after)) : after.length < (c :: rest).length := by
  unfold nextToken at read
  split at read
  · next digit => exact Token.number_shorter digit read
  · split at read
    · simp only [Except.ok.injEq, Prod.mk.injEq] at read
      rw [← read.2]
      have := (List.dropWhile_suffix (l := rest) Token.isWordPart).length_le
      simp only [List.length_cons]
      omega
    · split at read
      · split at read
        · next body tail closed =>
          simp only [Except.ok.injEq, Prod.mk.injEq] at read
          have inner := Token.stringBody?_shorter closed
          simp only at inner
          rw [← read.2]
          simp only [List.length_cons]
          omega
        · simp at read
      · exact Token.sign_shorter read

/-- The tokens of a text without blanks at its start; `place` is that of its first character. -/
def tokensFrom (place : Nat) : List Char → Except (Stuck Char) (List PlacedToken)
  | [] => .ok []
  | c :: rest =>
    match _read : nextToken c rest with
    | .error stuck => .error stuck
    | .ok (token, after) =>
      let next := Text.trimStart after
      match tokensFrom (place + ((c :: rest).length - next.length)) next with
      | .error stuck => .error stuck
      | .ok tokens => .ok (⟨token, place⟩ :: tokens)
termination_by text => text.length
decreasing_by
  have shorter := nextToken_shorter _read
  have := (List.dropWhile_suffix (l := after) Text.isBlank).length_le
  simp only [Text.trimStart, List.length_cons] at *
  omega

/-- The tokens of the code of a tag, which has no blanks at its ends. -/
def tokenize (code : List Char) : Except (Stuck Char) (List PlacedToken) := tokensFrom 0 code

end ReactiveView
