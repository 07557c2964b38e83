/-
**Strings in TOML.**

A string stands between double quotes and may hold escapes, or between single quotes and holds
what is written. Three quotes open and close a string of several lines, whose first line break is
dropped and which may end in one or two quotes of its own. In a string with escapes, a backslash
at the end of a line takes out all blanks and line breaks that follow.

* `string?` — the string at the start of a text.
-/

import ReactiveView.Text.Digits

namespace ReactiveView.Toml

/-- Whether a character may stand in a string or a comment: no control but the tabulator. -/
def isText (c : Char) : Bool := c == '\t' || (0x20 ≤ c.toNat && c.toNat != 0x7F)

/-- A blank within a line. -/
def isSpace (c : Char) : Bool := c == ' ' || c == '\t'

/-- What follows the blanks at the start of a text. -/
def skipSpace (text : List Char) : List Char := text.dropWhile isSpace

/-- What follows a line break, if a text begins with one. -/
def lineBreak? : List Char → Option (List Char)
  | '\n' :: rest => some rest
  | '\r' :: '\n' :: rest => some rest
  | _ => none

/-- The character that a backslash and a letter stand for. -/
def escaped? (letter : Char) : Option Char :=
  match letter with
  | 'b' => some '\x08'
  | 't' => some '\t'
  | 'n' => some '\n'
  | 'f' => some '\x0c'
  | 'r' => some '\r'
  | 'e' => some '\x1b'
  | '"' => some '"'
  | '\\' => some '\\'
  | _ => none

/-- The character whose code point is written in hexadecimal digits. -/
def codePoint? (digits : List Char) : Option Char :=
  if digits.all (Text.isDigitIn 16) && (Text.numberIn 16 digits).isValidChar then
    some (Char.ofNat (Text.numberIn 16 digits))
  else none

/-- A string that was read, and what follows it. -/
abbrev Taken := Option (List Char × List Char)

/-- A character in front of the rest of a string. -/
def Taken.cons (c : Char) (taken : Taken) : Taken :=
  taken.map fun (text, after) => (c :: text, after)

/-- Whether the second and third closing quote follow; further quotes are of the string. -/
def closing? (quote : Char) : List Char → Taken
  | a :: b :: c :: d :: rest =>
    if a == quote && b == quote then
      if c == quote && d == quote then some ([quote, quote], rest)
      else if c == quote then some ([quote], d :: rest)
      else some ([], c :: d :: rest)
    else none
  | [a, b, c] =>
    if a == quote && b == quote then
      if c == quote then some ([quote], []) else some ([], [c])
    else none
  | [a, b] => if a == quote && b == quote then some ([], []) else none
  | _ => none

/-- A string with escapes up to its closing quotes; `skipping` after a backslash at a line's end. -/
def basic? (lines skipping : Bool) : List Char → Taken
  | [] => none
  | '\\' :: 'x' :: a :: b :: rest => do
    Taken.cons (← codePoint? [a, b]) (basic? lines false rest)
  | '\\' :: 'u' :: a :: b :: c :: d :: rest => do
    Taken.cons (← codePoint? [a, b, c, d]) (basic? lines false rest)
  | '\\' :: 'U' :: a :: b :: c :: d :: e :: f :: g :: h :: rest => do
    Taken.cons (← codePoint? [a, b, c, d, e, f, g, h]) (basic? lines false rest)
  | '\\' :: letter :: rest =>
    match escaped? letter with
    | some c => Taken.cons c (basic? lines false rest)
    | none =>
      if lines && (lineBreak? (skipSpace (letter :: rest))).isSome then basic? lines true rest
      else none
  | '\r' :: '\n' :: rest =>
    if !lines then none
    else if skipping then basic? lines true rest
    else Taken.cons '\r' (Taken.cons '\n' (basic? lines false rest))
  | '\n' :: rest =>
    if !lines then none
    else if skipping then basic? lines true rest
    else Taken.cons '\n' (basic? lines false rest)
  | '"' :: rest =>
    if !lines then some ([], rest)
    else
      match closing? '"' rest with
      | some taken => some taken
      | none => Taken.cons '"' (basic? lines false rest)
  | c :: rest =>
    if c == '\\' || !isText c then none
    else if skipping && isSpace c then basic? lines true rest
    else Taken.cons c (basic? lines false rest)

/-- A string without escapes up to its closing quotes. -/
def literal? (lines : Bool) : List Char → Taken
  | [] => none
  | '\r' :: '\n' :: rest =>
    if lines then Taken.cons '\r' (Taken.cons '\n' (literal? lines rest)) else none
  | '\n' :: rest => if lines then Taken.cons '\n' (literal? lines rest) else none
  | '\'' :: rest =>
    if !lines then some ([], rest)
    else
      match closing? '\'' rest with
      | some taken => some taken
      | none => Taken.cons '\'' (literal? lines rest)
  | c :: rest => if isText c then Taken.cons c (literal? lines rest) else none

/-- A string of one line, as it may also stand for a key. -/
def lineString? : List Char → Option (String × List Char)
  | '"' :: rest => (basic? false false rest).map fun (text, after) => (String.ofList text, after)
  | '\'' :: rest => (literal? false rest).map fun (text, after) => (String.ofList text, after)
  | _ => none

/-- A text without the line break at its start. -/
def dropBreak (text : List Char) : List Char := (lineBreak? text).getD text

/-- The string at the start of a text. -/
def string? : List Char → Option (String × List Char)
  | '"' :: '"' :: '"' :: rest =>
    (basic? true false (dropBreak rest)).map fun (text, after) => (String.ofList text, after)
  | '\'' :: '\'' :: '\'' :: rest =>
    (literal? true (dropBreak rest)).map fun (text, after) => (String.ofList text, after)
  | text => lineString? text

end ReactiveView.Toml
