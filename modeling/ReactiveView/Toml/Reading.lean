/-
**A TOML text as a row of statements.**

A text assigns values to keys and opens sections. A key is a path of names, given with points
between them. The statements keep the order of the text; what they mean together is left to their
reader, save that no path of an inline table begins another. Neither a path nor the nesting of
arrays and inline tables goes on without end.

* `Value` — a value; of numbers only whole ones are kept, and of dates only that there is one.
* `statements?` — the statements of a text.
-/

import ReactiveView.Toml.Scalar
import ReactiveView.Toml.Text

namespace ReactiveView.Toml

/-- The names between the points of a key. -/
abbrev Path := List String

/-- A value that is written. -/
inductive Value where
  | bool (value : Bool)
  | int (value : Int)
  | text (value : String)
  /-- A floating-point number, a date or a time, or a whole number that is none. -/
  | other
  | array (items : List Value)
  | table (entries : List (Path × Value))

/-- One statement of a text. -/
inductive Statement where
  /-- Opens the section with a path; what follows is assigned in it. -/
  | openSection (path : Path)
  /-- Opens a further section of a list of sections. -/
  | openFurther (path : Path)
  | assign (path : Path) (value : Value)

/-- Whether no path begins another, and so none is repeated. -/
def areApart : List Path → Bool
  | [] => true
  | path :: rest =>
    rest.all (fun other => !path.isPrefixOf other && !other.isPrefixOf path) && areApart rest

/-- How many names a path may have, and how many brackets and braces may be open at once. -/
def depthLimit : Nat := 80

/-! ### Blanks and keys -/

/-- What follows blanks, line breaks and comments; a comment ends where its text does. -/
def skipLines (commented : Bool) : List Char → List Char
  | [] => []
  | '\r' :: '\n' :: rest => skipLines false rest
  | c :: rest =>
    if c == '\n' then skipLines false rest
    else if commented then if isText c then skipLines true rest else c :: rest
    else if c == '#' then skipLines true rest
    else if isSpace c then skipLines false rest
    else c :: rest

/-- What follows the end of a line: blanks, perhaps a comment, and a line break or the end. -/
def endOfLine? (text : List Char) : Option (List Char) :=
  let rest :=
    match skipSpace text with
    | '#' :: comment => comment.dropWhile isText
    | rest => rest
  if rest.isEmpty then some [] else lineBreak? rest

/-- Whether a character may stand in a key without quotes. -/
def isBare (c : Char) : Bool := c.isAlphanum || c == '_' || c == '-'

/-- One name of a key, and what follows it. -/
def name? (text : List Char) : Option (String × List Char) :=
  let bare := text.takeWhile isBare
  if bare.isEmpty then lineString? text else some (String.ofList bare, text.drop bare.length)

/-- A key of at most `limit` names, and what follows it and the blanks after it. -/
def pathWithin? : Nat → List Char → Option (Path × List Char)
  | 0, _ => none
  | limit + 1, text => do
    let (name, after) ← name? text
    match skipSpace after with
    | '.' :: rest =>
      let (path, after) ← pathWithin? limit (skipSpace rest)
      return (name :: path, after)
    | after => return ([name], after)

/-- A key, and what follows it and the blanks after it. -/
def path? (text : List Char) : Option (Path × List Char) := pathWithin? depthLimit text

/-! ### Values -/

/-- Whether a character may stand in a value without quotes. -/
def isAtomic : Char → Bool
  | ' ' | '\t' | '\r' | '\n' | '#' | ',' | '=' | '[' | ']' | '\x7b' | '\x7d' => false
  | _ => true

/-- A value without quotes; a date and a time may have one blank between them. -/
def atom? (text : List Char) : Option (Value × List Char) :=
  let first := text.takeWhile isAtomic
  let after := text.drop first.length
  let longer :=
    match after with
    | ' ' :: rest => first ++ ' ' :: rest.takeWhile isAtomic
    | _ => first
  if first == ['t', 'r', 'u', 'e'] then some (.bool true, after)
  else if first == ['f', 'a', 'l', 's', 'e'] then some (.bool false, after)
  else if longer.length != first.length && isMoment longer then
    some (.other, text.drop longer.length)
  else
    match integer? first with
    | some number => some (.int number, after)
    | none =>
      if isFloat first || isMoment first || isNumeral first then some (.other, after) else none

mutual

/-- The value at the start of a text, where `room` more brackets and braces may be opened. -/
def value? : Nat → Nat → List Char → Option (Value × List Char)
  | 0, _, _ => none
  | fuel + 1, room, text =>
    match room, text with
    | room + 1, '[' :: rest => (items? fuel room (skipLines false rest)).map fun (items, after) =>
        (.array items, after)
    | room + 1, '\x7b' :: rest => do
      let (entries, after) ← entries? fuel room (skipLines false rest)
      if areApart (entries.map Prod.fst) then some (.table entries, after) else none
    | _, c :: rest =>
      if c == '"' || c == '\'' then
        (string? (c :: rest)).map fun (text, after) => (.text text, after)
      else atom? (c :: rest)
    | _, [] => none

/-- The items of an array up to its closing bracket. -/
def items? : Nat → Nat → List Char → Option (List Value × List Char)
  | 0, _, _ => none
  | _, _, ']' :: rest => some ([], rest)
  | fuel + 1, room, text => do
    let (item, after) ← value? fuel room text
    match skipLines false after with
    | ',' :: rest =>
      let (items, after) ← items? fuel room (skipLines false rest)
      return (item :: items, after)
    | ']' :: rest => return ([item], rest)
    | _ => none

/-- The entries of an inline table up to its closing brace; lines may break around `=`. -/
def entries? : Nat → Nat → List Char → Option (List (Path × Value) × List Char)
  | 0, _, _ => none
  | _, _, '\x7d' :: rest => some ([], rest)
  | fuel + 1, room, text => do
    let (path, after) ← path? text
    match skipLines false after with
    | '=' :: rest =>
      let (value, after) ← value? fuel room (skipLines false rest)
      match skipLines false after with
      | ',' :: rest =>
        let (entries, after) ← entries? fuel room (skipLines false rest)
        return ((path, value) :: entries, after)
      | '\x7d' :: rest => return ([(path, value)], rest)
      | _ => none
    | _ => none

end

/-! ### Statements -/

/-- The statement at the start of a text, and what follows it. -/
def statement? (text : List Char) : Option (Statement × List Char) :=
  match text with
  | '[' :: '[' :: rest => do
    let (path, after) ← path? (skipSpace rest)
    match after with
    | ']' :: ']' :: after => return (.openFurther path, after)
    | _ => none
  | '[' :: rest => do
    let (path, after) ← path? (skipSpace rest)
    match after with
    | ']' :: after => return (.openSection path, after)
    | _ => none
  | text => do
    let (path, after) ← path? text
    match after with
    | '=' :: rest =>
      let (value, after) ← value? (2 * text.length) depthLimit (skipSpace rest)
      return (.assign path value, after)
    | _ => none

/-- The statements of the rest of a text. -/
def statementsFrom? : Nat → List Char → Option (List Statement)
  | 0, _ => none
  | fuel + 1, text =>
    match skipLines false text with
    | [] => some []
    | text => do
      let (statement, after) ← statement? text
      let rest ← endOfLine? after
      let statements ← statementsFrom? fuel rest
      return statement :: statements

/-- The statements of a text; a byte order mark in front of it is passed over. -/
def statements? (text : String) : Option (List Statement) :=
  let chars :=
    match text.toList with
    | c :: rest => if c.toNat = 0xFEFF then rest else c :: rest
    | [] => []
  statementsFrom? (chars.length + 1) chars

end ReactiveView.Toml
