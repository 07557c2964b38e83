/-
**A template as text and tags.**

A tag begins with `<%` and ends with the next `%>`; in code, one inside a string does not count.
What follows the beginning tells the kind: a sharp sign a comment, one or two equals signs an
output, anything else a statement. `<%%` is no tag but a written `<%`. A hyphen in front of the
end swallows one newline behind it.

* `closing?` — where the code of a tag ends.
* `segments` — the texts and tags of a source with their places.
-/

import ReactiveView.Template.Position
import ReactiveView.Text.Blank

namespace ReactiveView.Template

/-- What a tag is for. -/
inductive TagKind where
  | output
  | rawOutput
  | statement
  | comment
deriving DecidableEq

/-- A tag: its code without blanks at its ends, and the places of the code and of the whole tag. -/
structure Tag where
  kind : TagKind
  code : List Char
  codeStart : Nat
  start : Nat
  stop : Nat

/-- A piece of a template. -/
inductive Segment where
  | text (text : List Char) (start stop : Nat)
  | tag (tag : Tag)

/-- The kind of a tag and the length of its mark, by what follows `<%`. -/
def tagKind : List Char → TagKind × Nat
  | '#' :: _ => (.comment, 1)
  | '=' :: '=' :: _ => (.rawOutput, 2)
  | '=' :: _ => (.output, 1)
  | _ => (.statement, 0)

/-- A text up to the first `%>`, and what follows it. -/
def commentEnd? : List Char → Option (List Char × List Char)
  | [] => none
  | '%' :: '>' :: rest => some ([], rest)
  | c :: rest => (commentEnd? rest).map fun found => (c :: found.1, found.2)

/-- Code up to the first `%>` outside strings, and what follows it; `quote` opened the string. -/
def codeEnd? (quote : Option Char) : List Char → Option (List Char × List Char)
  | [] => none
  | c :: rest =>
    match quote, c, rest with
    | some _, '\\', skipped :: rest =>
      (codeEnd? quote rest).map fun found => (c :: skipped :: found.1, found.2)
    | some open_, c, rest =>
      (codeEnd? (if c == open_ then none else quote) rest).map fun found => (c :: found.1, found.2)
    | none, '%', '>' :: rest => some ([], rest)
    | none, c, rest =>
      (codeEnd? (if c == '"' || c == '\'' then some c else none) rest).map fun found =>
        (c :: found.1, found.2)

/-- What is inside a tag after its mark, and what follows the tag. -/
def closing? (kind : TagKind) (inner : List Char) : Option (List Char × List Char) :=
  match kind with
  | .comment => commentEnd? inner
  | _ => codeEnd? none inner

/-- The number of characters of one newline at the start of a text. -/
def newlineLength : List Char → Nat
  | '\r' :: '\n' :: _ => 2
  | '\n' :: _ => 1
  | _ => 0

/-- The tag at `start` with the given inside, which ends with a hyphen if it swallows a newline. -/
def makeTag (kind : TagKind) (mark start : Nat) (inside : List Char) : Tag :=
  let trimmed := inside.getLast? == some '-'
  let raw := if trimmed then inside.dropLast else inside
  let leading := raw.length - (Text.trimStart raw).length
  ⟨kind, Text.trim raw, start + 2 + mark + leading, start, start + 2 + mark + inside.length + 2⟩

theorem commentEnd?_shorter {text : List Char} {found : List Char × List Char}
    (closed : commentEnd? text = some found) : found.2.length < text.length := by
  fun_induction commentEnd? text generalizing found with
  | case1 => simp at closed
  | case2 rest =>
    simp only [Option.some.injEq] at closed
    subst closed
    simp only [List.length_cons]
    omega
  | case3 c rest _ ih =>
    obtain ⟨inner, eq, rfl⟩ := Option.map_eq_some_iff.mp closed
    have := ih eq
    simp only [List.length_cons]
    omega

theorem codeEnd?_shorter {quote : Option Char} {text : List Char} {found : List Char × List Char}
    (closed : codeEnd? quote text = some found) : found.2.length < text.length := by
  fun_induction codeEnd? quote text generalizing found with
  | case1 => simp at closed
  | case2 skipped rest open_ ih =>
    obtain ⟨inner, eq, rfl⟩ := Option.map_eq_some_iff.mp closed
    have := ih eq
    simp only [List.length_cons]
    omega
  | case3 open_ c rest _ ih =>
    obtain ⟨inner, eq, rfl⟩ := Option.map_eq_some_iff.mp closed
    have := ih eq
    simp only [List.length_cons]
    omega
  | case4 rest =>
    simp only [Option.some.injEq] at closed
    subst closed
    simp only [List.length_cons]
    omega
  | case5 c rest _ ih =>
    obtain ⟨inner, eq, rfl⟩ := Option.map_eq_some_iff.mp closed
    have := ih eq
    simp only [List.length_cons]
    omega

theorem closing?_shorter {kind : TagKind} {inner : List Char} {found : List Char × List Char}
    (closed : closing? kind inner = some found) : found.2.length < inner.length := by
  unfold closing? at closed
  split at closed
  · exact commentEnd?_shorter closed
  · exact codeEnd?_shorter closed

/-- A text segment, unless there is no text. -/
def textSegment (text : List Char) (start stop : Nat) : List Segment :=
  if text.isEmpty then [] else [.text text start stop]

/--
The segments of the rest of a source. The text read since `textStart` is in `text`, backwards, and
`place` is the place of the rest. A tag that never ends is an error at its place.
-/
def segmentsFrom (text : List Char) (textStart place : Nat) :
    List Char → Except Nat (List Segment)
  | '<' :: '%' :: '%' :: rest => segmentsFrom ('%' :: '<' :: text) textStart (place + 3) rest
  | '<' :: '%' :: inner =>
    let (kind, mark) := tagKind inner
    match _closed : closing? kind (inner.drop mark) with
    | none => .error place
    | some (inside, after) =>
      let tag := makeTag kind mark place inside
      let swallowed := if inside.getLast? == some '-' then newlineLength after else 0
      let next := tag.stop + swallowed
      match segmentsFrom [] next next (after.drop swallowed) with
      | .error place => .error place
      | .ok segments => .ok (textSegment text.reverse textStart place ++ .tag tag :: segments)
  | c :: rest => segmentsFrom (c :: text) textStart (place + 1) rest
  | [] => .ok (textSegment text.reverse textStart place)
termination_by source => source.length
decreasing_by
  · simp only [List.length_cons]
    omega
  · have shorter := closing?_shorter _closed
    simp only [List.length_drop, List.length_cons] at *
    omega
  · simp

/-- The segments of a source, or the place of a tag that never ends. -/
def segments (source : List Char) : Except Nat (List Segment) := segmentsFrom [] 0 0 source

end ReactiveView.Template
