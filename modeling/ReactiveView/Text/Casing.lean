/-
**Upper and lower case of whole texts.**

Every character is replaced by its image, which may have several characters. One letter looks
around it: a capital sigma that ends a word becomes the final form. A word ends there when the
nearest character before it that counts has a case and the nearest after it has none; marks and
apostrophes do not count.

* `upper_append` — upper case is taken character by character.
-/

import ReactiveView.Text.CaseTable
import ReactiveView.Text.CharacterTable

namespace ReactiveView.Text

/-- The character a run of the table maps `c` to, if some run covers it. -/
def shifted (runs : List CaseRun) (c : Char) : Option Char :=
  (runs.find? fun run => run.covers c.toNat).map fun run =>
    Char.ofNat (Int.toNat (c.toNat + run.shift))

/-- The characters a table of sequences maps `c` to, if it lists it. -/
def expanded (sequences : List (Nat × List Nat)) (c : Char) : Option (List Char) :=
  (sequences.lookup c.toNat).map (List.map Char.ofNat)

/-- The upper case of one character. -/
def upperChar (c : Char) : List Char :=
  match expanded upperSequences c with
  | some sequence => sequence
  | none => [(shifted upperRuns c).getD c]

/-- The lower case of one character, its neighbours left aside. -/
def lowerChar (c : Char) : List Char :=
  match expanded lowerSequences c with
  | some sequence => sequence
  | none => [(shifted lowerRuns c).getD c]

/-- Whether the first character that counts has a case. -/
def casedAfterIgnorable (text : List Char) : Bool :=
  match text.dropWhile fun c => inRanges caseIgnorableRanges c.toNat with
  | [] => false
  | c :: _ => inRanges casedRanges c.toNat

/-- The upper case of a text. -/
def upper (text : List Char) : List Char := text.flatMap upperChar

/-- The lower case of `text`; the characters in `before` (nearest first) are already passed. -/
def lowerFrom (before : List Char) : List Char → List Char
  | [] => []
  | c :: rest =>
    let image :=
      if c = 'Σ' then
        if casedAfterIgnorable before && !casedAfterIgnorable rest then ['ς'] else ['σ']
      else lowerChar c
    image ++ lowerFrom (c :: before) rest

/-- The lower case of a text. -/
def lower (text : List Char) : List Char := lowerFrom [] text

/-- A text whose first character is in upper case; the others are left as they are. -/
def capitalize : List Char → List Char
  | [] => []
  | c :: rest => upperChar c ++ rest

theorem upper_append (left right : List Char) : upper (left ++ right) = upper left ++ upper right :=
  List.flatMap_append

end ReactiveView.Text
