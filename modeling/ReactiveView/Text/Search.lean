/-
**Finding one text in another.**

Occurrences are looked for from the left and do not overlap. The empty text occurs before every
character and at the end.

* `split`, `join`, `replace` — the pieces between occurrences, and what is put in their place.
-/

namespace ReactiveView.Text

/-- Whether `part` occurs in `text`. -/
def occurs (part : List Char) : List Char → Bool
  | [] => part.isEmpty
  | c :: rest => part.isPrefixOf (c :: rest) || occurs part rest

/--
The pieces of a text between the occurrences of a separator that has characters. `skip` characters
of an occurrence are still to be passed over, and `piece` holds the current piece backwards.
-/
def piecesFrom (separator : List Char) (skip : Nat) (piece : List Char) :
    List Char → List (List Char)
  | [] => [piece.reverse]
  | c :: rest =>
    match skip with
    | more + 1 => piecesFrom separator more piece rest
    | 0 =>
      if separator.isPrefixOf (c :: rest) then
        piece.reverse :: piecesFrom separator (separator.length - 1) [] rest
      else piecesFrom separator 0 (c :: piece) rest

/-- The pieces of a text between the occurrences of a separator. -/
def split (separator text : List Char) : List (List Char) :=
  match separator with
  | [] => [] :: text.map (fun c => [c]) ++ [[]]
  | _ :: _ => piecesFrom separator 0 [] text

/-- The texts of a list with a separator between neighbours. -/
def join (separator : List Char) (pieces : List (List Char)) : List Char :=
  separator.intercalate pieces

/-- A text with every occurrence of `part` replaced by `replacement`. -/
def replace (part replacement text : List Char) : List Char := join replacement (split part text)

end ReactiveView.Text
