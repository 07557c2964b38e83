/-
**Values unfolded.**

A tree is a value with everything its handles lead to. What shows all of a value (its text and its
JSON) is defined on trees, by recursion on them. Equality is not: a node equals itself whatever it
holds, so what it holds need not be unfolded.

A value that does not contain itself is never nested deeper than there are nodes, so unfolding and
comparing stop there.

* `Store.tree` — the tree of a value.
* `Value.same` — equality: one node equals itself; lists item by item; maps and records by name.
* `Value.same_of_sameNode` — two handles of one node are equal.
* `Tree.json` — numbers that JSON cannot write are `null`, and a record is written like a map.
-/

import ReactiveView.Json.Basic
import ReactiveView.Tracked.Store

namespace ReactiveView

/-- A value with the contents of its nodes in place. -/
inductive Tree where
  | nil
  | bool (value : Bool)
  | int (value : Int64)
  | float (value : Float)
  | str (value : String)
  | list (items : List Tree)
  | map (entries : List (String × Tree))
  | record (name : String) (fields : List (String × Tree))

namespace Store

/-- Unfolds a value at most `depth` levels deep. -/
def unfold (store : Store) : Nat → Value → Tree
  | _, .nil => .nil
  | _, .bool value => .bool value
  | _, .int value => .int value
  | _, .float value => .float value
  | _, .str value => .str value
  | 0, .list _ => .list []
  | 0, .map _ => .map []
  | 0, .record ref => .record (store.recordName ref) []
  | depth + 1, .list ref => .list ((store.items ref).map (store.unfold depth))
  | depth + 1, .map ref =>
    .map ((store.entries ref).entries.map fun entry => (entry.1, store.unfold depth entry.2))
  | depth + 1, .record ref =>
    .record (store.recordName ref)
      ((store.fields ref).entries.map fun entry => (entry.1, store.unfold depth entry.2))

/-- The tree of a value. -/
def tree (store : Store) (value : Value) : Tree := store.unfold store.nodes.size value

end Store

namespace Tree

mutual

/-- The JSON value of a tree. -/
def json : Tree → Json
  | nil => .null
  | bool value => .bool value
  | int value => .int value.toInt
  | float value => if value.isFinite then .float value else .null
  | str value => .string value
  | list items => .array (jsonItems items)
  | map entries => .object (jsonEntries entries)
  | record _ fields => .object (jsonEntries fields)

/-- The JSON values of some trees. -/
def jsonItems : List Tree → List Json
  | [] => []
  | tree :: rest => json tree :: jsonItems rest

/-- The JSON members of some named trees. -/
def jsonEntries : List (String × Tree) → List (String × Json)
  | [] => []
  | (name, tree) :: rest => (name, json tree) :: jsonEntries rest

end

end Tree

namespace Value

/--
Numbers in running text have the fewest digits that read back and never an exponent; the exponent
of a first digit lies between -324 and 308.
-/
def textLayout : Decimal.Layout where
  leastPlain := -324
  mostPlain := 308
  exponentPlus := false
  tie := .up
  infinity := "inf"
  negativeInfinity := "-inf"
  nan := "NaN"

/-- Numbers in diagnostic text have an exponent below `1e-4` and from `1e16` on. -/
def debugLayout : Decimal.Layout where
  leastPlain := -4
  mostPlain := 15
  exponentPlus := false
  tie := .up
  infinity := "inf"
  negativeInfinity := "-inf"
  nan := "NaN"

/-- A whole number has all its digits and one zero behind the point. -/
def floatText (value : Float) : String :=
  if (Decimal.Binary.ofFloat value).isWhole then Decimal.fixed 1 value else textLayout.text value

/-- Whether two values are equal as far as `depth` levels down; what lies deeper is not compared. -/
def sameWithin (store : Store) : Nat → Value → Value → Bool
  | _, nil, nil => true
  | _, bool left, bool right => left == right
  | _, int left, int right => left == right
  | _, int left, float right => left.toFloat == right
  | _, float left, int right => left == right.toFloat
  | _, float left, float right => left == right
  | _, str left, str right => left == right
  | 0, list _, list _ => true
  | 0, map _, map _ => true
  | 0, record _, record _ => true
  | depth + 1, list left, list right =>
    left == right || (store.items left).isEqv (store.items right) (sameWithin store depth)
  | depth + 1, map left, map right =>
    left == right || (store.entries left).isEqv (store.entries right) (sameWithin store depth)
  | depth + 1, record left, record right =>
    left == right || (store.recordName left == store.recordName right &&
      (store.fields left).isEqv (store.fields right) (sameWithin store depth))
  | _, _, _ => false

/-- Whether two values are equal. -/
def same (store : Store) (left right : Value) : Bool :=
  sameWithin store store.nodes.size left right

theorem same_of_sameNode (store : Store) {left right : Value} (node : left.sameNode right = true) :
    left.same store right = true := by
  unfold same
  cases store.nodes.size <;> cases left <;> cases right <;> simp_all [sameNode, sameWithin]

/-- The JSON of a value. -/
def json (store : Store) (value : Value) : Json := (store.tree value).json

/-- The text that shows a value. -/
def display (store : Store) : Value → String
  | nil => "nil"
  | bool value => if value then "true" else "false"
  | int value => Json.intText value.toInt
  | float value => floatText value
  | str value => value
  | composite => (composite.json store).text

/-- The text that a value adds to an output: nothing for `nil`. -/
def text (store : Store) : Value → String
  | nil => ""
  | value => value.display store

end Value

namespace Tree

mutual

/-- The diagnostic text of a tree, which tells texts, lists, maps and records apart. -/
def debug : Tree → String
  | nil => "nil"
  | bool value => if value then "true" else "false"
  | int value => Json.intText value.toInt
  | float value => Value.debugLayout.text value
  | str value => Text.quoted value
  | list items => "[" ++ String.intercalate ", " (debugItems items) ++ "]"
  | map entries => "\x7b" ++ String.intercalate ", " (debugEntries entries) ++ "\x7d"
  | record name fields =>
    if fields.isEmpty then name
    else name ++ " \x7b " ++ String.intercalate ", " (debugFields fields) ++ " \x7d"

/-- The diagnostic texts of some trees. -/
def debugItems : List Tree → List String
  | [] => []
  | tree :: rest => debug tree :: debugItems rest

/-- The diagnostic texts of the entries of a map. -/
def debugEntries : List (String × Tree) → List String
  | [] => []
  | (name, tree) :: rest => (Text.quoted name ++ ": " ++ debug tree) :: debugEntries rest

/-- The diagnostic texts of the fields of a record. -/
def debugFields : List (String × Tree) → List String
  | [] => []
  | (name, tree) :: rest => (name ++ ": " ++ debug tree) :: debugFields rest

end

end Tree

/-- The diagnostic text of a value. -/
def Value.debug (store : Store) (value : Value) : String := (store.tree value).debug

end ReactiveView
