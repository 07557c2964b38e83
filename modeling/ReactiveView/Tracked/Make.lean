/-
**Values made from plain data.**

Arrays become lists and objects become maps, from the inside out; each gets a node of its own that
nobody watches. A whole number that an integer cannot hold becomes a floating-point number.

* `Value.ofJson` — the value of a JSON value.
-/

import ReactiveView.Data.Integer
import ReactiveView.Tracked.Tree

namespace ReactiveView

namespace Store

/-- A new list. -/
def newList (store : Store) (items : List Value) : Value × Store :=
  let (ref, store) := store.make (.list items)
  (.list ref, store)

/-- A new map. -/
def newMap (store : Store) (entries : OrderedMap String Value) : Value × Store :=
  let (ref, store) := store.make (.map entries)
  (.map ref, store)

/-- A new record. -/
def newRecord (store : Store) (name : String) (fields : OrderedMap String Value) : Value × Store :=
  let (ref, store) := store.make (.record name fields)
  (.record ref, store)

end Store

namespace Value

/-- A whole number: an integer if 64 bits with a sign can hold it. -/
def ofWhole (number : Int) : Value :=
  match Integer.ofWhole? number with
  | some number => int number
  | none =>
    float (if 0 ≤ number then (UInt64.ofNat number.toNat).toFloat
      else -(UInt64.ofNat (-number).toNat).toFloat)

mutual

/-- The value of a JSON value. -/
def ofJson (store : Store) : Json → Value × Store
  | .null => (nil, store)
  | .bool value => (bool value, store)
  | .int number => (ofWhole number, store)
  | .float number => (float number, store)
  | .string value => (str value, store)
  | .array items =>
    let (values, store) := ofJsonItems store items
    store.newList values
  | .object members =>
    let (entries, store) := ofJsonMembers store members
    store.newMap (OrderedMap.ofList entries)

/-- The values of the items of an array. -/
def ofJsonItems (store : Store) : List Json → List Value × Store
  | [] => ([], store)
  | item :: rest =>
    let (value, store) := ofJson store item
    let (values, store) := ofJsonItems store rest
    (value :: values, store)

/-- The values of the members of an object. -/
def ofJsonMembers (store : Store) : List (String × Json) → List (String × Value) × Store
  | [] => ([], store)
  | (name, member) :: rest =>
    let (value, store) := ofJson store member
    let (entries, store) := ofJsonMembers store rest
    ((name, value) :: entries, store)

end

end Value

end ReactiveView
