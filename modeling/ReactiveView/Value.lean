/-
**State values.**

A value is a scalar or a handle of a list, a map or a record. Handles are references to nodes of a
store: copying a value copies the reference, never the node, so two values can share one node.

* `isTruthy` — only `nil` and `false` are not true.
* `sameNode` — two values are handles of one node.
-/

import ReactiveView.Data.OrderedMap

namespace ReactiveView

/-- The place of a node in its store. -/
abbrev Ref := Nat

/-- A dynamically typed value. -/
inductive Value where
  | nil
  | bool (value : Bool)
  | int (value : Int64)
  | float (value : Float)
  | str (value : String)
  | list (ref : Ref)
  | map (ref : Ref)
  | record (ref : Ref)
deriving DecidableEq, Inhabited

namespace Value

/-- The name of the type of a value. -/
def typeName : Value → String
  | nil => "nil"
  | bool _ => "bool"
  | int _ => "int"
  | float _ => "float"
  | str _ => "string"
  | list _ => "list"
  | map _ => "map"
  | record _ => "record"

/-- Whether there is no value. -/
def isNil : Value → Bool
  | nil => true
  | _ => false

/-- Only `nil` and `false` are not true. -/
def isTruthy : Value → Bool
  | nil => false
  | bool value => value
  | _ => true

/-- The node that a handle refers to; scalars refer to none. -/
def ref? : Value → Option Ref
  | list ref => some ref
  | map ref => some ref
  | record ref => some ref
  | _ => none

/-- Whether a value is a handle. -/
def isComposite (value : Value) : Bool := value.ref?.isSome

/-- Whether two values are handles of the same node. -/
def sameNode : Value → Value → Bool
  | list left, list right => left == right
  | map left, map right => left == right
  | record left, record right => left == right
  | _, _ => false

/-- The truth value, if it is one. -/
def asBool? : Value → Option Bool
  | bool value => some value
  | _ => none

/-- The integer, if it is one. -/
def asInt? : Value → Option Int64
  | int value => some value
  | _ => none

/-- The number as a floating-point number. -/
def asFloat? : Value → Option Float
  | int value => some value.toFloat
  | float value => some value
  | _ => none

/-- The text, if it is one. -/
def asStr? : Value → Option String
  | str value => some value
  | _ => none

/-- A natural number as a value. -/
def ofNat (number : Nat) : Value := int (Int64.ofNat number)

/-- The order of two floating-point numbers; a number that is none has no order. -/
def compareFloat (left right : Float) : Option Ordering :=
  if left < right then some .lt
  else if left == right then some .eq
  else if left > right then some .gt
  else none

/-- Orders numbers, texts, truth values and `nil` among their own kind. -/
def compare : Value → Value → Option Ordering
  | int left, int right => some (Ord.compare left right)
  | str left, str right => some (Ord.compare left right)
  | bool left, bool right => some (Ord.compare left right)
  | nil, nil => some .eq
  | left, right => do
    let left ← left.asFloat?
    let right ← right.asFloat?
    compareFloat left right

end Value

end ReactiveView
