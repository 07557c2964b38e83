/-
**Operators of expressions.**

Integer arithmetic is exact or an error: quotient and remainder are those of Euclidean division,
so a remainder is never negative, and a result that 64 bits with a sign cannot hold is refused.
Where one operand is a floating-point number both are. A text takes any operand to its side as
text.

* `exactInt` — an integer result, if it fits.
* `binary` — every operator but the two that look at their right side only if they need it.
-/

import ReactiveView.Data.Integer
import ReactiveView.Template.Expr
import ReactiveView.Tracked.List
import ReactiveView.Tracked.Make
import ReactiveView.Tracked.Map

namespace ReactiveView.Render

/-- A result with the store after it. -/
abbrev Outcome := Except Error Value × Store

/-- An integer result, if it fits. -/
def exactInt (number : Int) : Except Error Value :=
  match Integer.ofWhole? number with
  | some number => .ok (.int number)
  | none => .error (.eval "integer overflow")

/-- The error of a divisor that is zero. -/
def divisionByZero : Except Error Value := .error (.eval "division by zero")

/-- Arithmetic on two integers. -/
def integers (op : Arithmetic) (left right : Int) : Except Error Value :=
  match op with
  | .add => exactInt (left + right)
  | .sub => exactInt (left - right)
  | .mul => exactInt (left * right)
  | .div => if right = 0 then divisionByZero else exactInt (left / right)
  | .rem =>
    if right = 0 then divisionByZero
    else if Integer.fits (left / right) then exactInt (left % right)
    else .error (.eval "integer overflow")

/-- Arithmetic on two floating-point numbers. -/
def floats (op : Arithmetic) (left right : Float) : Float :=
  match op with
  | .add => left + right
  | .sub => left - right
  | .mul => left * right
  | .div => left / right
  | .rem => Decimal.remainder left right

/-- The error of an operator whose operands have types it cannot take. -/
def mismatch (op : BinaryOp) (left right : Value) : Error :=
  .eval ("unsupported operand types for " ++ ticked op.sign ++ ": " ++ left.typeName ++ " and " ++
    right.typeName)

/-- The error of a text that is longer than the limit. -/
def tooLarge (limit : Nat) : Error :=
  .eval ("string too large: more than " ++ toString limit ++ " bytes")

/-- Whether an order is the one a comparison asks for. -/
def holds (op : Comparison) (order : Ordering) : Bool :=
  match op with
  | .lt => order.isLT
  | .le => order.isLE
  | .gt => order.isGT
  | .ge => order.isGE

/-- Arithmetic on numbers, in floating point unless both are integers. -/
def arithmetic (op : Arithmetic) (left right : Value) : Except Error Value :=
  match left, right with
  | .int x, .int y => integers op x.toInt y.toInt
  | left, right =>
    match left.asFloat?, right.asFloat? with
    | some x, some y => .ok (.float (floats op x y))
    | _, _ => .error (mismatch (.arithmetic op) left right)

/-- Two texts one after the other, if the limit allows. -/
def joined (limit : Nat) (left right : String) : Except Error Value :=
  let text := left ++ right
  if text.utf8ByteSize > limit then .error (tooLarge limit) else .ok (.str text)

/-- A text several times over, if the limit allows; a negative number is none. -/
def repeated (limit : Nat) (text : String) (count : Nat) : Except Error Value :=
  if text.isEmpty then .ok (.str "")
  else if text.utf8ByteSize * count > limit then .error (tooLarge limit)
  else .ok (.str (String.join (List.replicate count text)))

/-- A sum: of numbers, of anything with a text, of two lists, or of two maps. -/
def sum (limit : Nat) (left right : Value) (store : Store) : Outcome :=
  match left, right with
  | .str text, right => (joined limit text (right.text store), store)
  | left, .str text => (joined limit (left.text store) text, store)
  | .list first, .list second =>
    let (front, store) := TrackedList.iterate first store
    let (back, store) := TrackedList.iterate second store
    let (value, store) := store.newList (front ++ back)
    (.ok value, store)
  | .map first, .map second =>
    let (front, store) := TrackedMap.iterate first store
    let (back, store) := TrackedMap.iterate second store
    let (value, store) := store.newMap (OrderedMap.ofList (front ++ back))
    (.ok value, store)
  | left, right => (arithmetic .add left right, store)

/-- A product: of numbers, or of a text and how often it is taken. -/
def product (limit : Nat) (left right : Value) : Except Error Value :=
  match left, right with
  | .str text, .int count => repeated limit text count.toInt.toNat
  | left, right => arithmetic .mul left right

/-- An operator on two values; `limit` is the greatest number of bytes of a text. -/
def binary (op : BinaryOp) (limit : Nat) (left right : Value) (store : Store) : Outcome :=
  match op with
  | .eq => (.ok (.bool (left.same store right)), store)
  | .ne => (.ok (.bool (!left.same store right)), store)
  | .comparison op =>
    match left.compare right with
    | some order => (.ok (.bool (holds op order)), store)
    | none => (.error (mismatch (.comparison op) left right), store)
  | .arithmetic .add => sum limit left right store
  | .arithmetic .mul => (product limit left right, store)
  | .arithmetic op => (arithmetic op left right, store)
  | .and => (.ok (if left.isTruthy then right else left), store)
  | .or => (.ok (if left.isTruthy then left else right), store)

/-- An operator in front of a value. -/
def unary (op : UnaryOp) (value : Value) : Except Error Value :=
  match op, value with
  | .not, value => .ok (.bool (!value.isTruthy))
  | .negate, .int number => exactInt (-number.toInt)
  | .negate, .float number => .ok (.float (-number))
  | .negate, other => .error (.eval ("cannot negate " ++ other.typeName))

end ReactiveView.Render
