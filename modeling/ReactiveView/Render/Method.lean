/-
**Methods that a template may call.**

Each type of value has a table of methods; the names of operations that write are refused for
every receiver. A method may be called by a field without arguments, too, where the receiver has
no entry or field of that name.

* `methodOf?` — the method a receiver has under a name.
* `callMethod`, `readField`, `readIndex` — what calling and looking into a value gives.
-/

import ReactiveView.Data.Integer
import ReactiveView.Render.Operator
import ReactiveView.Text.Casing
import ReactiveView.Text.Search
import ReactiveView.Text.Blank

namespace ReactiveView.Render

/-- Names of operations that write to their receiver. -/
def writingNames : List String :=
  ["push", "pop", "insert", "remove", "set", "clear", "truncate", "extend", "concat", "retain",
    "sort", "sort_by", "reverse", "merge", "sort_keys", "delete"]

/-- Methods of every value. -/
inductive CommonMethod where
  | text
  | typeName
  | isNil

/-- Methods of a list. -/
inductive ListMethod where
  | length
  | isEmpty
  | first
  | last
  | item
  | contains
  | position
  | join
  | slice
  | reversed
  | sorted
  | compact

/-- Methods of a map. -/
inductive MapMethod where
  | length
  | isEmpty
  | get
  | hasKey
  | keys
  | values

/-- Methods of a record. -/
inductive RecordMethod where
  | typeName
  | toMap
  | fields

/-- Methods of a text. -/
inductive TextMethod where
  | length
  | isEmpty
  | upper
  | lower
  | trim
  | capitalize
  | contains
  | startsWith
  | endsWith
  | split
  | replace

/-- Methods of a number. -/
inductive NumberMethod where
  | absolute
  | round
  | floor
  | ceil
  | format

/-- Methods of `nil`. -/
inductive NilMethod where
  | length
  | isEmpty

/-- A method together with the receiver it belongs to. -/
inductive Method where
  | common (method : CommonMethod)
  | ofNil (method : NilMethod)
  | ofList (list : Ref) (method : ListMethod)
  | ofMap (map : Ref) (method : MapMethod)
  | ofRecord (record : Ref) (method : RecordMethod)
  | ofText (text : String) (method : TextMethod)
  | ofInt (number : Int64) (method : NumberMethod)
  | ofFloat (number : Float) (method : NumberMethod)

/-- The names of the methods of every value. -/
def commonMethods : List (String × CommonMethod) :=
  [("to_s", .text), ("type", .typeName), ("is_nil", .isNil)]

/-- The names of the methods of `nil`. -/
def nilMethods : List (String × NilMethod) :=
  [("len", .length), ("size", .length), ("is_empty", .isEmpty)]

/-- The names of the methods of a list. -/
def listMethods : List (String × ListMethod) :=
  [("len", .length), ("size", .length), ("length", .length), ("is_empty", .isEmpty),
    ("first", .first), ("last", .last), ("get", .item), ("at", .item), ("contains", .contains),
    ("include", .contains), ("index_of", .position), ("join", .join), ("slice", .slice),
    ("reversed", .reversed), ("sorted", .sorted), ("compact", .compact)]

/-- The names of the methods of a map. -/
def mapMethods : List (String × MapMethod) :=
  [("len", .length), ("size", .length), ("length", .length), ("is_empty", .isEmpty),
    ("get", .get), ("contains_key", .hasKey), ("has_key", .hasKey), ("keys", .keys),
    ("values", .values)]

/-- The names of the methods of a record. -/
def recordMethods : List (String × RecordMethod) :=
  [("type_name", .typeName), ("to_map", .toMap), ("fields", .fields)]

/-- The names of the methods of a text. -/
def textMethods : List (String × TextMethod) :=
  [("len", .length), ("size", .length), ("length", .length), ("is_empty", .isEmpty),
    ("upcase", .upper), ("upper", .upper), ("downcase", .lower), ("lower", .lower),
    ("strip", .trim), ("trim", .trim), ("capitalize", .capitalize), ("contains", .contains),
    ("include", .contains), ("starts_with", .startsWith), ("ends_with", .endsWith),
    ("split", .split), ("replace", .replace)]

/-- The names of the methods of a number. -/
def numberMethods : List (String × NumberMethod) :=
  [("abs", .absolute), ("round", .round), ("floor", .floor), ("ceil", .ceil), ("format", .format)]

/-- The method a receiver has under a name, if any; those of every value come first. -/
def methodOf? (receiver : Value) (name : String) : Option Method :=
  match commonMethods.lookup name with
  | some method => some (.common method)
  | none =>
    match receiver with
    | .nil => (nilMethods.lookup name).map .ofNil
    | .list list => (listMethods.lookup name).map (.ofList list)
    | .map map => (mapMethods.lookup name).map (.ofMap map)
    | .record record => (recordMethods.lookup name).map (.ofRecord record)
    | .str text => (textMethods.lookup name).map (.ofText text)
    | .int number => (numberMethods.lookup name).map (.ofInt number)
    | .float number => (numberMethods.lookup name).map (.ofFloat number)
    | .bool _ => none

/-! ### Arguments -/

/-- The argument at an index, which must be there. -/
def argument (arguments : List Value) (index : Nat) (name : String) : Except Error Value :=
  match arguments[index]? with
  | some value => .ok value
  | none =>
    .error (.eval (ticked name ++ " expects at least " ++ toString (index + 1) ++ " argument(s)"))

/-- A value that must be an integer. -/
def integer (value : Value) (name : String) : Except Error Int :=
  match value.asInt? with
  | some number => .ok number.toInt
  | none => .error (.eval (ticked name ++ " expects an integer"))

/-- The argument at an index, which must be an integer. -/
def intArgument (arguments : List Value) (index : Nat) (name : String) : Except Error Int := do
  integer (← argument arguments index name) name

/-- Where a slice starts and, if a second argument says so, where it stops. -/
def sliceBounds (arguments : List Value) (name : String) : Except Error (Nat × Option Nat) := do
  let start ← intArgument arguments 0 name
  match arguments[1]? with
  | some stop => return (start.toNat, some (← integer stop name).toNat)
  | none => return (start.toNat, none)

/-- The text of the argument at an index, which must be there. -/
def textArgument (arguments : List Value) (index : Nat) (name : String) (store : Store) :
    Except Error (List Char) := do
  return ((← argument arguments index name).text store).toList

/-- A result that leaves the store as it is. -/
def unchanged (store : Store) (result : Except Error Value) : Outcome := (result, store)

/-- A value that may be missing, which is then `nil`. -/
def orNil (found : Option Value × Store) : Outcome := (.ok (found.1.getD .nil), found.2)

/-- A new list of texts. -/
def textList (store : Store) (texts : List String) : Outcome :=
  let (value, store) := store.newList (texts.map .str)
  (.ok value, store)

/-! ### Calls -/

/-- A method of every value. -/
def CommonMethod.call (method : CommonMethod) (receiver : Value) (store : Store) : Value :=
  match method with
  | text => .str (receiver.text store)
  | typeName => .str receiver.typeName
  | isNil => .bool receiver.isNil

/-- A method of `nil`, which is like an empty list. -/
def NilMethod.call : NilMethod → Value
  | length => .int 0
  | isEmpty => .bool true

/-- A method of a list. -/
def ListMethod.call (method : ListMethod) (list : Ref) (name : String) (arguments : List Value)
    (store : Store) : Outcome :=
  match method with
  | length => (.ok (.ofNat (store.items list).length), store)
  | isEmpty => (.ok (.bool (store.items list).isEmpty), store)
  | first => orNil (TrackedList.first list store)
  | last => orNil (TrackedList.last list store)
  | item =>
    match intArgument arguments 0 name with
    | .ok index => orNil (TrackedList.item list index store)
    | .error error => (.error error, store)
  | contains => unchanged store do
    return .bool (TrackedList.contains list (← argument arguments 0 name) store)
  | position => unchanged store do
    let place := TrackedList.position list (← argument arguments 0 name) store
    return (place.map Value.ofNat).getD .nil
  | join =>
    let separator := (arguments.head?.getD .nil).text store
    (.ok (.str (TrackedList.join list separator store)), store)
  | slice =>
    match sliceBounds arguments name with
    | .ok (start, stop) =>
      let (ref, store) := TrackedList.slice list start stop store
      (.ok (.list ref), store)
    | .error error => (.error error, store)
  | reversed =>
    let (ref, store) := TrackedList.reversed list store
    (.ok (.list ref), store)
  | sorted =>
    let (ref, store) := TrackedList.sorted list store
    (.ok (.list ref), store)
  | compact =>
    let (ref, store) := TrackedList.filter list (fun value => !value.isNil) store
    (.ok (.list ref), store)

/-- A method of a map. -/
def MapMethod.call (method : MapMethod) (map : Ref) (name : String) (arguments : List Value)
    (store : Store) : Outcome :=
  match method with
  | length => (.ok (.ofNat (store.entries map).size), store)
  | isEmpty => (.ok (.bool (store.entries map).isEmpty), store)
  | get =>
    match textArgument arguments 0 name store with
    | .ok key => orNil (TrackedMap.get map (String.ofList key) store)
    | .error error => (.error error, store)
  | hasKey => unchanged store do
    let key ← textArgument arguments 0 name store
    return .bool ((store.entries map).contains (String.ofList key))
  | keys => textList store (store.entries map).keys
  | values =>
    let (entries, store) := TrackedMap.iterate map store
    let (value, store) := store.newList (entries.map Prod.snd)
    (.ok value, store)

/-- A method of a record. -/
def RecordMethod.call (method : RecordMethod) (record : Ref) (store : Store) : Outcome :=
  match method with
  | typeName => (.ok (.str (store.recordName record)), store)
  | toMap =>
    let (ref, store) := TrackedRecord.toMap record store
    (.ok (.map ref), store)
  | fields => textList store (store.fields record).keys

/-- A method of a text. -/
def TextMethod.call (method : TextMethod) (text : String) (name : String) (arguments : List Value)
    (store : Store) : Outcome :=
  let chars := text.toList
  match method with
  | length => (.ok (.ofNat chars.length), store)
  | isEmpty => (.ok (.bool chars.isEmpty), store)
  | upper => (.ok (.str (String.ofList (Text.upper chars))), store)
  | lower => (.ok (.str (String.ofList (Text.lower chars))), store)
  | trim => (.ok (.str (String.ofList (Text.trim chars))), store)
  | capitalize => (.ok (.str (String.ofList (Text.capitalize chars))), store)
  | contains => unchanged store do
    return .bool (Text.occurs (← textArgument arguments 0 name store) chars)
  | startsWith => unchanged store do
    return .bool ((← textArgument arguments 0 name store).isPrefixOf chars)
  | endsWith => unchanged store do
    return .bool ((← textArgument arguments 0 name store).isSuffixOf chars)
  | split =>
    match textArgument arguments 0 name store with
    | .ok separator => textList store ((Text.split separator chars).map String.ofList)
    | .error error => (.error error, store)
  | replace => unchanged store do
    let part ← textArgument arguments 0 name store
    let replacement ← textArgument arguments 1 name store
    return .str (String.ofList (Text.replace part replacement chars))

/-- The number of places a number is written with: between 0 and 17. -/
def placesArgument (arguments : List Value) (name : String) : Except Error Nat := do
  return min (← intArgument arguments 0 name).toNat 17

/-- A method of an integer. -/
def NumberMethod.callInt (method : NumberMethod) (number : Int64) (name : String)
    (arguments : List Value) : Except Error Value :=
  match method with
  | absolute => .ok (.int (Int64.ofInt (min (number.toInt.natAbs : Int) Integer.greatest)))
  | round | floor | ceil => .ok (.int number)
  | format => do
    return .str (Decimal.fixed (← placesArgument arguments name) number.toFloat)

/-- A method of a floating-point number; a half is rounded away from zero. -/
def NumberMethod.callFloat (method : NumberMethod) (number : Float) (name : String)
    (arguments : List Value) : Except Error Value :=
  match method with
  | absolute => .ok (.float number.abs)
  | round => .ok (.int number.round.toInt64)
  | floor => .ok (.int number.floor.toInt64)
  | ceil => .ok (.int number.ceil.toInt64)
  | format => do
    return .str (Decimal.fixed (← placesArgument arguments name) number)

/-- A method with its receiver. -/
def Method.call (method : Method) (receiver : Value) (name : String) (arguments : List Value)
    (store : Store) : Outcome :=
  match method with
  | common method => (.ok (method.call receiver store), store)
  | ofNil method => (.ok method.call, store)
  | ofList list method => method.call list name arguments store
  | ofMap map method => method.call map name arguments store
  | ofRecord record method => method.call record store
  | ofText text method => method.call text name arguments store
  | ofInt number method => (method.callInt number name arguments, store)
  | ofFloat number method => (method.callFloat number name arguments, store)

/-- Calls a method by its name. -/
def callMethod (receiver : Value) (name : String) (arguments : List Value) (store : Store) :
    Outcome :=
  if name ∈ writingNames then
    (.error (.eval (ticked name ++ " modifies its receiver and cannot be called from a template")),
      store)
  else
    match methodOf? receiver name with
    | some method => method.call receiver name arguments store
    | none => (.error (.eval (receiver.typeName ++ " has no method " ++ ticked name)), store)

/-- The field of a value: an entry or a field, and otherwise a method without arguments. -/
def readField (target : Value) (name : String) (store : Store) : Outcome :=
  match target with
  | .nil => (.ok .nil, store)
  | .map map =>
    match TrackedMap.get map name store with
    | (some value, store) => (.ok value, store)
    | (none, store) =>
      match callMethod target name [] store with
      | (.ok value, store) => (.ok value, store)
      | (.error _, store) => (.ok .nil, store)
  | .record record =>
    match TrackedRecord.get record name store with
    | (some value, store) => (.ok value, store)
    | (none, store) =>
      match callMethod target name [] store with
      | (.ok value, store) => (.ok value, store)
      | (.error _, store) => (.error (.unknownField (store.recordName record) name), store)
  | target => callMethod target name [] store

/-- The character of a text at an index, as a text; a negative index counts from the end. -/
def textItem (text : String) (index : Int) : Value :=
  let chars := text.toList
  let index := if index < 0 then chars.length + index else index
  if index < 0 then .nil
  else (chars[index.toNat]?.map fun c => Value.str (String.singleton c)).getD .nil

/-- What a value holds at an index or under a key. -/
def readIndex (target index : Value) (store : Store) : Outcome :=
  match target, index with
  | .nil, _ => (.ok .nil, store)
  | .list list, .int place => orNil (TrackedList.item list place.toInt store)
  | .map map, key => orNil (TrackedMap.get map (key.text store) store)
  | .record record, key => orNil (TrackedRecord.get record (key.text store) store)
  | .str text, .int place => (.ok (textItem text place.toInt), store)
  | target, index =>
    (.error (.eval ("cannot index " ++ target.typeName ++ " with " ++ index.typeName)), store)

end ReactiveView.Render
