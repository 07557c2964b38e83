/-
**Tracked lists.**

Reading never marks anything. What is read out of a list, and every list made from it, carries the
bindings of the list, so that writing to it marks the same names. Every writing operation marks each
name once, also if it leaves the items as they were.

* `sortBy` — stable: items that compare equal keep their order.
* `content_iterate` — reading changes what no node holds.
-/

import ReactiveView.Tracked.Tree

namespace ReactiveView.TrackedList

/-! ### Reading -/

/-- The item at an index, carrying the bindings of the list. -/
def get (list : Ref) (index : Nat) (store : Store) : Option Value × Store :=
  match (store.items list)[index]? with
  | some value => (some value, store.inherit value (store.bindings list))
  | none => (none, store)

/-- The item at an index; a negative index counts from the end. -/
def item (list : Ref) (index : Int) (store : Store) : Option Value × Store :=
  let index := if index < 0 then (store.items list).length + index else index
  if index < 0 then (none, store) else get list index.toNat store

/-- The first item. -/
def first (list : Ref) (store : Store) : Option Value × Store := get list 0 store

/-- The last item. -/
def last (list : Ref) (store : Store) : Option Value × Store :=
  match (store.items list).length with
  | 0 => (none, store)
  | before + 1 => get list before store

/-- All items, each carrying the bindings of the list. -/
def iterate (list : Ref) (store : Store) : List Value × Store :=
  let items := store.items list
  (items, store.inheritAll items (store.bindings list))

/-- The place of the first item that equals a value. -/
def position (list : Ref) (value : Value) (store : Store) : Option Nat :=
  (store.items list).findIdx? fun item => item.same store value

/-- Whether an item equals a value. -/
def contains (list : Ref) (value : Value) (store : Store) : Bool :=
  (position list value store).isSome

/-- The texts of the items with a separator between neighbours. -/
def join (list : Ref) (separator : String) (store : Store) : String :=
  String.intercalate separator ((store.items list).map fun item => item.text store)

/-! ### Lists made from a list -/

/-- A new list with the bindings of `list`. -/
def derive (list : Ref) (items : List Value) (store : Store) : Ref × Store :=
  store.derive list (.list items)

/-- The items from `start` up to, not including, `stop`; both ends are cut to the list. -/
def slice (list : Ref) (start : Nat) (stop : Option Nat) (store : Store) : Ref × Store :=
  let items := store.items list
  derive list ((items.take (stop.getD items.length)).drop start) store

/-- The items for which `keep` holds, each carrying the bindings of the list. -/
def filter (list : Ref) (keep : Value → Bool) (store : Store) : Ref × Store :=
  let (items, store) := iterate list store
  derive list (items.filter keep) store

/-- The first item for which `wanted` holds; all items carry the bindings of the list afterwards. -/
def find (list : Ref) (wanted : Value → Bool) (store : Store) : Option Value × Store :=
  let (items, store) := iterate list store
  (items.find? wanted, store)

/-- The items backwards. -/
def reversed (list : Ref) (store : Store) : Ref × Store :=
  derive list (store.items list).reverse store

/-- Puts a value into a sorted list read from its end, behind all items it is not less than. -/
def insertBack (isLess : Value → Value → Bool) (value : Value) : List Value → List Value
  | [] => [value]
  | greatest :: rest =>
    if isLess value greatest then greatest :: insertBack isLess value rest
    else value :: greatest :: rest

/-- Sorts by insertion, so that equal items keep their order. -/
def sortItems (isLess : Value → Value → Bool) (items : List Value) : List Value :=
  (items.foldl (fun sorted value => insertBack isLess value sorted) []).reverse

/-- Whether a value comes before another; values without an order count as equal. -/
def isBefore (left right : Value) : Bool := left.compare right == some .lt

/-- The items in ascending order. -/
def sorted (list : Ref) (store : Store) : Ref × Store :=
  derive list (sortItems isBefore (store.items list)) store

/-! ### Writing -/

/-- Replaces all items and marks every name. -/
def write (list : Ref) (items : List Value) (store : Store) : Store :=
  store.mutate list (.list items)

/-- Adds an item at the end. -/
def push (list : Ref) (value : Value) (store : Store) : Store :=
  write list (store.items list ++ [value]) store

/-- Takes the last item off. -/
def pop (list : Ref) (store : Store) : Option Value × Store :=
  let items := store.items list
  (items.getLast?, write list items.dropLast store)

/-- A list made at least `length` items long by adding `nil`. -/
def padded (items : List Value) (length : Nat) : List Value :=
  items ++ List.replicate (length - items.length) Value.nil

/-- Puts an item in front of the one at `index`; a gap before it is filled with `nil`. -/
def insert (list : Ref) (index : Nat) (value : Value) (store : Store) : Store :=
  let items := padded (store.items list) index
  write list (items.take index ++ value :: items.drop index) store

/-- Takes out the item at `index`, if there is one. -/
def remove (list : Ref) (index : Nat) (store : Store) : Option Value × Store :=
  let items := store.items list
  (items[index]?, write list (items.eraseIdx index) store)

/-- Replaces the item at `index`; a gap before it is filled with `nil`. -/
def set (list : Ref) (index : Nat) (value : Value) (store : Store) : Option Value × Store :=
  let items := store.items list
  (items[index]?, write list ((padded items (index + 1)).set index value) store)

/-- Takes out all items. -/
def clear (list : Ref) (store : Store) : Store := write list [] store

/-- Takes out the items from `length` on. -/
def truncate (list : Ref) (length : Nat) (store : Store) : Store :=
  write list ((store.items list).take length) store

/-- Adds several items at the end. -/
def extend (list : Ref) (values : List Value) (store : Store) : Store :=
  write list (store.items list ++ values) store

/-- Adds the items of another list at the end. -/
def concat (list other : Ref) (store : Store) : Store := extend list (store.items other) store

/-- Takes out the items for which `keep` does not hold. -/
def retain (list : Ref) (keep : Value → Bool) (store : Store) : Store :=
  write list ((store.items list).filter keep) store

/-- Puts the items into the order in which `isLess` holds of no later and earlier one. -/
def sortBy (list : Ref) (isLess : Value → Value → Bool) (store : Store) : Store :=
  write list (sortItems isLess (store.items list)) store

/-- Puts the items into ascending order. -/
def sort (list : Ref) (store : Store) : Store := sortBy list isBefore store

/-- Puts the items into the opposite order. -/
def reverse (list : Ref) (store : Store) : Store := write list (store.items list).reverse store

/-! ### What reading leaves alone -/

theorem content_inheritAll (values : List Value) (inherited : List Binding) (store : Store)
    (ref : Ref) : (store.inheritAll values inherited).content ref = store.content ref := by
  induction values generalizing store with
  | nil => rfl
  | cons value rest ih =>
    have step : store.inheritAll (value :: rest) inherited =
        (store.inherit value inherited).inheritAll rest inherited := rfl
    rw [step, ih, Store.content_inherit]

theorem content_iterate (list ref : Ref) (store : Store) :
    (iterate list store).2.content ref = store.content ref := content_inheritAll ..

end ReactiveView.TrackedList
