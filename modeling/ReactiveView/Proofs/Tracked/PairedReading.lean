/-
**Reading lists, maps and records side by side.**

What is read out of paired handles is paired, and so are the lists and maps that are made from
them: a reading operation looks at a node only through what it holds, and at what it holds only
through texts, orders and equality.

* `TrackedList.get_paired`, `TrackedMap.get_paired`, `TrackedRecord.get_paired` — one item.
* `TrackedList.sortItems_paired` — paired items are sorted alike.
* `OrderedMap.Paired.insertAll` — paired entries make paired maps.
-/

import ReactiveView.Proofs.Tracked.Growth
import ReactiveView.Tracked.List
import ReactiveView.Tracked.Make
import ReactiveView.Tracked.Map

namespace ReactiveView

/-! ### Paired scalars -/

namespace Value.Paired

variable {pairing : Pairing} {left right : Value} (paired : left.Paired pairing right)
include paired

theorem isTruthy : left.isTruthy = right.isTruthy := by cases paired <;> rfl

theorem isNil : left.isNil = right.isNil := by cases paired <;> rfl

theorem typeName : left.typeName = right.typeName := by cases paired <;> rfl

theorem asInt? : left.asInt? = right.asInt? := by cases paired <;> rfl

theorem asFloat? : left.asFloat? = right.asFloat? := by cases paired <;> rfl

theorem compare {other opposed : Value} (others : other.Paired pairing opposed) :
    left.compare other = right.compare opposed := by
  cases paired <;> cases others with
  | scalar _ => rfl
  | _ => first | rfl | (cases left <;> rfl)

end Value.Paired

/-! ### Paired lists of values -/

section Lists

variable {α β : Type} {relation : α → β → Prop}

theorem getElem?_of_forall₂ {left : List α} {right : List β}
    (all : List.Forall₂ relation left right) (index : Nat) :
    Option.Rel relation left[index]? right[index]? := by
  induction all generalizing index with
  | nil => exact .none
  | cons here _ ih =>
    cases index with
    | zero => exact .some here
    | succ index => exact ih index

theorem isEmpty_eq_of_forall₂ {left : List α} {right : List β}
    (all : List.Forall₂ relation left right) : left.isEmpty = right.isEmpty := by
  cases all <;> rfl

theorem findIdx?_eq_of_forall₂ {left : List α} {right : List β}
    (all : List.Forall₂ relation left right) {f : α → Bool} {g : β → Bool}
    (same : ∀ first second, relation first second → f first = g second) :
    left.findIdx? f = right.findIdx? g := by
  induction all with
  | nil => rfl
  | cons here _ ih => rw [List.findIdx?_cons, List.findIdx?_cons, same _ _ here, ih]

theorem filter_of_forall₂ {left : List α} {right : List β}
    (all : List.Forall₂ relation left right) {f : α → Bool} {g : β → Bool}
    (same : ∀ first second, relation first second → f first = g second) :
    List.Forall₂ relation (left.filter f) (right.filter g) := by
  induction all with
  | nil => exact .nil
  | cons here _ ih =>
    rw [List.filter_cons, List.filter_cons, same _ _ here]
    split
    · exact .cons here ih
    · exact ih

end Lists

namespace OrderedMap.Paired

variable {pairing : Pairing}

theorem put {left right : List (String × Value)}
    (all : List.Forall₂ (EntryPaired pairing) left right) (key : String) {value other : Value}
    (values : value.Paired pairing other) :
    List.Forall₂ (EntryPaired pairing) (OrderedMap.put key value left)
      (OrderedMap.put key other right) := by
  induction all with
  | nil => exact .cons ⟨rfl, values⟩ .nil
  | @cons first second _ _ entry rest ih =>
    simp only [OrderedMap.put, entry.1]
    split
    · exact .cons ⟨rfl, values⟩ rest
    · exact .cons ⟨rfl, entry.2⟩ ih

theorem insert {left right : OrderedMap String Value} (paired : left.Paired pairing right)
    (key : String) {value other : Value} (values : value.Paired pairing other) :
    (left.insert key value).Paired pairing (right.insert key other) := put paired key values

/-- Paired entries make paired maps. -/
theorem insertAll {pairs others : List (String × Value)}
    (all : List.Forall₂ (EntryPaired pairing) pairs others) {left right : OrderedMap String Value}
    (paired : left.Paired pairing right) :
    (left.insertAll pairs).Paired pairing (right.insertAll others) := by
  induction all generalizing left right with
  | nil => exact paired
  | @cons first second _ _ entry _ ih =>
    have inserted :
        (left.insert first.1 first.2).Paired pairing (right.insert second.1 second.2) := by
      rw [entry.1]
      exact paired.insert second.1 entry.2
    exact ih inserted

theorem ofList {pairs others : List (String × Value)}
    (all : List.Forall₂ (EntryPaired pairing) pairs others) :
    (OrderedMap.ofList pairs).Paired pairing (OrderedMap.ofList others) :=
  insertAll all List.Forall₂.nil

end OrderedMap.Paired

/-! ### Lists -/

namespace TrackedList

variable {pairing : Pairing} {left right : Store} {first second : Ref}

/-- An item, or none, and the stores after it. -/
theorem get_paired (paired : Store.Paired pairing left right) (refs : pairing first second)
    (index : Nat) :
    Option.Rel (Value.Paired pairing) (get first index left).1 (get second index right).1 ∧
      Store.Advance pairing left right pairing (get first index left).2
        (get second index right).2 := by
  have found := getElem?_of_forall₂ (paired.items refs) index
  unfold get
  generalize (left.items first)[index]? = value, (right.items second)[index]? = other at found ⊢
  cases found with
  | none => exact ⟨.none, .refl paired⟩
  | some values => exact ⟨.some values, .inherit paired ..⟩

theorem item_paired (paired : Store.Paired pairing left right) (refs : pairing first second)
    (index : Int) :
    Option.Rel (Value.Paired pairing) (item first index left).1 (item second index right).1 ∧
      Store.Advance pairing left right pairing (item first index left).2
        (item second index right).2 := by
  unfold item
  rw [(paired.items refs).length_eq]
  generalize (if index < 0 then ((right.items second).length : Int) + index else index) = place
  simp only
  split
  · exact ⟨.none, .refl paired⟩
  · exact get_paired paired refs _

theorem last_paired (paired : Store.Paired pairing left right) (refs : pairing first second) :
    Option.Rel (Value.Paired pairing) (last first left).1 (last second right).1 ∧
      Store.Advance pairing left right pairing (last first left).2 (last second right).2 := by
  unfold last
  rw [(paired.items refs).length_eq]
  split
  · exact ⟨.none, .refl paired⟩
  · exact get_paired paired refs _

theorem iterate_paired (paired : Store.Paired pairing left right) (refs : pairing first second) :
    List.Forall₂ (Value.Paired pairing) (iterate first left).1 (iterate second right).1 ∧
      Store.Advance pairing left right pairing (iterate first left).2 (iterate second right).2 :=
  ⟨paired.items refs, .inheritAll paired ..⟩

theorem position_eq_of_paired (paired : Store.Paired pairing left right)
    (refs : pairing first second) {value other : Value} (values : value.Paired pairing other) :
    position first value left = position second other right :=
  findIdx?_eq_of_forall₂ (paired.items refs) fun _ _ item =>
    Value.same_eq_of_paired paired item values

theorem join_eq_of_paired (paired : Store.Paired pairing left right) (refs : pairing first second)
    (separator : String) : join first separator left = join second separator right := by
  unfold join
  rw [map_eq_of_forall₂ (paired.items refs) fun _ _ item => Value.text_eq_of_paired paired item]

theorem insertBack_paired {items others : List Value}
    (all : List.Forall₂ (Value.Paired pairing) items others) {value other : Value}
    (values : value.Paired pairing other) :
    List.Forall₂ (Value.Paired pairing) (insertBack isBefore value items)
      (insertBack isBefore other others) := by
  induction all with
  | nil => exact .cons values .nil
  | cons greatest rest ih =>
    unfold insertBack isBefore
    rw [values.compare greatest]
    split
    · exact .cons greatest ih
    · exact .cons values (.cons greatest rest)

/-- Paired items are sorted alike. -/
theorem sortItems_paired {items others : List Value}
    (all : List.Forall₂ (Value.Paired pairing) items others) :
    List.Forall₂ (Value.Paired pairing) (sortItems isBefore items) (sortItems isBefore others) := by
  have sorted : ∀ {front opposed : List Value}, List.Forall₂ (Value.Paired pairing) front opposed →
      List.Forall₂ (Value.Paired pairing)
        (items.foldl (fun sorted value => insertBack isBefore value sorted) front)
        (others.foldl (fun sorted value => insertBack isBefore value sorted) opposed) := by
    induction all with
    | nil => exact id
    | cons here _ ih => exact fun fronts => ih (insertBack_paired fronts here)
  exact List.rel_reverse (sorted .nil)

/-- A list made from paired items. -/
theorem derive_paired (paired : Store.Paired pairing left right) {items others : List Value}
    (all : List.Forall₂ (Value.Paired pairing) items others) :
    ∃ larger, Store.Advance pairing left right larger (derive first items left).2
        (derive second others right).2 ∧
      larger (derive first items left).1 (derive second others right).1 :=
  ⟨_, .newNode paired (.list all) _ _, Or.inr ⟨rfl, rfl⟩⟩

end TrackedList

/-! ### Maps and records -/

namespace TrackedMap

variable {pairing : Pairing} {left right : Store} {first second : Ref}

theorem get_paired (paired : Store.Paired pairing left right) (refs : pairing first second)
    (key : String) :
    Option.Rel (Value.Paired pairing) (get first key left).1 (get second key right).1 ∧
      Store.Advance pairing left right pairing (get first key left).2 (get second key right).2 := by
  have found := (paired.entries refs).get? key
  unfold get
  generalize (left.entries first).get? key = value, (right.entries second).get? key = other
    at found ⊢
  cases found with
  | none => exact ⟨.none, .refl paired⟩
  | some values => exact ⟨.some values, .inherit paired ..⟩

theorem iterate_paired (paired : Store.Paired pairing left right) (refs : pairing first second) :
    List.Forall₂ (EntryPaired pairing) (iterate first left).1 (iterate second right).1 ∧
      Store.Advance pairing left right pairing (iterate first left).2 (iterate second right).2 :=
  ⟨paired.entries refs, .inheritAll paired ..⟩

end TrackedMap

namespace TrackedRecord

variable {pairing : Pairing} {left right : Store} {first second : Ref}

theorem get_paired (paired : Store.Paired pairing left right) (refs : pairing first second)
    (field : String) :
    Option.Rel (Value.Paired pairing) (get first field left).1 (get second field right).1 ∧
      Store.Advance pairing left right pairing (get first field left).2
        (get second field right).2 := by
  have found := (paired.fields refs).get? field
  unfold get
  generalize (left.fields first).get? field = value, (right.fields second).get? field = other
    at found ⊢
  cases found with
  | none => exact ⟨.none, .refl paired⟩
  | some values => exact ⟨.some values, .inherit paired ..⟩

theorem toMap_paired (paired : Store.Paired pairing left right) (refs : pairing first second) :
    ∃ larger, Store.Advance pairing left right larger (toMap first left).2 (toMap second right).2 ∧
      larger (toMap first left).1 (toMap second right).1 :=
  ⟨_, .newNode paired (.map (paired.fields refs)) _ _, Or.inr ⟨rfl, rfl⟩⟩

end TrackedRecord

/-! ### New lists and maps -/

namespace Store

variable {pairing : Pairing} {left right : Store}

theorem newList_paired (paired : Store.Paired pairing left right) {items others : List Value}
    (all : List.Forall₂ (Value.Paired pairing) items others) :
    ∃ larger, Store.Advance pairing left right larger (left.newList items).2
      (right.newList others).2 ∧ (left.newList items).1.Paired larger (right.newList others).1 :=
  ⟨_, .newNode paired (.list all) _ _, .list (Or.inr ⟨rfl, rfl⟩)⟩

theorem newMap_paired (paired : Store.Paired pairing left right)
    {entries others : OrderedMap String Value} (all : entries.Paired pairing others) :
    ∃ larger, Store.Advance pairing left right larger (left.newMap entries).2
      (right.newMap others).2 ∧ (left.newMap entries).1.Paired larger (right.newMap others).1 :=
  ⟨_, .newNode paired (.map all) _ _, .map (Or.inr ⟨rfl, rfl⟩)⟩

end Store

end ReactiveView
