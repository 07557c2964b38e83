/-
**Texts that are not too long.**

A limit on the size of texts is kept where no value is a longer text, and no key and no type name is
longer. A store that keeps it still does after reading, and gives out values that do; so does one with a
new list or map of such values.

* `Value.Short`, `Store.Short` — a limit is kept.
* `Obtains` — what is read out of a store, and the store after it, keep the limit.
* `Store.Short.newList`, `Store.Short.derive` — new nodes of short values.
-/

import ReactiveView.Proofs.Data.Entries
import ReactiveView.Proofs.Tracked.OperationFlow

namespace ReactiveView

variable {limit : Nat}

/-! ### Values and what nodes hold -/

/-- A value that is no text longer than the limit. -/
def Value.Short (limit : Nat) : Value → Prop
  | .str text => text.utf8ByteSize ≤ limit
  | _ => True

instance (limit : Nat) : (value : Value) → Decidable (value.Short limit)
  | .str text => inferInstanceAs (Decidable (text.utf8ByteSize ≤ limit))
  | .nil | .bool _ | .int _ | .float _ | .list _ | .map _ | .record _ => isTrue trivial

/-- A map in which no key is longer than the limit, and no value. -/
def OrderedMap.Short (limit : Nat) (map : OrderedMap String Value) : Prop :=
  ∀ ⦃key value⦄, (key, value) ∈ map.entries → key.utf8ByteSize ≤ limit ∧ value.Short limit

/-- What a node holds, if no text in it is longer than the limit. -/
def Content.Short (limit : Nat) : Content → Prop
  | .list items => ∀ value ∈ items, value.Short limit
  | .map entries => entries.Short limit
  | .record name fields => name.utf8ByteSize ≤ limit ∧ fields.Short limit

/-- **A store without a text that is longer than the limit.** -/
def Store.Short (limit : Nat) (store : Store) : Prop := ∀ ref, (store.content ref).Short limit

theorem Value.short_getD {found : Option Value} (short : ∀ value ∈ found, value.Short limit) :
    (found.getD .nil).Short limit := by
  cases found with
  | none => trivial
  | some value => exact short value rfl

namespace OrderedMap

variable {map : OrderedMap String Value}

theorem short_empty : (empty : OrderedMap String Value).Short limit := nofun

theorem Short.get (short : map.Short limit) {key : String} :
    ∀ value ∈ map.get? key, value.Short limit :=
  fun _ found => (short (mem_entries_iff.mpr found)).2

theorem Short.key (short : map.Short limit) {key : String} (member : key ∈ map.keys) :
    key.utf8ByteSize ≤ limit := by
  obtain ⟨entry, held, rfl⟩ := List.mem_map.mp member
  exact (short held).1

theorem Short.value (short : map.Short limit) {value : Value} (member : value ∈ map.values) :
    value.Short limit := by
  obtain ⟨entry, held, rfl⟩ := List.mem_map.mp member
  exact (short held).2

theorem short_ofList {pairs : List (String × Value)}
    (each : ∀ pair ∈ pairs, pair.1.utf8ByteSize ≤ limit ∧ pair.2.Short limit) :
    (ofList pairs).Short limit :=
  fun _ _ member => each _ (mem_of_get?_ofList (mem_entries_iff.mp member))

end OrderedMap

namespace Store

theorem short_empty : empty.Short limit := fun _ => List.forall_mem_nil _

namespace Short

variable {store : Store} (short : store.Short limit)

include short

/-! ### What a store holds -/

theorem items (list : Ref) : ∀ value ∈ store.items list, value.Short limit := by
  have held := short list
  unfold Store.items
  cases content : store.content list with
  | list items =>
    rw [content] at held
    exact held
  | _ => exact nofun

theorem entries (map : Ref) : (store.entries map).Short limit := by
  have held := short map
  unfold Store.entries
  cases content : store.content map with
  | map entries =>
    rw [content] at held
    exact held
  | _ => exact OrderedMap.short_empty

theorem fields (record : Ref) : (store.fields record).Short limit := by
  have held := short record
  unfold Store.fields
  cases content : store.content record with
  | record name fields =>
    rw [content] at held
    exact held.2
  | _ => exact OrderedMap.short_empty

theorem recordName (record : Ref) : (store.recordName record).utf8ByteSize ≤ limit := by
  have held := short record
  unfold Store.recordName
  cases content : store.content record with
  | record name fields =>
    rw [content] at held
    exact held.1
  | _ => exact Nat.zero_le limit

/-! ### Stores after reading and making -/

theorem inherit (value : Value) (inherited : List Binding) :
    (store.inherit value inherited).Short limit :=
  fun ref => (store.content_inherit value inherited ref).symm ▸ short ref

theorem inheritAll (values : List Value) (inherited : List Binding) :
    (store.inheritAll values inherited).Short limit :=
  fun ref => (TrackedList.content_inheritAll values inherited store ref).symm ▸ short ref

theorem newNode {content : Content} (fits : content.Short limit) (bindings : List Binding) :
    (store.newNode content bindings).2.Short limit := by
  intro ref
  have held : (store.newNode content bindings).2.content ref =
      if ref = store.nodes.size then content else store.content ref := by
    simp only [Store.newNode, Store.content, Array.getElem?_push]
    split <;> rfl
  rw [held]
  split
  · exact fits
  · exact short ref

theorem newList {values : List Value} (each : ∀ value ∈ values, value.Short limit) :
    (store.newList values).2.Short limit :=
  short.newNode (show Content.Short limit (.list values) from each) []

theorem newMap {entries : OrderedMap String Value} (each : entries.Short limit) :
    (store.newMap entries).2.Short limit :=
  short.newNode (show Content.Short limit (.map entries) from each) []

theorem derive (origin : Ref) {content : Content} (fits : content.Short limit) :
    (store.derive origin content).2.Short limit := short.newNode fits _

end Short

end Store

/-! ### Reading -/

/-- **What is read out of a store**, if there is anything, and the store after it, keep the limit. -/
structure Obtains (limit : Nat) (found : Option Value × Store) : Prop where
  store : found.2.Short limit
  value : ∀ value ∈ found.1, value.Short limit

section

variable {store : Store} (short : store.Short limit)

include short

theorem Store.Short.handing (origin : Ref) {found : Option Value}
    (each : ∀ value ∈ found, value.Short limit) : Obtains limit (store.handing origin found) := by
  cases found with
  | none => exact ⟨short, nofun⟩
  | some value => exact ⟨short.inherit value _, each⟩

theorem TrackedList.obtains_get (list : Ref) (index : Nat) : Obtains limit (get list index store) := by
  rw [get_eq_handing]
  exact short.handing list fun value there => short.items list value (List.mem_of_getElem? there)

theorem TrackedList.obtains_item (list : Ref) (index : Int) : Obtains limit (item list index store) := by
  unfold item
  generalize (if index < 0 then ((store.items list).length : Int) + index else index) = place
  simp only
  split
  · exact ⟨short, nofun⟩
  · exact obtains_get short ..

theorem TrackedList.obtains_last (list : Ref) : Obtains limit (last list store) := by
  unfold last
  split
  · exact ⟨short, fun value found => absurd found (Option.not_mem_none value)⟩
  · exact obtains_get short ..

theorem TrackedMap.obtains_get (map : Ref) (key : String) : Obtains limit (get map key store) := by
  rw [get_eq_handing]
  exact short.handing map (short.entries map).get

theorem TrackedRecord.obtains_get (record : Ref) (field : String) :
    Obtains limit (get record field store) := by
  rw [get_eq_handing]
  exact short.handing record (short.fields record).get

end

/-! ### Sorting -/

namespace TrackedList

variable {isLess : Value → Value → Bool}

theorem mem_insertBack {value member : Value} {sorted : List Value}
    (inside : member ∈ insertBack isLess value sorted) : member = value ∨ member ∈ sorted := by
  induction sorted with
  | nil => exact Or.inl (List.mem_singleton.mp inside)
  | cons greatest rest ih =>
    unfold insertBack at inside
    split at inside
    · rcases List.mem_cons.mp inside with rfl | later
      · exact Or.inr List.mem_cons_self
      · exact (ih later).imp_right (List.mem_cons_of_mem _)
    · exact List.mem_cons.mp inside

/-- Sorting makes no items. -/
theorem mem_of_mem_sortItems {items : List Value} {value : Value}
    (member : value ∈ sortItems isLess items) : value ∈ items := by
  have kept : ∀ (items sorted : List Value),
      value ∈ items.foldl (fun sorted value => insertBack isLess value sorted) sorted →
        value ∈ items ∨ value ∈ sorted := by
    intro items
    induction items with
    | nil => exact fun _ => Or.inr
    | cons first rest ih =>
      intro sorted inside
      rcases ih _ inside with later | placed
      · exact Or.inl (List.mem_cons_of_mem _ later)
      · rcases mem_insertBack placed with rfl | earlier
        · exact Or.inl List.mem_cons_self
        · exact Or.inr earlier
  exact (kept items [] (List.mem_reverse.mp member)).resolve_right List.not_mem_nil

end TrackedList

end ReactiveView
