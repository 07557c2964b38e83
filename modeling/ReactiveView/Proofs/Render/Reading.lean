/-
**Templates read and make, and never write.**

Whatever an expression looks up, calls as a method or computes, every list, map and record that was
there holds what it held and keeps its bindings. At most bindings pass on and new nodes come.

* `peruses_readField`, `peruses_readIndex`, `peruses_callMethod` — looking into a value.
* `peruses_binary` — operators.
-/

import ReactiveView.Proofs.Tracked.Flow
import ReactiveView.Render.Method

namespace ReactiveView

/-! ### Lists, maps and records -/

namespace TrackedList

theorem peruses_get (list : Ref) (index : Nat) (store : Store) :
    store.Peruses (get list index store).2 := by
  unfold get
  split
  · exact Store.peruses_inherit ..
  · exact .refl store

theorem peruses_item (list : Ref) (index : Int) (store : Store) :
    store.Peruses (item list index store).2 := by
  unfold item
  generalize (if index < 0 then ((store.items list).length : Int) + index else index) = place
  simp only
  split
  · exact .refl store
  · exact peruses_get ..

theorem peruses_last (list : Ref) (store : Store) : store.Peruses (last list store).2 := by
  unfold last
  split
  · exact .refl store
  · exact peruses_get ..

theorem peruses_iterate (list : Ref) (store : Store) : store.Peruses (iterate list store).2 :=
  Store.peruses_inheritAll ..

theorem peruses_derive (list : Ref) (items : List Value) (store : Store) :
    store.Peruses (derive list items store).2 := Store.peruses_derive ..

theorem peruses_filter (list : Ref) (keep : Value → Bool) (store : Store) :
    store.Peruses (filter list keep store).2 := (peruses_iterate list store).trans (peruses_derive ..)

end TrackedList

namespace TrackedMap

theorem peruses_get (map : Ref) (key : String) (store : Store) :
    store.Peruses (get map key store).2 := by
  unfold get
  split
  · exact Store.peruses_inherit ..
  · exact .refl store

theorem peruses_iterate (map : Ref) (store : Store) : store.Peruses (iterate map store).2 :=
  Store.peruses_inheritAll ..

end TrackedMap

namespace TrackedRecord

theorem peruses_get (record : Ref) (field : String) (store : Store) :
    store.Peruses (get record field store).2 := by
  unfold get
  split
  · exact Store.peruses_inherit ..
  · exact .refl store

theorem peruses_toMap (record : Ref) (store : Store) : store.Peruses (toMap record store).2 :=
  Store.peruses_derive ..

end TrackedRecord

namespace Store

theorem peruses_newList (store : Store) (items : List Value) : store.Peruses (store.newList items).2 :=
  peruses_make ..

theorem peruses_newMap (store : Store) (entries : OrderedMap String Value) :
    store.Peruses (store.newMap entries).2 := peruses_make ..

end Store

namespace Render

/-! ### Operators -/

theorem peruses_binary (op : BinaryOp) (limit : Nat) (left right : Value) (store : Store) :
    store.Peruses (binary op limit left right store).2 := by
  cases op with
  | eq | ne | and | or => exact .refl store
  | comparison op =>
    simp only [binary]
    split <;> exact .refl store
  | arithmetic op =>
    cases op with
    | add =>
      simp only [binary, sum]
      split
      · exact .refl store
      · exact .refl store
      · exact ((TrackedList.peruses_iterate ..).trans (TrackedList.peruses_iterate ..)).trans
          (Store.peruses_newList ..)
      · exact ((TrackedMap.peruses_iterate ..).trans (TrackedMap.peruses_iterate ..)).trans
          (Store.peruses_newMap ..)
      · exact .refl store
    | _ => exact .refl store

/-! ### Methods -/

theorem peruses_textList (store : Store) (texts : List String) :
    store.Peruses (textList store texts).2 := Store.peruses_newList ..

theorem peruses_listMethod (method : ListMethod) (list : Ref) (name : String)
    (arguments : List Value) (store : Store) :
    store.Peruses (method.call list name arguments store).2 := by
  cases method with
  | length | isEmpty | contains | position | join => exact .refl store
  | first => exact TrackedList.peruses_get ..
  | last => exact TrackedList.peruses_last ..
  | item =>
    simp only [ListMethod.call]
    split
    · exact TrackedList.peruses_item ..
    · exact .refl store
  | slice =>
    simp only [ListMethod.call]
    split
    · exact TrackedList.peruses_derive ..
    · exact .refl store
  | reversed | sorted => exact TrackedList.peruses_derive ..
  | compact => exact TrackedList.peruses_filter ..

theorem peruses_mapMethod (method : MapMethod) (map : Ref) (name : String) (arguments : List Value)
    (store : Store) : store.Peruses (method.call map name arguments store).2 := by
  cases method with
  | length | isEmpty | hasKey => exact .refl store
  | get =>
    simp only [MapMethod.call]
    split
    · exact TrackedMap.peruses_get ..
    · exact .refl store
  | keys => exact peruses_textList ..
  | values => exact (TrackedMap.peruses_iterate ..).trans (Store.peruses_newList ..)

theorem peruses_textMethod (method : TextMethod) (text : String) (name : String)
    (arguments : List Value) (store : Store) :
    store.Peruses (method.call text name arguments store).2 := by
  cases method with
  | split =>
    simp only [TextMethod.call]
    split
    · exact peruses_textList ..
    · exact .refl store
  | _ => exact .refl store

theorem peruses_callMethod (receiver : Value) (name : String) (arguments : List Value)
    (store : Store) : store.Peruses (callMethod receiver name arguments store).2 := by
  unfold callMethod
  split
  · exact .refl store
  split
  · next method _ =>
    cases method with
    | common _ | ofNil _ | ofInt _ _ | ofFloat _ _ => exact .refl store
    | ofList list method => exact peruses_listMethod ..
    | ofMap map method => exact peruses_mapMethod ..
    | ofRecord record method =>
      cases method with
      | typeName => exact .refl store
      | toMap => exact TrackedRecord.peruses_toMap ..
      | fields => exact peruses_textList ..
    | ofText text method => exact peruses_textMethod ..
  · exact .refl store

/-! ### Looking into a value -/

theorem peruses_readField (target : Value) (name : String) (store : Store) :
    store.Peruses (readField target name store).2 := by
  cases target with
  | nil => exact .refl store
  | map map =>
    simp only [readField]
    have got := TrackedMap.peruses_get map name store
    generalize TrackedMap.get map name store = found at got ⊢
    obtain ⟨value, once⟩ := found
    cases value with
    | some value => exact got
    | none =>
      have called := peruses_callMethod (.map map) name [] once
      simp only
      generalize callMethod (.map map) name [] once = result at called ⊢
      obtain ⟨result, twice⟩ := result
      cases result <;> exact got.trans called
  | record record =>
    simp only [readField]
    have got := TrackedRecord.peruses_get record name store
    generalize TrackedRecord.get record name store = found at got ⊢
    obtain ⟨value, once⟩ := found
    cases value with
    | some value => exact got
    | none =>
      have called := peruses_callMethod (.record record) name [] once
      simp only
      generalize callMethod (.record record) name [] once = result at called ⊢
      obtain ⟨result, twice⟩ := result
      cases result <;> exact got.trans called
  | _ => exact peruses_callMethod ..

theorem peruses_readIndex (target index : Value) (store : Store) :
    store.Peruses (readIndex target index store).2 := by
  unfold readIndex
  split
  · exact .refl store
  · exact TrackedList.peruses_item ..
  · exact TrackedMap.peruses_get ..
  · exact TrackedRecord.peruses_get ..
  · exact .refl store
  · exact .refl store

end Render

end ReactiveView
