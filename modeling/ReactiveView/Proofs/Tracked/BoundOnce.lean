/-
**No node has a binding twice.**

Bindings come to a node with the node, which takes them from another one, or one by one, where a binding
that is there is not added again. All else that is done to a store takes bindings off. So no
operation and no program gives a node a binding twice.

* `Store.BoundOnce` — each node has each of its bindings once.
* `Store.BoundOnce.run`, `Store.BoundOnce.runAlone` — operations and programs keep it.
-/

import ReactiveView.Proofs.Tracked.OperationFlow

namespace ReactiveView

/-- **Each node has each of its bindings once.** -/
def Store.BoundOnce (store : Store) : Prop := ∀ ref, (store.bindings ref).Nodup

namespace Store

theorem nodup_addBinding {own : List Binding} (once : own.Nodup) (binding : Binding) :
    (addBinding own binding).Nodup := by
  unfold addBinding
  split
  · exact once
  · next absent => exact List.nodup_append.mpr ⟨once, List.nodup_singleton binding, by
      rintro member here _ new rfl
      exact absent (List.mem_singleton.mp new ▸ here)⟩

theorem nodup_foldl_addBinding {own : List Binding} (once : own.Nodup) (inherited : List Binding) :
    (inherited.foldl addBinding own).Nodup := by
  induction inherited generalizing own with
  | nil => exact once
  | cons first rest ih => exact ih (nodup_addBinding once first)

theorem boundOnce_empty : BoundOnce .empty := fun _ => List.nodup_nil

namespace BoundOnce

variable {store after : Store}

/-- What each step of a fold keeps, the fold keeps. -/
theorem foldl {α : Type} {f : Store → α → Store}
    (each : ∀ (store : Store) (item : α), store.BoundOnce → (f store item).BoundOnce) (items : List α)
    (once : store.BoundOnce) : (items.foldl f store).BoundOnce := by
  induction items generalizing store with
  | nil => exact once
  | cons item rest ih => exact ih (each store item once)

/-! ### One node -/

/-- Observers and changesets have nothing to do with it. -/
theorem of_nodes (once : store.BoundOnce) (nodes : after.nodes = store.nodes) : after.BoundOnce := by
  intro ref
  rw [Store.bindings, nodes]
  exact once ref

theorem modifyBindings (once : store.BoundOnce) (target : Ref) {f : List Binding → List Binding}
    (keeps : ∀ bindings : List Binding, bindings.Nodup → (f bindings).Nodup) :
    (store.modifyBindings target f).BoundOnce := by
  intro ref
  by_cases same : ref = target
  · subst same
    by_cases inside : ref < store.nodes.size
    · rw [bindings_modifyBindings_self _ _ _ inside]
      exact keeps _ (once ref)
    · rw [bindings_of_size_le (by simpa [Store.modifyBindings] using inside)]
      exact List.nodup_nil
  · rw [bindings_modifyBindings_of_ne _ same]
    exact once ref

theorem filter (once : store.BoundOnce) (target : Ref) (keep : Binding → Bool) :
    (store.modifyBindings target fun own => own.filter keep).BoundOnce :=
  once.modifyBindings target fun _ nodup => nodup.filter _

theorem newNode (once : store.BoundOnce) (content : Content) {bindings : List Binding}
    (nodup : bindings.Nodup) : (store.newNode content bindings).2.BoundOnce := by
  intro ref
  by_cases new : ref = store.nodes.size
  · have given : (store.newNode content bindings).2.bindings ref = bindings := by
      simp [Store.newNode, Store.bindings, new]
    rw [given]
    exact nodup
  · have old : (store.newNode content bindings).2.bindings ref = store.bindings ref := by
      simp [Store.newNode, Store.bindings, Array.getElem?_push, new]
    rw [old]
    exact once ref

/-! ### Reading, making and writing -/

theorem inherit (once : store.BoundOnce) (value : Value) (inherited : List Binding) :
    (store.inherit value inherited).BoundOnce := by
  unfold Store.inherit
  split
  · exact once.modifyBindings _ fun _ nodup => nodup_foldl_addBinding nodup inherited
  · exact once

theorem inheritAll (once : store.BoundOnce) (values : List Value) (inherited : List Binding) :
    (store.inheritAll values inherited).BoundOnce :=
  once.foldl (fun _ value once => once.inherit value inherited) values

theorem handing (once : store.BoundOnce) (origin : Ref) (found : Option Value) :
    (store.handing origin found).2.BoundOnce := by
  cases found with
  | none => exact once
  | some value => exact once.inherit value _

theorem make (once : store.BoundOnce) (content : Content) : (store.make content).2.BoundOnce :=
  once.newNode content List.nodup_nil

theorem derive (once : store.BoundOnce) (origin : Ref) (content : Content) :
    (store.derive origin content).2.BoundOnce := once.newNode content (once origin)

theorem mutate (once : store.BoundOnce) (target : Ref) (content : Content) :
    (store.mutate target content).BoundOnce := by
  have written : (store.setContent target content).BoundOnce := by
    intro ref
    rw [bindings_setContent]
    exact once ref
  exact (written.of_nodes (notifyAll_frame ..).1).filter target _

theorem detach (once : store.BoundOnce) (value : Value) (observer : ObserverId) (name : String) :
    (store.detach value observer name).BoundOnce := by
  unfold Store.detach
  split
  · exact once.filter _ _
  · exact once

theorem detachObserver (once : store.BoundOnce) (value : Value) (observer : ObserverId) :
    (store.detachObserver value observer).BoundOnce := by
  unfold Store.detachObserver
  split
  · exact once.filter _ _
  · exact once

mutual

theorem ofJson {store : Store} (once : store.BoundOnce) : ∀ json : Json, (Value.ofJson store json).2.BoundOnce
  | .null | .bool _ | .int _ | .float _ | .string _ => once
  | .array items => (once.ofJsonItems items).make _
  | .object members => (once.ofJsonMembers members).make _

theorem ofJsonItems {store : Store} (once : store.BoundOnce) : ∀ items : List Json,
    (Value.ofJsonItems store items).2.BoundOnce
  | [] => once
  | item :: rest => (once.ofJson item).ofJsonItems rest

theorem ofJsonMembers {store : Store} (once : store.BoundOnce) : ∀ members : List (String × Json),
    (Value.ofJsonMembers store members).2.BoundOnce
  | [] => once
  | (_, member) :: rest => (once.ofJson member).ofJsonMembers rest

end

/-- **No operation gives a node a binding twice.** -/
theorem run (once : store.BoundOnce) (operation : Operation) : (operation.run store).2.BoundOnce := by
  have handed {origin : Ref} {answer : Option Value × Store}
      (same : ∃ found, answer = store.handing origin found) : answer.2.BoundOnce := by
    obtain ⟨found, rfl⟩ := same
    exact once.handing origin found
  cases operation with
  | newList | newMap | newRecord => exact once.make _
  | newJson json => exact once.ofJson json
  | listItem list index => exact handed (TrackedList.item_eq_handing list index store)
  | listFirst list => exact handed ⟨_, TrackedList.get_eq_handing list 0 store⟩
  | listLast list => exact handed (TrackedList.last_eq_handing list store)
  | mapGet map key => exact handed ⟨_, TrackedMap.get_eq_handing map key store⟩
  | recordGet record field => exact handed ⟨_, TrackedRecord.get_eq_handing record field store⟩
  | listIterate | listFind | mapIterate => exact once.inheritAll _ _
  | listSlice list | listDerive list | listReversed list | listSorted list => exact once.derive list _
  | recordToMap record => exact once.derive record _
  | listFilter list => exact (once.inheritAll _ _).derive list _
  | mapSelect map => exact (once.inheritAll _ _).derive map _
  | recordSet record field value =>
    simp only [Operation.run, TrackedRecord.set]
    cases (store.fields record).get? field with
    | none => exact once
    | some old => exact once.mutate record _
  | _ => exact once.mutate _ _

/-- **Nor does any program.** -/
theorem runAlone {α : Type} (once : store.BoundOnce) (program : Program Empty α) :
    (program.runAlone store).2.BoundOnce := by
  induction program generalizing store with
  | done result => exact once
  | look next ih => exact ih store once
  | perform operation next ih => exact ih _ (once.run operation)
  | keep name value next ih => exact ih (once.of_nodes rfl)
  | ask question => exact nomatch question

end BoundOnce

end Store

end ReactiveView
