/-
**What the operations on tracked values let flow.**

A reading operation hands values out: in its reply, and to a test that it is given. Bindings flow
from the node that is read to every node handed out, and nowhere else. All other operations let
nothing flow. A program lets flow what its operations do, one after the other.

* `Operation.reads`, `flows_run` — what one operation lets flow.
* `isMutation_iff`, `exists_mutate_of_target` — a mutation is one write to its node.
* `Program.reads`, `flows_runAlone` — what a program lets flow.
-/

import ReactiveView.Proofs.Tracked.Flow
import ReactiveView.Program

namespace ReactiveView

/-! ### Values handed out -/

/-- What flows out of a node when it hands out some values, of nodes below a size. -/
def Flow.out (origin : Ref) (values : List Value) (size : Nat) : Flow := fun source ref =>
  source = origin ∧ (∃ value ∈ values, value.ref? = some ref) ∧ ref < size

/-- The values in a reply. -/
def Reply.handed : Reply → List Value
  | .value given => [given]
  | .option given => given.toList
  | .values given => given
  | .entries given => given.map Prod.snd
  | .done | .refused _ => []

namespace Operation

/-- The node that an operation reads from. -/
def source? : Operation → Option Ref
  | listItem list _ | listFirst list | listLast list | listIterate list | listSlice list _ _
  | listFilter list _ | listFind list _ | listDerive list _ | listReversed list
  | listSorted list => some list
  | mapGet map _ | mapIterate map | mapSelect map _ => some map
  | recordGet record _ | recordToMap record => some record
  | _ => none

/-- The values that an operation hands to its test. -/
def shown (operation : Operation) (store : Store) : List Value :=
  match operation with
  | listFilter list _ | listFind list _ => store.items list
  | mapSelect map _ => (store.entries map).values
  | _ => []

/-- **From where to where an operation reads**: it hands values out, to its test and in its reply. -/
def reads (operation : Operation) (store : Store) : Flow :=
  match operation.source? with
  | some origin =>
    .out origin (operation.shown store ++ (operation.run store).1.handed)
      (operation.run store).2.nodes.size
  | none => .still

/-- The node that an operation writes to; a field that a record does not have is not written. -/
def target? (operation : Operation) (store : Store) : Option Ref :=
  match operation with
  | listPush list _ | listPop list | listInsert list _ _ | listRemove list _ | listSet list _ _
  | listClear list | listTruncate list _ | listExtend list _ | listConcat list _ | listRetain list _
  | listSort list | listSortBy list _ | listReverse list => some list
  | mapInsert map _ _ | mapRemove map _ | mapClear map | mapExtend map _ | mapMerge map _
  | mapRetain map _ | mapSortKeys map => some map
  | recordSet record field _ =>
    if ((store.fields record).get? field).isSome then some record else none
  | _ => none

/-- A mutation writes to a node, unless it sets a field that the record does not have. -/
theorem isMutation_iff {operation : Operation} (store : Store) : operation.isMutation = true ↔
    (∃ target, operation.target? store = some target) ∨
      ∃ record field value, operation = .recordSet record field value ∧
        (store.fields record).get? field = none := by
  cases operation with
  | recordSet record field value =>
    cases known : (store.fields record).get? field <;> simp [isMutation, target?, known]
  | _ => simp [isMutation, target?]

/-- **An operation that writes to a node is one write to it.** -/
theorem exists_mutate_of_target {operation : Operation} {store : Store} {target : Ref}
    (writes : operation.target? store = some target) :
    ∃ content, (operation.run store).2 = store.mutate target content := by
  cases operation with
  | recordSet record field value =>
    simp only [target?] at writes
    split at writes
    · next known =>
      cases writes
      obtain ⟨old, found⟩ := Option.isSome_iff_exists.mp known
      refine ⟨.record (store.recordName target) ((store.fields target).insert field value), ?_⟩
      simp only [run, TrackedRecord.set, found]
    · cases writes
  | listPush | listPop | listInsert | listRemove | listSet | listClear | listTruncate | listExtend
  | listConcat | listRetain | listSort | listSortBy | listReverse | mapInsert | mapRemove | mapClear
  | mapExtend | mapMerge | mapRetain | mapSortKeys =>
    cases writes
    exact ⟨_, rfl⟩
  | _ => cases writes

end Operation

namespace Store

variable {store : Store}

/-- A value that is read out of a node, if there is one. -/
def handing (store : Store) (origin : Ref) (found : Option Value) : Option Value × Store :=
  match found with
  | some value => (some value, store.inherit value (store.bindings origin))
  | none => (none, store)

theorem flows_handing (store : Store) (origin : Ref) (found : Option Value) :
    Flows (.out origin ((store.handing origin found).1.toList)
        (store.handing origin found).2.nodes.size)
      store (store.handing origin found).2 := by
  cases found with
  | none => exact (Flows.refl store).congr fun _ _ => by simp [Flow.still, Flow.out, handing]
  | some value =>
    exact (flows_inherit store value origin).congr fun _ _ => by simp [Flow.out, handing]

/-- A node made from another one hands out its handle. -/
theorem flows_derived (store : Store) (origin : Ref) (content : Content) (handle : Value)
    (new : handle.ref? = some store.nodes.size) :
    Flows (.out origin [handle] (store.derive origin content).2.nodes.size) store
      (store.derive origin content).2 := by
  refine (flows_derive store origin content).congr fun source ref => ?_
  simp only [Flow.out, List.mem_singleton, exists_eq_left, new, Option.some.injEq, derive,
    size_newNode]
  constructor
  · rintro ⟨rfl, rfl⟩
    exact ⟨rfl, rfl, Nat.lt_succ_self _⟩
  · rintro ⟨rfl, rfl, _⟩
    exact ⟨rfl, rfl⟩

/-- A node made from another one, after all values of that were handed to a test. -/
theorem flows_sifted (store : Store) (origin : Ref) (values : List Value) (content : Content)
    (handle : Value) (new : handle.ref? = some store.nodes.size) :
    let shown := store.inheritAll values (store.bindings origin)
    Flows (.out origin (values ++ [handle]) (shown.derive origin content).2.nodes.size) store
      (shown.derive origin content).2 := by
  intro shown
  have size : shown.nodes.size = store.nodes.size := size_inheritAll ..
  refine ((flows_inheritAll store values origin).andThen
    (flows_derive shown origin content)).congr fun source ref => ?_
  simp only [Flow.andThen, Flow.out, derive, size_newNode, size, List.mem_append,
    List.mem_singleton]
  constructor
  · rintro (⟨rfl, ⟨value, member, found⟩, inside⟩ | ⟨rfl, rfl⟩ | ⟨_, ⟨rfl, _⟩, rfl, rfl⟩)
    · exact ⟨rfl, ⟨value, Or.inl member, found⟩, inside.trans (Nat.lt_succ_self _)⟩
    · exact ⟨rfl, ⟨handle, Or.inr rfl, new⟩, Nat.lt_succ_self _⟩
    · exact ⟨rfl, ⟨handle, Or.inr rfl, new⟩, Nat.lt_succ_self _⟩
  · rintro ⟨rfl, ⟨value, member | rfl, found⟩, inside⟩
    · rcases Nat.lt_succ_iff_lt_or_eq.mp inside with old | rfl
      · exact Or.inl ⟨rfl, ⟨value, member, found⟩, old⟩
      · exact Or.inr (Or.inl ⟨rfl, rfl⟩)
    · rw [new] at found
      cases found
      exact Or.inr (Or.inl ⟨rfl, rfl⟩)

mutual

/-- A value made from plain data is watched by nobody. -/
theorem flows_ofJson (store : Store) : ∀ json : Json,
    Flows .still store (Value.ofJson store json).2
  | .null | .bool _ | .int _ | .float _ | .string _ => Flows.refl store
  | .array items => (flows_ofJsonItems store items).still_trans (flows_make _ _)
  | .object members => (flows_ofJsonMembers store members).still_trans (flows_make _ _)

theorem flows_ofJsonItems (store : Store) : ∀ items : List Json,
    Flows .still store (Value.ofJsonItems store items).2
  | [] => Flows.refl store
  | item :: rest => (flows_ofJson store item).still_trans (flows_ofJsonItems _ rest)

theorem flows_ofJsonMembers (store : Store) : ∀ members : List (String × Json),
    Flows .still store (Value.ofJsonMembers store members).2
  | [] => Flows.refl store
  | (_, member) :: rest => (flows_ofJson store member).still_trans (flows_ofJsonMembers _ rest)

end

end Store

/-! ### Operations -/

theorem TrackedList.get_eq_handing (list : Ref) (index : Nat) (store : Store) :
    get list index store = store.handing list (store.items list)[index]? := by
  unfold get
  cases (store.items list)[index]? <;> rfl

theorem TrackedList.item_eq_handing (list : Ref) (index : Int) (store : Store) :
    ∃ found, item list index store = store.handing list found := by
  unfold item
  dsimp only
  generalize (if index < 0 then ((store.items list).length : Int) + index else index) = place
  split
  · exact ⟨none, rfl⟩
  · exact ⟨_, get_eq_handing ..⟩

theorem TrackedList.last_eq_handing (list : Ref) (store : Store) :
    ∃ found, last list store = store.handing list found := by
  unfold last
  split
  · exact ⟨none, rfl⟩
  · exact ⟨_, get_eq_handing ..⟩

theorem TrackedMap.get_eq_handing (map : Ref) (key : String) (store : Store) :
    get map key store = store.handing map ((store.entries map).get? key) := by
  unfold get
  cases (store.entries map).get? key <;> rfl

theorem TrackedRecord.get_eq_handing (record : Ref) (field : String) (store : Store) :
    get record field store = store.handing record ((store.fields record).get? field) := by
  unfold get
  cases (store.fields record).get? field <;> rfl

/-- **What an operation lets flow.** -/
theorem flows_run (operation : Operation) (store : Store) :
    Store.Flows (operation.reads store) store (operation.run store).2 := by
  have handed {origin : Ref} {answer : Option Value × Store}
      (same : ∃ found, answer = store.handing origin found) :
      Store.Flows (.out origin answer.1.toList answer.2.nodes.size) store answer.2 := by
    obtain ⟨found, rfl⟩ := same
    exact store.flows_handing origin found
  have iterated (origin : Ref) (values : List Value) :
      Store.Flows (.out origin values (store.inheritAll values (store.bindings origin)).nodes.size)
        store (store.inheritAll values (store.bindings origin)) :=
    (store.flows_inheritAll values origin).congr fun _ _ => by simp [Flow.out]
  cases operation with
  | newList | newMap | newRecord => exact store.flows_make _
  | newJson json => exact store.flows_ofJson json
  | listItem list index => exact handed (TrackedList.item_eq_handing list index store)
  | listFirst list => exact handed ⟨_, TrackedList.get_eq_handing list 0 store⟩
  | listLast list => exact handed (TrackedList.last_eq_handing list store)
  | mapGet map key => exact handed ⟨_, TrackedMap.get_eq_handing map key store⟩
  | recordGet record field => exact handed ⟨_, TrackedRecord.get_eq_handing record field store⟩
  | listIterate list => exact iterated list (store.items list)
  | mapIterate map => exact iterated map (store.entries map).values
  | listSlice list | listDerive list | listReversed list | listSorted list =>
    exact store.flows_derived list _ (.list store.nodes.size) rfl
  | recordToMap record => exact store.flows_derived record _ (.map store.nodes.size) rfl
  | listFilter list keep =>
    refine store.flows_sifted list (store.items list) _ _ ?_
    exact congrArg some (Store.size_inheritAll ..)
  | mapSelect map keep =>
    refine store.flows_sifted map (store.entries map).values _ _ ?_
    exact congrArg some (Store.size_inheritAll ..)
  | listFind list wanted =>
    refine (iterated list (store.items list)).congr fun source ref => ?_
    -- what is found is one of the items that the test has seen
    have found (value : Value) (member : value ∈ ((store.items list).find? wanted).toList) :
        value ∈ store.items list := List.mem_of_find?_eq_some (Option.mem_toList.mp member)
    refine and_congr_right fun _ => and_congr_left fun _ => exists_congr fun value => ?_
    refine and_congr_left fun _ => ?_
    rw [List.mem_append]
    exact (or_iff_left_of_imp (found value)).symm
  | recordSet record field value =>
    simp only [Operation.run, TrackedRecord.set]
    cases (store.fields record).get? field with
    | none => exact Store.Flows.refl store
    | some old => exact store.flows_mutate _ _
  | _ => exact store.flows_mutate _ _

/-! ### Programs -/

namespace Program

variable {α : Type}

/-- What a program that asks nothing lets flow: what its operations do, one after the other. -/
def reads : Program Empty α → Store → Flow
  | .done _, _ => .still
  | .look next, store => (next store).reads store
  | .perform operation next, store =>
    (operation.reads store).andThen ((next (operation.run store).1).reads (operation.run store).2)
  | .keep name value next, store => next.reads (store.keep name value)
  | .ask question _, _ => nomatch question

/-- **What a program lets flow.** -/
theorem flows_runAlone (program : Program Empty α) (store : Store) :
    Store.Flows (program.reads store) store (program.runAlone store).2 := by
  induction program generalizing store with
  | done result => exact Store.Flows.refl store
  | look next ih => exact ih store store
  | perform operation next ih =>
    exact (flows_run operation store).andThen (ih (operation.run store).1 (operation.run store).2)
  | keep name value next ih =>
    have flows := ih (store.keep name value)
    exact ⟨flows.observers, flows.there, flows.changesets, flows.alive, flows.origin⟩
  | ask question => exact nomatch question

end Program

end ReactiveView
