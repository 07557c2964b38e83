/-
**Code whose values are determined by what it is given.**

A default is determined if it is made afresh, and alike, wherever it is made. A helper is determined
if it writes nothing and its result is determined by its arguments and by the answers it gets: two
runs with paired arguments that are answered alike have paired results. Neither can see where in a
store a value lies, nor what else the store holds.

* `Program.ReadsOnly` — programs that look, make and ask, and write nothing.
* `VarDefault.Determined`, `HelperCode.Determined` — defaults and helpers that are determined.
* `ComponentDef.Faithful`, `ComponentDef.Regular`, `ComponentDef.Steady` — classes whose helpers are, whose
  own defaults are as well, and all of whose defaults are.
-/

import ReactiveView.Component.Variables
import ReactiveView.Proofs.Component.Built
import ReactiveView.Proofs.Render.Agreement
import ReactiveView.Proofs.Render.Reading
import ReactiveView.Proofs.Template.Names
import ReactiveView.Proofs.Tracked.OperationFlow

namespace ReactiveView

/-! ### Operations that write nothing -/

namespace Store

mutual

theorem reads_ofJson (store : Store) : ∀ json : Json, store.Reads (Value.ofJson store json).2
  | .null | .bool _ | .int _ | .float _ | .string _ => .refl store
  | .array items => (reads_ofJsonItems store items).trans (peruses_newList _ _).toReads
  | .object members => (reads_ofJsonMembers store members).trans (peruses_newMap _ _).toReads

theorem reads_ofJsonItems (store : Store) : ∀ items : List Json,
    store.Reads (Value.ofJsonItems store items).2
  | [] => .refl store
  | item :: rest => (reads_ofJson store item).trans (reads_ofJsonItems _ rest)

theorem reads_ofJsonMembers (store : Store) : ∀ members : List (String × Json),
    store.Reads (Value.ofJsonMembers store members).2
  | [] => .refl store
  | (_, member) :: rest => (reads_ofJson store member).trans (reads_ofJsonMembers _ rest)

end

end Store

/-- **An operation that is no mutation only reads.** -/
theorem Operation.reads_run {operation : Operation} (still : operation.isMutation = false)
    (store : Store) : store.Reads (operation.run store).2 := by
  cases operation with
  | newList | newMap | newRecord => exact Store.reads_newNode ..
  | newJson json => exact Store.reads_ofJson store json
  | listItem => exact (TrackedList.peruses_item ..).toReads
  | listFirst => exact (TrackedList.peruses_get ..).toReads
  | listLast => exact (TrackedList.peruses_last ..).toReads
  | listIterate => exact (TrackedList.peruses_iterate ..).toReads
  | listSlice | listDerive | listReversed | listSorted => exact (TrackedList.peruses_derive ..).toReads
  | listFilter => exact (TrackedList.peruses_filter ..).toReads
  | listFind => exact (TrackedList.peruses_iterate ..).toReads
  | mapGet => exact (TrackedMap.peruses_get ..).toReads
  | mapIterate => exact (TrackedMap.peruses_iterate ..).toReads
  | mapSelect => exact (TrackedMap.peruses_iterate ..).toReads.trans (Store.reads_newNode ..)
  | recordGet => exact (TrackedRecord.peruses_get ..).toReads
  | recordToMap => exact (TrackedRecord.peruses_toMap ..).toReads
  | _ => cases still

/-- An operation that writes to no node only reads. -/
theorem Operation.reads_of_target {operation : Operation} {store : Store}
    (still : operation.target? store = none) : store.Reads (operation.run store).2 := by
  cases mutates : operation.isMutation with
  | false => exact operation.reads_run mutates store
  | true =>
    rcases (operation.isMutation_iff store).mp mutates with ⟨target, writes⟩ |
      ⟨record, field, value, rfl, lacks⟩
    · rw [still] at writes
      cases writes
    · simp only [Operation.run, TrackedRecord.set, lacks]
      exact .refl store

/-! ### Programs that write nothing -/

namespace Program

variable {Question α σ : Type}

/-- A program that looks, makes and asks, and neither writes nor keeps anything. -/
def ReadsOnly : Program Question α → Prop
  | done _ => True
  | look next => ∀ store, (next store).ReadsOnly
  | perform operation next => operation.isMutation = false ∧ ∀ reply, (next reply).ReadsOnly
  | keep .. => False
  | ask _ next => ∀ answer, (next answer).ReadsOnly

/-- One thing that such a program does to its surroundings. -/
inductive Step (answering : Answering Question σ) : σ × Store → σ × Store → Prop
  | reads (world : σ) {before after : Store} (reads : before.Reads after) :
    Step answering (world, before) (world, after)
  | ask (question : Question) (world : σ) (store : Store) :
    Step answering (world, store) (answering question world store).2

/-- A program that writes nothing goes on by reading and asking. -/
theorem steps_run {program : Program Question α} (reads : program.ReadsOnly)
    (answering : Answering Question σ) (world : σ) (store : Store) :
    Relation.ReflTransGen (Step answering) (world, store)
      (program.run answering world store).2 := by
  induction program generalizing world store with
  | done result => exact .refl
  | look next ih => exact ih store (reads store) world store
  | perform operation next ih =>
    exact .head (.reads world (operation.reads_run reads.1 store)) (ih _ (reads.2 _) _ _)
  | keep name value next ih => exact reads.elim
  | ask question next ih => exact .head (.ask question world store) (ih _ (reads _) _ _)

end Program

/-! ### Defaults and helpers -/

/-- **A default that is made afresh, and alike, wherever it is made.** -/
def VarDefault.Determined (default : VarDefault) : Prop :=
  ∀ (name : String) (owner : Owner) (left right : Store),
    ∃ (fresh : Pairing) (value other : Value) (after opposite : Store),
      default.compute name owner left = (.ok value, after) ∧
      default.compute name owner right = (.ok other, opposite) ∧
      Store.Advance (fun _ _ => False) left right fresh after opposite ∧ value.Paired fresh other

/-- A variable that starts as `nil` is determined. -/
theorem VarDefault.determined_absent : VarDefault.absent.Determined := fun _ _ left right =>
  ⟨fun _ _ => False, .nil, .nil, left, right, rfl, rfl, .refl (.nothing left right), .scalar rfl⟩

/-- The result of a helper called by a name, as an answer. -/
def HelperCode.answer {σ : Type} (code : HelperCode) (owner : Owner) (name : String)
    (arguments : List Value) (answering : Program.Answering HelperQuestion σ) (world : σ)
    (store : Store) : Answer σ Value :=
  let (result, world, store) := (code owner arguments).run answering world store
  (result.mapError (.helper name), world, store)

/-- **A helper that writes nothing and whose result is determined** by its arguments and the answers
it gets. -/
structure HelperCode.Determined (code : HelperCode) : Prop where
  readsOnly : ∀ (owner : Owner) (arguments : List Value), (code owner arguments).ReadsOnly
  alike : ∀ {σ τ : Type} (left : Program.Answering HelperQuestion σ)
    (right : Program.Answering HelperQuestion τ) (Alike : Pairing → σ × Store → τ × Store → Prop),
    (∀ {pairing l r}, Alike pairing l r → Store.Paired pairing l.2 r.2) →
    (∀ {pairing l r larger leftAfter rightAfter}, Alike pairing l r →
      Store.Advance pairing l.2 r.2 larger leftAfter rightAfter →
      Alike larger (l.1, leftAfter) (r.1, rightAfter)) →
    (∀ {pairing l r} (question : HelperQuestion), Alike pairing l r →
      AnswerAlike Alike pairing Value.Paired (left question l.1 l.2) (right question r.1 r.2)) →
    ∀ (owner : Owner) (name : String) {pairing l r values others}, Alike pairing l r →
      List.Forall₂ (Value.Paired pairing) values others →
      AnswerAlike Alike pairing Value.Paired
        (HelperCode.answer code owner name values left l.1 l.2)
        (HelperCode.answer code owner name others right r.1 r.2)

/-! ### Classes -/

namespace ComponentDef

/-- The default of a declared variable. -/
def default? (definition : ComponentDef) (name : String) : Option VarDefault :=
  (definition.declared.reactive.get? name).or (definition.declared.shared.get? name)

theorem declares_eq (definition : ComponentDef) (name : String) :
    definition.declares name = (definition.default? name).isSome := by
  unfold declares isReactive isShared default?
  rw [Option.isSome_or]
  rfl

/-- **A class whose helpers only read**, and whose templates call for no child. -/
structure Solitary (definition : ComponentDef) : Prop where
  built : definition.Built
  readsOnly : ∀ {name helper}, definition.declared.helpers.get? name = some helper →
    ∀ (owner : Owner) (arguments : List Value), (helper owner arguments).ReadsOnly
  childless : ∀ {variant template}, definition.template variant = .ok template →
    ∀ part, Part.dynamic part ∈ template.parts → "child" ∉ part.node.calls

/-- **A class whose helpers are determined**, too. -/
structure Faithful (definition : ComponentDef) : Prop extends definition.Solitary where
  helpers : ∀ {name helper}, definition.declared.helpers.get? name = some helper →
    HelperCode.Determined helper

/-- **A class whose own defaults are determined**, too. -/
structure Regular (definition : ComponentDef) : Prop extends definition.Faithful where
  own : ∀ {name default}, definition.declared.reactive.get? name = some default → default.Determined

/-- **A class all of whose defaults are determined**, and whose templates bind nothing inside the branch
of a choice. -/
structure Steady (definition : ComponentDef) : Prop extends definition.Regular where
  shared : ∀ {name default}, definition.declared.shared.get? name = some default → default.Determined
  plain : ∀ {variant template}, definition.template variant = .ok template →
    ∀ part, Part.dynamic part ∈ template.parts → part.node.branchBinds = []

theorem Steady.defaults {definition : ComponentDef} (steady : definition.Steady) {name : String}
    {default : VarDefault} (found : definition.default? name = some default) : default.Determined := by
  rcases Option.or_eq_some_iff.mp found with own | ⟨_, shared⟩
  · exact steady.own own
  · exact steady.shared shared

/-- What holds of all parts of all templates. -/
theorem check_of_template {definition : ComponentDef} {check : DynamicPart → Bool}
    (all : (definition.declared.templates.values.all fun template =>
      Template.everyPart check template.parts) = true) {variant : String} {template : Template}
    (found : definition.template variant = .ok template) {part : DynamicPart}
    (member : Part.dynamic part ∈ template.parts) : check part = true := by
  unfold ComponentDef.template at found
  split at found
  · next there =>
    cases found
    exact Template.check_of_everyPart (List.all_eq_true.mp all template
      ((OrderedMap.mem_values_iff _ template).mpr ⟨variant, there⟩)) member
  · cases found

/-- A class without helpers and children. -/
theorem faithful_of_build {draft : Draft} {definition : ComponentDef}
    (ok : draft.build = .ok definition) (children : draft.children = OrderedMap.empty)
    (helpers : draft.helpers = OrderedMap.empty)
    (childless : ∀ {variant template}, definition.template variant = .ok template →
      ∀ part, Part.dynamic part ∈ template.parts → "child" ∉ part.node.calls) :
    definition.Faithful := by
  obtain ⟨_, _, templates, _, same⟩ := eq_of_build ok
  have none {name : String} {helper : HelperCode}
      (found : definition.declared.helpers.get? name = some helper) : False := by
    rw [same] at found
    change draft.helpers.get? name = _ at found
    rw [helpers] at found
    cases found
  refine ⟨⟨.intro ok fun found => ?_, fun found => (none found).elim, childless⟩,
    fun found => (none found).elim⟩
  rw [children] at found
  cases found

end ComponentDef

end ReactiveView
