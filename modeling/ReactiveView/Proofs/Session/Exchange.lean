/-
**Messages to different components, in either order.**

Two messages each have to do with nothing but the component that they are addressed to, and no list, map or
record hangs on variables of both components. Then it does not matter which one is executed first: what
nodes and variables hold in the end is the same but for the places of new nodes, the same names are marked,
and so the same components are to be rendered for the same names.

* `Instance.Reaches` — the nodes that hang on the variables of a component.
* `SubMessage.Private` — a message that succeeds and has to do with its own component only.
* `SubMessage.Alone` — and so have the defaults that it asks for.
* `Cycle.exists_execute` — it does the same where another message was executed before.
-/

import ReactiveView.Proofs.Component.Private
import ReactiveView.Proofs.Session.Resemblance

namespace ReactiveView

/-- A node hangs on a variable of the component. -/
def Instance.Reaches (component : Instance) (store : Store) (ref : Ref) : Prop :=
  ∃ name value, component.container.values.get? name = some value ∧ store.Within ref value

/-- The state in which code of a component begins. -/
def World.opening (world : World) (component : Instance) : ActionState :=
  ⟨world.variablesOf component, component.variant⟩

/-- A component after code of it has ended. -/
def Instance.closing (component : Instance) (state : ActionState) : Instance :=
  { component with container := state.reached.own, variant := state.variant }

/-- What a message does leaves finite what is: no value comes to contain itself. -/
def SubMessage.KeepsFinite (world : World) (component : Instance) (store : Store) : SubMessage → Prop
  | .action _ name params => ∀ action, component.definition.action? name = some action →
    (action.code params component.owner).KeepsFinite
      (ActionQuestion.answer component.definition component.owner world.identity)
      (world.opening component) store
  | .assign .. => True

/-- **A message that succeeds and has to do with its own component only.** -/
structure SubMessage.Private (world : World) (store : Store) (component : Instance)
    (message : SubMessage) : Prop where
  addressed : world.instance? message.component = .ok component
  own : message.Own component.definition
  succeeds : (Cycle.execute world message store).1 = .ok ()

/-- **A message by which nothing else is done**, not even by the defaults that it asks for: the variables of
its component are given values that are made afresh, and none comes to contain itself. -/
structure SubMessage.Alone (world : World) (store : Store) (component : Instance)
    (message : SubMessage) : Prop extends message.Private world store component where
  fresh : ∀ {name default}, component.definition.declared.reactive.get? name = some default →
    default.Uniform False
  finite : message.KeepsFinite world component store

/-! ### One message -/

variable {reach elsewhere : Ref → Prop} {start other : Store} {component : Instance}
  {shared : Container} {rest others : List Container}

/-- **Where something else was done before**, with other nodes, a component finds the same. -/
theorem Beside.begin (done : start.Confined elsewhere other)
    (apart : ∀ ref, component.Reaches start ref → ¬ elsewhere ref)
    (finite : ∀ {name value}, component.container.values.get? name = some value → value.Finite start)
    (enrolledLeft : Enrolled (component.container :: rest) start)
    (enrolledRight : Enrolled (component.container :: others) other) :
    Beside (component.Reaches start) start other shared rest others
      (.shifted (component.Reaches start) start.nodes.size other.nodes.size 0)
      (⟨⟨component.container, shared⟩, component.variant⟩, start)
      (⟨⟨component.container, shared⟩, component.variant⟩, other) where
  stores := by
    refine .begin done apart ?_ ?_
    · rintro ref ⟨name, value, found, top, handle, below⟩
      exact (finite found top handle).deeper below
    · rintro part whole ⟨name, value, found, top, handle, below⟩ held
      exact ⟨name, value, found, top, handle, .head held below⟩
  values := by
    intro name
    cases found : component.container.values.get? name with
    | none => exact .none
    | some value =>
      refine .some ((finite found).paired.of_ref ?_)
      rintro top _ handle ⟨rfl, _⟩
      exact Or.inl ⟨rfl, name, value, found, _, handle, .refl⟩
  changeset := rfl
  sharedLeft := rfl
  sharedRight := rfl
  variant := rfl
  enrolledLeft := enrolledLeft
  enrolledRight := enrolledRight

namespace Cycle

variable {world against : World} {message : SubMessage} {pairing : Pairing}

/-- What the code of an action does, if it leaves the variables of the session as they are. -/
theorem runCode_of_run {code : ActionCode} {result : Except Cause Unit} {state : ActionState}
    {store stored : Store} (name : String)
    (ran : (code component.owner).run (ActionQuestion.answer component.definition component.owner
      world.identity) (world.opening component) store = (result, state, stored))
    (untouched : state.reached.shared = world.shared) :
    runCode world component name code store =
      (result.mapError (.action component.definition.className name),
        world.put (component.closing state), stored) := by
  unfold World.opening at ran
  unfold runCode
  simp only [ran, untouched]
  rfl

/-- Code of an action runs. -/
theorem exists_runCode {code : ActionCode} (own : code.Own component.definition)
    (fresh : ∀ {name default}, component.definition.declared.reactive.get? name = some default →
      default.Uniform False)
    (finite : (code component.owner).KeepsFinite
      (ActionQuestion.answer component.definition component.owner world.identity)
      (world.opening component) start)
    (name : String) (shared : against.shared = world.shared) (identity : against.identity = world.identity)
    (beside : Beside reach start other world.shared rest others pairing
      (world.opening component, start) (against.opening component, other)) :
    ∃ larger left right stored kept result, pairing ≤ larger ∧
      Beside reach start other world.shared rest others larger (left, stored) (right, kept) ∧
      runCode world component name code start = (result, world.put (component.closing left), stored) ∧
      runCode against component name code other =
        (result, against.put (component.closing right), kept) := by
  obtain ⟨larger, le, after, results⟩ := @own _ _
    (ActionQuestion.answer component.definition component.owner world.identity)
    (ActionQuestion.answer component.definition component.owner against.identity) _ Beside.upheld
    (fun _ _ _ _ _ beside asks => by rw [identity]; exact beside.answer fresh asks) component.owner
    _ _ _ beside finite
  rcases here : (code component.owner).run (ActionQuestion.answer component.definition component.owner
    world.identity) (world.opening component) start with ⟨result, left, stored⟩
  rcases there : (code component.owner).run (ActionQuestion.answer component.definition component.owner
    against.identity) (against.opening component) other with ⟨outcome, right, kept⟩
  rw [here, there] at after results
  cases results
  exact ⟨larger, left, right, stored, kept, _, le, after, runCode_of_run name here after.sharedLeft,
    runCode_of_run name there (after.sharedRight.trans shared.symm)⟩

/-- **A message that has to do with its own component only** does the same in another session in which the
component finds the same. -/
theorem exists_execute (alone : message.Alone world start component)
    (addressed : against.instance? message.component = .ok component)
    (shared : against.shared = world.shared) (identity : against.identity = world.identity)
    (beside : Beside reach start other world.shared rest others pairing
      (world.opening component, start) (against.opening component, other)) :
    ∃ larger left right stored kept, pairing ≤ larger ∧
      Beside reach start other world.shared rest others larger (left, stored) (right, kept) ∧
      execute world message start = (.ok (), world.put (component.closing left), stored) ∧
      execute against message other = (.ok (), against.put (component.closing right), kept) := by
  have succeeds := alone.succeeds
  cases message with
  | action id name params =>
    simp only [execute, alone.addressed, addressed] at succeeds ⊢
    cases found : component.definition.action? name with
    | none => simp [found] at succeeds
    | some action =>
      obtain ⟨larger, left, right, stored, kept, result, le, after, here, there⟩ :=
        exists_runCode (alone.own action found) alone.fresh (alone.finite action found) name shared
          identity beside
      simp only [found, here, there] at succeeds ⊢
      exact ⟨larger, left, right, stored, kept, le, after, by rw [succeeds], by rw [succeeds]⟩
  | assign id name value =>
    simp only [execute, alone.addressed, addressed] at succeeds ⊢
    obtain ⟨larger, le, after, values⟩ := Beside.upheld.ofJson value beside
    unfold assign at succeeds ⊢
    unfold Variables.write at succeeds ⊢
    have own : component.definition.isShared name = false := alone.own
    cases declared : component.definition.isReactive name with
    | false => simp [ComponentDef.declares, declared, own] at succeeds
    | true =>
      simp only [ComponentDef.declares, declared, own, Bool.true_or, Bool.not_true]
      have assigned := after.set values name
      refine ⟨larger, _, _, _, _, le, assigned, ?_, ?_⟩
      · rfl
      · rfl

end Cycle

end ReactiveView
