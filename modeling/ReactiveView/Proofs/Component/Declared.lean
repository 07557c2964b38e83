/-
**Code gets at declared variables only.**

The container of a component is for the variables that its class declares reactive, and the component
itself may be marked in it, too. The container of a session is for the variables that some classes declare
shared. Code of a component names variables freely, but whatever it asks is held against what the class
declares: so both containers keep to what they are for, if the class is one of those.

* `ComponentDef.charter`, `Charter.shared` — what containers are for.
* `ComponentDef.apart_of_build` — a class that is built declares no name in both ways.
* `Variables.Chartered.read`, `Variables.Chartered.write` — what components do with variables.
* `Variables.Chartered.run`, `Variables.Chartered.callHelper` — what their code does.
-/

import ReactiveView.Proofs.Component.Built
import ReactiveView.Proofs.Container.Chartered

namespace ReactiveView

/-- **What the containers of components are for**: the variables that the class declares reactive. The
component itself is marked under a name of its own. -/
def ComponentDef.charter (definition : ComponentDef) : Charter where
  holds name := definition.isReactive name = true
  marks name := definition.isReactive name = true ∨ name = Template.componentName
  within := Or.inl

/-- **What the container of a session is for**: the variables that some classes declare shared. -/
def Charter.shared (classes : ComponentDef → Prop) : Charter where
  holds name := ∃ definition, classes definition ∧ definition.isShared name = true
  marks name := ∃ definition, classes definition ∧ definition.isShared name = true
  within := id

/-- More classes share more. -/
theorem Charter.shared_mono {classes more : ComponentDef → Prop}
    (mono : ∀ definition, classes definition → more definition) :
    (Charter.shared classes).Allows (.shared more) where
  holds := fun ⟨definition, known, shared⟩ => ⟨definition, mono definition known, shared⟩
  marks := fun ⟨definition, known, shared⟩ => ⟨definition, mono definition known, shared⟩

/-- **A class that is built declares no name both reactive and shared.** -/
theorem ComponentDef.apart_of_build {draft : Draft} {definition : ComponentDef}
    (ok : draft.build = .ok definition) (name : String) :
    ¬ (definition.isReactive name = true ∧ definition.isShared name = true) := by
  obtain ⟨named, _, templates, _, rfl⟩ := eq_of_build ok
  rintro ⟨reactive, shared⟩
  unfold Draft.misnamed? at named
  rw [Option.or_eq_none_iff, Option.or_eq_none_iff, List.find?_eq_none, List.find?_eq_none] at named
  exact named.2.1 name ((OrderedMap.mem_keys_iff _ _).mpr reactive) shared

namespace Variables

variable {classes : ComponentDef → Prop} {definition : ComponentDef} {owner : Owner}
  {identity : OrderedMap String Value} {reached : Variables} {rest : List Tenant} {store : Store}

/-- **The containers that a component reaches keep to what they are for**, as some others do. -/
def Chartered (classes : ComponentDef → Prop) (definition : ComponentDef) (rest : List Tenant)
    (reached : Variables) (store : Store) : Prop :=
  ReactiveView.Chartered
    ((definition.charter, reached.own) :: (.shared classes, reached.shared) :: rest) store

namespace Chartered

variable (chartered : reached.Chartered classes definition rest store)

include chartered

/-- The container of the component changes. -/
theorem onOwn {own : Container} {stored : Store}
    (step : ∀ {others}, ReactiveView.Chartered ((definition.charter, reached.own) :: others) store →
      ReactiveView.Chartered ((definition.charter, own) :: others) stored) :
    Chartered classes definition rest { reached with own } stored := step chartered

/-- The container of the session changes. -/
theorem onShared {shared : Container} {stored : Store}
    (step : ∀ {others}, ReactiveView.Chartered ((.shared classes, reached.shared) :: others) store →
      ReactiveView.Chartered ((.shared classes, shared) :: others) stored) :
    Chartered classes definition rest { reached with shared } stored :=
  (step (chartered.perm (List.Perm.swap ..))).perm (List.Perm.swap ..)

variable (known : classes definition)

include known

/-- A variable is looked up. -/
theorem read? {name : String} {result : Except Error Value} {after : Variables} {stored : Store}
    (found : Variables.read? definition owner name reached store = some (result, after, stored)) :
    after.Chartered classes definition rest stored := by
  unfold Variables.read? at found
  split at found
  · next default declared =>
    cases found
    refine chartered.onOwn fun chartered => chartered.get ?_ ..
    simp [ComponentDef.charter, ComponentDef.isReactive, OrderedMap.contains, declared]
  · split at found
    · next default declared =>
      cases found
      refine chartered.onShared fun chartered => chartered.get ⟨definition, known, ?_⟩ ..
      simp [ComponentDef.isShared, OrderedMap.contains, declared]
    · cases found

/-- **A variable is read.** -/
theorem read (name : String) :
    (reached.read definition owner name store).2.1.Chartered classes definition rest
      (reached.read definition owner name store).2.2 := by
  unfold Variables.read
  rcases found : Variables.read? definition owner name reached store with _ | ⟨_, after, stored⟩
  · exact chartered
  · exact chartered.read? known found

/-- **A variable is assigned.** -/
theorem write (name : String) (value : Value) :
    (reached.write definition name value store).2.1.Chartered classes definition rest
      (reached.write definition name value store).2.2 := by
  unfold Variables.write
  split
  · next reactive => exact chartered.onOwn fun chartered => chartered.set reactive value
  · split
    · next shared =>
      exact chartered.onShared fun chartered => chartered.set ⟨definition, known, shared⟩ value
    · exact chartered

/-- A name is marked. -/
theorem markOne (name : String) :
    reached.Chartered classes definition rest (reached.markOne definition name store).2 := by
  unfold Variables.markOne
  split
  · next shared =>
    refine chartered.onShared fun chartered => chartered.markDirty fun asked member => ?_
    exact List.mem_singleton.mp member ▸ ⟨definition, known, shared⟩
  · split
    · next own =>
      refine chartered.onOwn fun chartered => chartered.markDirty fun asked member => ?_
      rw [List.mem_singleton.mp member]
      simpa [ComponentDef.charter] using own
    · exact chartered

/-- Names are marked. -/
theorem markDirty (names : List String) :
    reached.Chartered classes definition rest (reached.markDirty definition names store).2 := by
  induction names generalizing store with
  | nil => exact chartered
  | cons name names ih =>
    have one := chartered.markOne known name
    unfold Variables.markDirty
    generalize reached.markOne definition name store = answer at one ⊢
    obtain ⟨error | value, stored⟩ := answer
    · exact one
    · exact ih one

omit known in
/-- The component itself is marked. -/
theorem touch : reached.Chartered classes definition rest (reached.touch store) :=
  chartered.onOwn fun chartered => chartered.markDirty fun _ member =>
    Or.inr (List.mem_singleton.mp member)

omit chartered in
/-- The code of an action is answered. -/
theorem answer {state : ActionState} (chartered : state.reached.Chartered classes definition rest store)
    (question : ActionQuestion) :
    (question.answer definition owner identity state store).2.1.reached.Chartered classes definition rest
      (question.answer definition owner identity state store).2.2 := by
  cases question with
  | get name => exact chartered.read known name
  | set name value => exact chartered.write known name value
  | markDirty names => exact chartered.markDirty known names
  | touch => exact chartered.touch
  | variant => exact chartered
  | identity name => exact chartered
  | setVariant chosen =>
    simp only [ActionQuestion.answer]
    split
    · exact chartered
    · split
      · exact chartered
      · exact chartered.touch

omit chartered in
/-- **The code of an action runs.** -/
theorem run {α : Type} (program : Program ActionQuestion α) {state : ActionState}
    (chartered : state.reached.Chartered classes definition rest store) :
    (program.run (ActionQuestion.answer definition owner identity) state store).2.1.reached.Chartered
      classes definition rest
      (program.run (ActionQuestion.answer definition owner identity) state store).2.2 :=
  ReactiveView.Chartered.run
    (fun state : ActionState =>
      (definition.charter, state.reached.own) :: (.shared classes, state.reached.shared) :: rest)
    (fun chartered question => answer known chartered question) program chartered

/-- **A helper is called.** -/
theorem callHelper {name : String} {arguments : List Value} {result : Except Error Value}
    {after : Variables} {stored : Store}
    (found : Variables.callHelper definition owner identity name arguments reached store =
      some (result, after, stored)) : after.Chartered classes definition rest stored := by
  unfold Variables.callHelper at found
  obtain ⟨helper, _, same⟩ := Option.map_eq_some_iff.mp found
  have answers {state : Variables} {store : Store}
      (chartered : state.Chartered classes definition rest store) (question : HelperQuestion) :
      (question.answer definition owner identity state store).2.1.Chartered classes definition rest
        (question.answer definition owner identity state store).2.2 := by
    cases question with
    | get name => exact chartered.read known name
    | identity name => exact chartered
  have kept := ReactiveView.Chartered.run
    (fun state : Variables =>
      (definition.charter, state.own) :: (.shared classes, state.shared) :: rest)
    answers (helper owner arguments) chartered
  cases same
  exact kept

end Chartered

end Variables

end ReactiveView
