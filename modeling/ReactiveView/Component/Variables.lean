/-
**The variables that a component reaches.**

A component has a container of its own and uses the container of the session. Which of the two
holds a name is declared by its class; a name that is declared in neither way is an error.

* `Variables.read`, `Variables.write`, `Variables.markDirty` — access by declared names only.
-/

import ReactiveView.Component.Definition

namespace ReactiveView

/-- The container of a component and that of its session. -/
structure Variables where
  own : Container
  shared : Container

namespace Variables

/-- The value of a name, given its default if it has none yet; none if it is not declared. -/
def read? (definition : ComponentDef) (owner : Owner) (name : String) (reached : Variables)
    (store : Store) : Option (Except Error Value × Variables × Store) :=
  match definition.declared.reactive.get? name with
  | some default =>
    let (result, own, store) := reached.own.get name default owner store
    some (result, { reached with own }, store)
  | none =>
    match definition.declared.shared.get? name with
    | some default =>
      let (result, shared, store) := reached.shared.get name default owner store
      some (result, { reached with shared }, store)
    | none => none

/-- The value of a declared name. -/
def read (definition : ComponentDef) (owner : Owner) (name : String) (reached : Variables)
    (store : Store) : Except Error Value × Variables × Store :=
  (read? definition owner name reached store).getD
    (.error (definition.unknownVariable name), reached, store)

/-- Assigns a declared name. -/
def write (definition : ComponentDef) (name : String) (value : Value) (reached : Variables)
    (store : Store) : Except Error Unit × Variables × Store :=
  if definition.isReactive name then
    let (own, store) := reached.own.set name value store
    (.ok (), { reached with own }, store)
  else if definition.isShared name then
    let (shared, store) := reached.shared.set name value store
    (.ok (), { reached with shared }, store)
  else (.error (definition.unknownVariable name), reached, store)

/-- Marks the component itself. -/
def touch (reached : Variables) (store : Store) : Store :=
  reached.own.markDirty [Template.componentName] store

/-- Marks one declared name, or the component itself. -/
def markOne (definition : ComponentDef) (name : String) (reached : Variables) (store : Store) :
    Except Error Unit × Store :=
  if definition.isShared name then (.ok (), reached.shared.markDirty [name] store)
  else if definition.isReactive name || name == Template.componentName then
    (.ok (), reached.own.markDirty [name] store)
  else (.error (definition.unknownVariable name), store)

/-- Marks names up to the first that is not declared. -/
def markDirty (definition : ComponentDef) (reached : Variables) :
    List String → Store → Except Error Unit × Store
  | [], store => (.ok (), store)
  | name :: rest, store =>
    match markOne definition name reached store with
    | (.ok _, store) => markDirty definition reached rest store
    | (.error error, store) => (.error error, store)

end Variables

/-! ### Answers to code -/

/-- What the code of an action changes besides the store. -/
structure ActionState where
  reached : Variables
  /-- The variant of the template that is rendered. -/
  variant : String

/-- An answer that carries no value. -/
def unitAnswer : Except Error Unit → Except Error Value
  | .ok _ => .ok .nil
  | .error error => .error error

/-- Answers the code of an action of a component. -/
def ActionQuestion.answer (definition : ComponentDef) (owner : Owner)
    (identity : OrderedMap String Value) : Program.Answering ActionQuestion ActionState
  | .get name, state, store =>
    let (result, reached, store) := state.reached.read definition owner name store
    (result, { state with reached }, store)
  | .set name value, state, store =>
    let (result, reached, store) := state.reached.write definition name value store
    (unitAnswer result, { state with reached }, store)
  | .markDirty names, state, store =>
    let (result, store) := state.reached.markDirty definition names store
    (unitAnswer result, state, store)
  | .touch, state, store => (.ok .nil, state, state.reached.touch store)
  | .variant, state, store => (.ok (.str state.variant), state, store)
  | .setVariant chosen, state, store =>
    match definition.template chosen with
    | .error error => (.error error, state, store)
    | .ok _ =>
      if state.variant = chosen then (.ok .nil, state, store)
      else (.ok .nil, { state with variant := chosen }, state.reached.touch store)
  | .identity name, state, store => (.ok ((identity.get? name).getD .nil), state, store)

/-- Answers the code of a helper of a component. -/
def HelperQuestion.answer (definition : ComponentDef) (owner : Owner)
    (identity : OrderedMap String Value) : Program.Answering HelperQuestion Variables
  | .get name, reached, store => reached.read definition owner name store
  | .identity name, reached, store => (.ok ((identity.get? name).getD .nil), reached, store)

/-- The result of a helper of a component; none if its class has no such helper. -/
def Variables.callHelper (definition : ComponentDef) (owner : Owner)
    (identity : OrderedMap String Value) (name : String) (arguments : List Value)
    (reached : Variables) (store : Store) : Option (Except Error Value × Variables × Store) :=
  (definition.declared.helpers.get? name).map fun helper =>
    let (result, reached, store) :=
      (helper owner arguments).run (HelperQuestion.answer definition owner identity) reached store
    (result.mapError (.helper name), reached, store)

end ReactiveView
