/-
**Containers at work.**

Any number of containers share one store. What is done to them, and to the values in the store, is a
row of acts. Along such a row some nodes come to be obtained through a name of a container: the node
stored under the name, and whatever is read out of an obtained one, until another value takes its
place.

* `Workspace.step`, `Workspace.after` — what acts do.
* `Obtained` — the nodes that were obtained through a name since its value came to be stored.
-/

import Mathlib.Logic.Function.Basic
import ReactiveView.Container
import ReactiveView.Proofs.Tracked.OperationFlow

namespace ReactiveView

/-- A store and the containers that live on it, each at its place. -/
structure Workspace where
  store : Store
  containers : Nat → Option Container

/-- Something done to a container, or to a value in the store. -/
inductive Act where
  | new (place : Nat)
  | get (place : Nat) (name : String) (default : VarDefault) (owner : Owner)
  | set (place : Nat) (name : String) (value : Value)
  | peek (place : Nat) (name : String)
  | observer (place : Nat) (name : String)
  | markDirty (place : Nat) (names : List String)
  | resetChanges (place : Nat)
  | cleanup (place : Nat)
  | drop (place : Nat)
  | perform (operation : Operation)

namespace Workspace

/-- Nothing is there yet. -/
def start : Workspace := ⟨Store.empty, fun _ => none⟩

/-- Does something to the container at a place; where there is none nothing happens. -/
def onContainer (workspace : Workspace) (place : Nat)
    (f : Container → Store → Option Container × Store) : Workspace :=
  match workspace.containers place with
  | none => workspace
  | some container =>
    let (container, store) := f container workspace.store
    ⟨store, Function.update workspace.containers place container⟩

/-- A new container at a place that is free. -/
def newContainer (workspace : Workspace) (place : Nat) : Workspace :=
  match workspace.containers place with
  | some _ => workspace
  | none =>
    let (container, store) := Container.new workspace.store
    ⟨store, Function.update workspace.containers place (some container)⟩

/-- What one act does. -/
def step (workspace : Workspace) : Act → Workspace
  | .new place => workspace.newContainer place
  | .get place name default owner => workspace.onContainer place fun container store =>
    let (_, container, store) := container.get name default owner store
    (some container, store)
  | .set place name value => workspace.onContainer place fun container store =>
    let (container, store) := container.set name value store
    (some container, store)
  | .peek _ _ => workspace
  | .observer place name => workspace.onContainer place fun container store =>
    let (_, container, store) := container.observer name store
    (some container, store)
  | .markDirty place names => workspace.onContainer place fun container store =>
    (some container, container.markDirty names store)
  | .resetChanges place => workspace.onContainer place fun container store =>
    (some container, container.resetChanges store)
  | .cleanup place => workspace.onContainer place fun container store =>
    let (container, store) := container.cleanup store
    (some container, store)
  | .drop place => workspace.onContainer place fun container store => (none, container.drop store)
  | .perform operation => { workspace with store := (operation.run workspace.store).2 }

/-- The workspace after some acts, the last one first. -/
def after : List Act → Workspace
  | [] => start
  | act :: earlier => (after earlier).step act

end Workspace

/-! ### What is obtained through a name -/

/-- What computing a default lets flow. -/
def VarDefault.reads (default : VarDefault) (owner : Owner) (store : Store) : Flow :=
  match default with
  | .factory make => make.reads store
  | .withOwner make => (make owner).reads store
  | _ => .still

namespace Act

/-- An act stores a node under a name of a container: in an assignment, or as a default value. -/
def Stores (act : Act) (before : Workspace) (place : Nat) (name : String) (ref : Ref) : Prop :=
  match act with
  | set target key value =>
    target = place ∧ key = name ∧ before.containers place ≠ none ∧ value.ref? = some ref ∧
      ref < before.store.nodes.size
  | get target key default owner =>
    target = place ∧ key = name ∧ ∃ container value store,
      before.containers place = some container ∧ container.values.get? name = none ∧
        default.compute name owner before.store = (.ok value, store) ∧ value.ref? = some ref ∧
        ref < store.nodes.size
  | _ => False

/-- From where to where an act reads: an operation, or the computing of a default. -/
def reads (act : Act) (before : Workspace) : Flow :=
  match act with
  | perform operation => operation.reads before.store
  | get place name default owner =>
    if (before.containers place).any fun container => (container.values.get? name).isNone then
      default.reads owner before.store
    else .still
  | _ => .still

/-- An act puts another value in the place of the one under a name, or takes it away. -/
def Replaces (act : Act) (before : Workspace) (place : Nat) (name : String) : Prop :=
  match act with
  | set target key value =>
    target = place ∧ key = name ∧ ∃ container old, before.containers place = some container ∧
      container.values.get? name = some old ∧ old.sameNode value = false
  | cleanup target | drop target => target = place
  | _ => False

end Act

/--
**A node obtained through a name of a container** in a row of acts, the last one first: it was
stored under the name, or read out of a node obtained before, and since then the value under the
name was not replaced.
-/
inductive Obtained (place : Nat) (name : String) : List Act → Ref → Prop
  | stored {act : Act} {earlier : List Act} {ref : Ref}
    (stores : act.Stores (Workspace.after earlier) place name ref) :
    Obtained place name (act :: earlier) ref
  | read {act : Act} {earlier : List Act} {source ref : Ref}
    (obtained : Obtained place name earlier source)
    (reads : act.reads (Workspace.after earlier) source ref) :
    Obtained place name (act :: earlier) ref
  | kept {act : Act} {earlier : List Act} {ref : Ref} (obtained : Obtained place name earlier ref)
    (stays : ¬ act.Replaces (Workspace.after earlier) place name) :
    Obtained place name (act :: earlier) ref

end ReactiveView
