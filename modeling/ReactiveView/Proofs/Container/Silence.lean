/-
**A container that was cleaned up hears nothing.**

Every observer that marks the changeset of a container is one that the container has issued and still
holds. After a cleanup it holds none; after the end of the container its changeset is gone. So nothing
that is written marks the changeset, however the written node was come by, until the container issues
an observer again.

* `Move`, `Workspace.movedBy` — all that containers and the code around them do.
* `Container.Exhausts`, `Workspace.Orderly` — a container holds all observers that mark its changeset.
* `Store.Silent` — a changeset that nothing marks; `Store.Silent.runAlone` — no program changes it.
* `Workspace.Orderly.silent_step`, `silent_movedBy` — silence lasts until an observer is issued.
* `containers_undisturbed` — containers that share values do not disturb each other.
* `disturbed_by_default` — the code for a default value may.
-/

import ReactiveView.Proofs.Component.Determined
import ReactiveView.Proofs.Container.Undisturbed

namespace ReactiveView

/-! ### Moves -/

/-- A deed, or a binding taken off a value by hand. -/
inductive Move where
  | deed (deed : Deed)
  | removeObserver (value : Value) (observer : ObserverId)
  | removeBinding (value : Value) (observer : ObserverId) (name : String)

namespace Workspace

/-- What one move does. -/
def moving (workspace : Workspace) : Move → Workspace
  | .deed deed => workspace.doing deed
  | .removeObserver value observer =>
    { workspace with store := (workspace.store.removeObserver value observer).2 }
  | .removeBinding value observer name =>
    { workspace with store := (workspace.store.removeBinding value observer name).2 }

/-- The workspace after some moves, the last one first. -/
def movedBy : List Move → Workspace
  | [] => start
  | move :: earlier => (movedBy earlier).moving move

end Workspace

/-- A move that is an act on a container. -/
def Move.act? : Move → Option Act
  | .deed (.act act) => some act
  | _ => none

/-- In a move the container of a changeset issues an observer, which it holds from then on. -/
def Move.Issues (move : Move) (before : Workspace) (changeset : ChangesetId) : Prop :=
  ∃ place container name observer, (before.moving move).containers place = some container ∧
    container.changeset = changeset ∧ container.observers.get? name = some observer ∧
    ∀ mine, before.containers place = some mine → mine.observers.get? name ≠ some observer

/-- In none of some later moves the container of a changeset issues an observer. -/
def NoneIssued (changeset : ChangesetId) (earlier : List Move) : List Move → Prop
  | [] => True
  | move :: before => ¬ move.Issues (Workspace.movedBy (before ++ earlier)) changeset ∧
      NoneIssued changeset earlier before

/-! ### Changes that keep the books -/

/-- A change that issues and retires nobody, and by which no changeset comes or goes. -/
structure Store.KeepsBooks (before after : Store) : Prop where
  observers : after.observers = before.observers
  there : ∀ changeset, after.isThere changeset = before.isThere changeset
  changesets : after.changesets.size = before.changesets.size

theorem Store.KeepsBooks.refl (store : Store) : store.KeepsBooks store := ⟨rfl, fun _ => rfl, rfl⟩

theorem Store.Flows.keepsBooks {flow : Flow} {before after : Store}
    (flows : Store.Flows flow before after) : before.KeepsBooks after :=
  ⟨flows.observers, flows.there, flows.changesets⟩

/-! ### The observers of a container -/

/-- **A container holds every observer that marks its changeset.** -/
def Container.Exhausts (container : Container) (store : Store) : Prop :=
  ∀ {observer : ObserverId}, store.observers[observer]? = some (some container.changeset) →
    ∃ name, container.observers.get? name = some observer

theorem Container.observers_markDirty (container : Container) (names : List String) (store : Store) :
    (container.markDirty names store).observers = store.observers := by
  unfold Container.markDirty
  induction names generalizing store with
  | nil => rfl
  | cons name rest ih => exact ih _

/-- A cleanup retires the observers of the container, and no others. -/
theorem Container.keepsBooks_cleanup (container : Container) (store : Store) :
    (container.observers.values.foldl Store.retire store).KeepsBooks (container.cleanup store).2 := by
  have detached := Sound.flows_detachAll container.values.values
    fun _ (member : _ ∈ container.observers.values) => isAlive_retired store member
  rw [← Sound.retire_detachAll] at detached
  exact (detached.still_trans (Store.flows_modifyChangeset ..)).keepsBooks

theorem Container.size_cleanup (container : Container) (store : Store) :
    (container.cleanup store).2.changesets.size = store.changesets.size :=
  (container.keepsBooks_cleanup store).changesets.trans
    (congrArg Array.size (ReactiveView.retire_frame ..).2.1)

/-- **After a cleanup no observer marks the changeset of the container.** -/
theorem Container.Exhausts.cleanup {container : Container} {store : Store}
    (so : container.Exhausts store) (observer : ObserverId) :
    (container.cleanup store).2.observers[observer]? ≠ some (some container.changeset) := by
  rw [(container.keepsBooks_cleanup store).observers]
  intro marks
  obtain ⟨before, left⟩ := (ReactiveView.retire_frame ..).2.2.2.mp marks
  obtain ⟨name, held⟩ := so before
  exact left ((container.observers.mem_values_iff observer).mpr ⟨name, held⟩)

/-- What a container does to itself: it keeps its changeset, and loses no observer that marks it. -/
structure Container.Serves (container : Container) (store : Store) (next : Container)
    (after : Store) : Prop where
  changeset : next.changeset = container.changeset
  exhausts : container.Exhausts store → next.Exhausts after

namespace Container.Serves

variable {container middle next : Container} {store stage after : Store}

theorem trans (first : Serves container store middle stage)
    (second : Serves middle stage next after) : Serves container store next after :=
  ⟨second.changeset.trans first.changeset, fun so => second.exhausts (first.exhausts so)⟩

/-- Nothing is issued or retired. -/
theorem of_observers (changeset : next.changeset = container.changeset)
    (held : next.observers = container.observers) (observers : after.observers = store.observers) :
    Serves container store next after where
  changeset := changeset
  exhausts so {observer} marks := by
    rw [observers, changeset] at marks
    rw [held]
    exact so marks

theorem observer (container : Container) (name : String) (store : Store) :
    Serves container store (container.observer name store).2.1
      (container.observer name store).2.2 := by
  unfold Container.observer
  cases known : container.observers.get? name with
  | some observer => exact .of_observers rfl rfl rfl
  | none =>
    refine ⟨rfl, fun so {observer} marks => ?_⟩
    by_cases inside : observer < store.observers.size
    · rw [getElem?_newObserver_of_lt inside] at marks
      obtain ⟨asked, held⟩ := so marks
      have ne : asked ≠ name := by
        rintro rfl
        cases known.symm.trans held
      exact ⟨asked, (OrderedMap.get?_insert_of_ne _ ne _).trans held⟩
    · obtain rfl : observer = store.observers.size := by
        have bound := (Array.getElem?_eq_some_iff.mp marks).1
        simp only [Store.newObserver, Array.size_push] at bound
        exact Nat.eq_of_lt_succ_of_not_lt bound inside
      exact ⟨name, OrderedMap.get?_insert_self ..⟩

theorem watch (container : Container) (name : String) (value : Value) (store : Store) :
    Serves container store (container.watch name value store).1
      (container.watch name value store).2 := by
  have issued := observer container name store
  unfold Container.watch
  generalize container.observer name store = answer at issued ⊢
  obtain ⟨observer, next, after⟩ := answer
  exact issued.trans (.of_observers rfl rfl (Store.grows_inherit ..).observers)

theorem retire (container : Container) (name : String) (old : Value) (store : Store) :
    Serves container store (container.retire name old store).1
      (container.retire name old store).2 := by
  unfold Container.retire
  cases known : container.observers.get? name with
  | none => exact .of_observers rfl rfl rfl
  | some observer =>
    have retired : Serves container store
        { container with observers := container.observers.erase name } (store.retire observer) := by
      refine ⟨rfl, fun so {other} marks => ?_⟩
      obtain ⟨before, left⟩ := (ReactiveView.retire_frame store [observer]).2.2.2.mp marks
      obtain ⟨asked, held⟩ := so before
      have ne : asked ≠ name := by
        rintro rfl
        exact left (List.mem_singleton.mpr (Option.some.inj (held.symm.trans known)))
      exact ⟨asked, (OrderedMap.get?_erase_of_ne _ ne).trans held⟩
    have detached := Store.flows_detach (Store.isAlive_retire store observer) old name
    exact retired.trans (.of_observers rfl rfl detached.observers)

theorem set (container : Container) (name : String) (value : Value) (store : Store) :
    Serves container store (container.set name value store).1
      (container.set name value store).2 := by
  have stored {middle : Container} {stage : Store} (serves : Serves container store middle stage) :
      Serves container store (middle.watch name value stage).1
        ((middle.watch name value stage).1.markDirty [name] (middle.watch name value stage).2) :=
    (serves.trans (watch middle name value stage)).trans
      (.of_observers rfl rfl (Container.observers_markDirty ..))
  unfold Container.set
  cases container.values.get? name with
  | none => exact stored (.of_observers rfl rfl rfl)
  | some old =>
    dsimp only
    split
    · exact stored (.of_observers rfl rfl rfl)
    · exact stored (retire container name old store)

theorem get (container : Container) (name : String) (default : VarDefault) (owner : Owner)
    (store : Store) : Serves container store (container.get name default owner store).2.1
      (container.get name default owner store).2.2 := by
  unfold Container.get
  cases container.values.get? name with
  | some value => exact .of_observers rfl rfl rfl
  | none =>
    have flows := flows_compute default name owner store
    generalize default.compute name owner store = made at flows ⊢
    obtain ⟨error | value, made⟩ := made
    · exact .of_observers rfl rfl flows.observers
    · exact Serves.trans (.of_observers rfl rfl flows.observers) (watch container name value made)

theorem cleanup (container : Container) (store : Store) :
    Serves container store (container.cleanup store).1 (container.cleanup store).2 :=
  ⟨rfl, fun so {observer} marks => absurd marks (so.cleanup observer)⟩

end Container.Serves

/-! ### Workspaces in order -/

/-- **A workspace in order**: what its containers have issued is in order, and they hold all of it. -/
structure Workspace.Orderly (workspace : Workspace) : Prop where
  booked : Booked workspace.store workspace.ledger
  exhausts : ∀ {place container}, workspace.containers place = some container →
    container.Exhausts workspace.store

section

variable {workspace : Workspace} {place : Nat} {container next : Container}

/-- **What an act does to its container**, if it is there before and after. -/
theorem serves_step {act : Act} (on : act.place? = some place)
    (found : workspace.containers place = some container)
    (made : (workspace.step act).containers place = some next) :
    container.Serves workspace.store next (workspace.step act).store := by
  rw [step_of_some on found] at made ⊢
  replace made : (act.does container workspace.store).1 = some next :=
    (Function.update_self place _ workspace.containers).symm.trans made
  cases act with
  | get _ name default owner =>
    cases made
    exact .get container name default owner _
  | set _ name value =>
    cases made
    exact .set container name value _
  | observer _ name =>
    cases made
    exact .observer container name _
  | markDirty _ names =>
    cases made
    exact .of_observers rfl rfl (Container.observers_markDirty ..)
  | cleanup =>
    cases made
    exact .cleanup container _
  | drop => cases made
  | resetChanges | new | peek | perform =>
    cases made
    exact .of_observers rfl rfl rfl

/-- Where there is no container, only a new one comes, and issues nothing. -/
theorem step_of_free {act : Act} (on : act.place? = some place)
    (free : workspace.containers place = none)
    (made : (workspace.step act).containers place = some next) :
    next.changeset = workspace.store.changesets.size ∧
      (workspace.step act).store.observers = workspace.store.observers := by
  rcases step_of_none on free with idle | new
  · rw [idle, free] at made
    cases made
  · rw [new] at made ⊢
    replace made := (Function.update_self place _ workspace.containers).symm.trans made
    cases made
    exact ⟨rfl, rfl⟩

end

namespace Store

variable {before after store : Store} {changeset : ChangesetId}

theorem keepsBooks_addObserver (store : Store) (value : Value) (observer : ObserverId)
    (name : String) : store.KeepsBooks (store.addObserver value observer name).2 := by
  unfold addObserver
  split
  · have grows := grows_inherit store value [⟨observer, name⟩]
    exact ⟨grows.observers, fun changeset => by simp only [isThere, attach, grows.changesets],
      congrArg Array.size grows.changesets⟩
  · exact .refl store

theorem keepsBooks_notify (store : Store) (observer : ObserverId) (name : String) :
    store.KeepsBooks (store.notify observer name) :=
  ⟨observers_notify .., isThere_notify _ _ _, size_notify ..⟩

theorem keepsBooks_removeObserver (store : Store) (value : Value) (observer : ObserverId) :
    store.KeepsBooks (store.removeObserver value observer).2 := by
  unfold removeObserver detachObserver
  split
  · exact ⟨rfl, fun _ => rfl, rfl⟩
  · exact .refl store

theorem keepsBooks_removeBinding (store : Store) (value : Value) (observer : ObserverId)
    (name : String) : store.KeepsBooks (store.removeBinding value observer name).2 := by
  unfold removeBinding detach
  split
  · exact ⟨rfl, fun _ => rfl, rfl⟩
  · exact .refl store

end Store

/-- A move that is no act on a container leaves the containers where they are. -/
theorem keepsBooks_moving {workspace : Workspace} {move : Move}
    (off : ∀ act, move.act? = some act → act.place? = none) :
    (workspace.moving move).containers = workspace.containers ∧
      workspace.store.KeepsBooks (workspace.moving move).store := by
  cases move with
  | removeObserver value observer => exact ⟨rfl, Store.keepsBooks_removeObserver ..⟩
  | removeBinding value observer name => exact ⟨rfl, Store.keepsBooks_removeBinding ..⟩
  | deed deed =>
    cases deed with
    | attach value observer name => exact ⟨rfl, Store.keepsBooks_addObserver ..⟩
    | notify observer name => exact ⟨rfl, Store.keepsBooks_notify ..⟩
    | act act =>
      cases act with
      | perform operation => exact ⟨rfl, (flows_run operation workspace.store).keepsBooks⟩
      | _ => cases off _ rfl

/-- A move is an act on a container, or is none. -/
theorem Move.on_or_off (move : Move) : (∃ act place, move = .deed (.act act) ∧
      act.place? = some place) ∨ ∀ act, move.act? = some act → act.place? = none := by
  match move with
  | .deed (.act act) =>
    cases on : act.place? with
    | some place => exact Or.inl ⟨act, place, rfl, on⟩
    | none => exact Or.inr fun _ same => Option.some.inj same ▸ on
  | .deed (.attach ..) | .deed (.notify ..) | .removeObserver .. | .removeBinding .. =>
    exact Or.inr nofun

namespace Workspace.Orderly

variable {workspace : Workspace}

theorem start : Workspace.start.Orderly := ⟨Sound.start.toBooked, nofun⟩

/-- An act leaves the workspace in order. -/
theorem step (orderly : workspace.Orderly) {act : Act} {place : Nat} (on : act.place? = some place) :
    (workspace.step act).Orderly where
  booked := (follows_doing orderly.booked (.act act)).booked
  exhausts {other container} found := by
    by_cases same : other = place
    · subst same
      cases here : workspace.containers other with
      | some mine => exact (serves_step on here found).exhausts (orderly.exhausts here)
      | none =>
        -- no observer marks a changeset that comes only now
        obtain ⟨new, observers⟩ := step_of_free on here found
        intro marks
        rw [observers, new] at marks
        exact absurd (orderly.booked.pointed marks) (lt_irrefl _)
    · rw [containers_step_of_ne on same] at found
      have spares := spares_step orderly.booked on same found
      obtain ⟨_, flows⟩ := act.flows_prepared workspace
      intro marks
      refine orderly.exhausts found ?_
      rw [← flows.observers]
      exact (spares.observers _).mp marks

theorem moving (orderly : workspace.Orderly) (move : Move) : (workspace.moving move).Orderly := by
  rcases move.on_or_off with ⟨act, place, rfl, on⟩ | off
  · exact orderly.step on
  · obtain ⟨kept, books⟩ := @keepsBooks_moving workspace move off
    refine ⟨?_, fun {_ _} found {observer} marks => ?_⟩
    · have ledger : (workspace.moving move).ledger = workspace.ledger := by
        funext place
        simp only [Workspace.ledger, kept]
      rw [ledger]
      exact orderly.booked.of_same books.observers books.there books.changesets
    · rw [kept] at found
      rw [books.observers] at marks
      exact orderly.exhausts found marks

theorem movedBy (history : List Move) : (Workspace.movedBy history).Orderly := by
  induction history with
  | nil => exact start
  | cons move earlier ih => exact ih.moving move

end Workspace.Orderly

/-! ### Silence -/

/-- **No write reaches a changeset**: an observer marks it only if its container has ended. -/
structure Store.Silent (store : Store) (changeset : ChangesetId) : Prop where
  inside : changeset < store.changesets.size
  unheard : ∀ {observer : ObserverId}, store.observers[observer]? = some (some changeset) →
    store.isThere changeset = false

namespace Store.Silent

variable {before after store : Store} {changeset : ChangesetId}

theorem keepsBooks (silent : before.Silent changeset) (books : before.KeepsBooks after) :
    after.Silent changeset where
  inside := silent.inside.trans_eq books.changesets.symm
  unheard marks := by
    rw [books.observers] at marks
    rw [books.there]
    exact silent.unheard marks

/-- No observer marks a silent changeset, not even by hand. -/
theorem notify (silent : store.Silent changeset) (observer : ObserverId) (name : String) :
    (store.notify observer name).changesets[changeset]? = store.changesets[changeset]? := by
  unfold Store.notify
  split
  · next own marks =>
    simp only [Store.mark, Store.modifyChangeset, Array.getElem?_modify]
    split
    · next same =>
      subst same
      have gone := silent.unheard marks
      unfold Store.isThere at gone
      revert gone
      rcases store.changesets[own]? with _ | _ | names <;> simp
    · rfl
  · rfl

theorem notifyAll (silent : store.Silent changeset) (bindings : List Binding) :
    (store.notifyAll bindings).changesets[changeset]? = store.changesets[changeset]? := by
  induction bindings generalizing store with
  | nil => rfl
  | cons first rest ih =>
    rw [Store.notifyAll_cons, ih (silent.keepsBooks (Store.keepsBooks_notify ..)), silent.notify]

/-- **No write to any node changes a silent changeset.** -/
theorem mutate (silent : store.Silent changeset) (target : Ref) (content : Content) :
    (store.mutate target content).changesets[changeset]? = store.changesets[changeset]? :=
  have written : (store.setContent target content).Silent changeset :=
    ⟨silent.inside, silent.unheard⟩
  written.notifyAll _

theorem run (silent : store.Silent changeset) (operation : Operation) :
    (operation.run store).2.changesets[changeset]? = store.changesets[changeset]? := by
  cases writes : operation.target? store with
  | none => rw [(Operation.reads_of_target writes).changesets]
  | some target =>
    obtain ⟨content, same⟩ := Operation.exists_mutate_of_target writes
    rw [same]
    exact silent.mutate target content

/-- **No program changes a silent changeset**, whatever it reads out of what, and writes to. -/
theorem runAlone {α : Type} (silent : store.Silent changeset) (program : Program Empty α) :
    (program.runAlone store).2.changesets[changeset]? = store.changesets[changeset]? := by
  induction program generalizing store with
  | done result => rfl
  | look next ih => exact ih store silent
  | perform operation next ih =>
    have still := silent.keepsBooks (flows_run operation store).keepsBooks
    exact (ih _ still).trans (silent.run operation)
  | keep name value next ih =>
    have still : (store.keep name value).Silent changeset := ⟨silent.inside, silent.unheard⟩
    exact ih still
  | ask question => exact nomatch question

end Store.Silent

/-- A container that is cleaned up falls silent. -/
theorem Container.Exhausts.silent_cleanup {container : Container} {store : Store}
    (so : container.Exhausts store) (inside : container.changeset < store.changesets.size) :
    (container.cleanup store).2.Silent container.changeset :=
  ⟨inside.trans_eq (container.size_cleanup store).symm, fun marks => absurd marks (so.cleanup _)⟩

/-- A container that ends falls silent. -/
theorem Container.silent_drop {container : Container} {store : Store}
    (inside : container.changeset < store.changesets.size) :
    (container.drop store).Silent container.changeset := by
  have gone {stage : Store} (size : stage.changesets.size = store.changesets.size) :
      (stage.dropChangeset container.changeset).Silent container.changeset := by
    refine ⟨?_, fun _ => isThere_dropChangeset_self ..⟩
    simp only [Store.dropChangeset, Array.size_modify, size]
    exact inside
  simp only [Container.drop]
  split
  · exact gone rfl
  · exact gone (container.size_cleanup store)

namespace Workspace.Orderly

variable {workspace : Workspace} {act : Act} {place : Nat} {container next : Container}
  {changeset : ChangesetId}

/-- A container that issues nothing stays silent. -/
theorem silent_own (orderly : workspace.Orderly) (on : act.place? = some place)
    (made : (workspace.step act).containers place = some next)
    (silent : workspace.store.Silent next.changeset)
    (held : ∀ {name observer}, next.observers.get? name = some observer →
      ∃ mine, workspace.containers place = some mine ∧ mine.observers.get? name = some observer) :
    (workspace.step act).store.Silent next.changeset where
  inside := (orderly.step on).booked.lt_of_there (ledger_of_some made)
  unheard marks := by
    obtain ⟨name, known⟩ := (orderly.step on).exhausts made marks
    obtain ⟨mine, found, known⟩ := held known
    rw [(serves_step on found made).changeset] at silent
    have gone := silent.unheard (orderly.booked.issued (ledger_of_some found) known)
    cases gone.symm.trans (orderly.booked.there (ledger_of_some found))

/-- A container that ends falls silent. -/
theorem silent_ended (orderly : workspace.Orderly) (on : act.place? = some place)
    (found : workspace.containers place = some container)
    (ended : (workspace.step act).containers place = none) :
    (workspace.step act).store.Silent container.changeset := by
  rw [step_of_some on found] at ended ⊢
  replace ended : (act.does container workspace.store).1 = none :=
    (Function.update_self place _ workspace.containers).symm.trans ended
  cases act with
  | drop => exact Container.silent_drop (orderly.booked.lt_of_there (ledger_of_some found))
  | _ => cases ended

/-- What is done to a container that has nothing to do with a changeset does not break its silence. -/
theorem silent_apart (on : act.place? = some place)
    (apart : ∀ {mine}, workspace.containers place = some mine →
      mine.Apart changeset workspace.store)
    (silent : workspace.store.Silent changeset) : (workspace.step act).store.Silent changeset := by
  obtain ⟨_, flows⟩ := act.flows_prepared workspace
  have prepared := silent.keepsBooks flows.keepsBooks
  have spares := spares_of_apart on silent.inside apart
  refine ⟨?_, fun {observer} marks => ?_⟩
  · have present := Array.getElem?_eq_getElem prepared.inside
    rw [← spares.marks] at present
    exact (Array.getElem?_eq_some_iff.mp present).1
  · have gone := prepared.unheard ((spares.observers observer).mp marks)
    rw [Store.isThere] at gone ⊢
    rw [spares.marks]
    exact gone

/-- **Silence lasts** until the container of the changeset issues an observer. -/
theorem silent_step (orderly : workspace.Orderly) (on : act.place? = some place)
    (silent : workspace.store.Silent changeset)
    (none : ¬ (Move.deed (.act act)).Issues workspace changeset) :
    (workspace.step act).store.Silent changeset := by
  by_cases own : ∃ next, (workspace.step act).containers place = some next ∧
    next.changeset = changeset
  · -- whatever the container holds it held before, for else it were issued now
    obtain ⟨next, made, rfl⟩ := own
    refine orderly.silent_own on made silent fun {name observer} known => ?_
    by_contra fresh
    push Not at fresh
    exact none ⟨place, next, name, observer, made, rfl, known, fresh⟩
  · by_cases before : ∃ mine, workspace.containers place = some mine ∧ mine.changeset = changeset
    · -- a container keeps its changeset, so that this one is gone
      obtain ⟨mine, found, rfl⟩ := before
      refine orderly.silent_ended on found ?_
      cases made : (workspace.step act).containers place with
      | none => rfl
      | some next => exact absurd ⟨next, made, (serves_step on found made).changeset⟩ own
    · refine silent_apart on (fun {mine} found => ?_) silent
      have ne : mine.changeset ≠ changeset := fun same => before ⟨mine, found, same⟩
      refine ⟨ne, fun known marks => ne ?_⟩
      have issued := orderly.booked.issued (ledger_of_some found) known
      exact Option.some.inj (Option.some.inj (issued.symm.trans marks))

/-- After a cleanup, or its end, a container is silent. -/
theorem silent_after (orderly : workspace.Orderly)
    (ends : act = .cleanup place ∨ act = .drop place)
    (found : workspace.containers place = some container) :
    (workspace.step act).store.Silent container.changeset := by
  have inside := orderly.booked.lt_of_there (ledger_of_some found)
  rcases ends with rfl | rfl
  · rw [step_of_some rfl found]
    exact Container.Exhausts.silent_cleanup (orderly.exhausts found) inside
  · rw [step_of_some rfl found]
    exact Container.silent_drop inside

end Workspace.Orderly

/-- **Silence lasts through all that containers and the code around them do**, until the container of the
changeset issues an observer. -/
theorem silent_movedBy {changeset : ChangesetId} {earlier later : List Move}
    (silent : (Workspace.movedBy earlier).store.Silent changeset)
    (none : NoneIssued changeset earlier later) :
    (Workspace.movedBy (later ++ earlier)).store.Silent changeset := by
  induction later with
  | nil => exact silent
  | cons move before ih =>
    have still := ih none.2
    rcases move.on_or_off with ⟨act, place, rfl, on⟩ | off
    · exact (Workspace.Orderly.movedBy _).silent_step on still none.1
    · exact still.keepsBooks (keepsBooks_moving off).2

/-! ### Containers that share values -/

/--
**Containers that share values do not disturb each other.** In every workspace that moves lead to, an
act on one container leaves each other one as it is: its values, its marks, its observers, and their
bindings on all nodes, from when the code for a default value has run. And once a container was cleaned
up, or has ended, no program changes its changeset, through whatever handles it writes, until the
container issues an observer again.
-/
theorem containers_undisturbed :
    (∀ (history : List Move) (act : Act) (place other : Nat) (container : Container),
      act.place? = some place → other ≠ place →
      (Workspace.movedBy history).containers other = some container →
      ((Workspace.movedBy history).step act).containers other = some container ∧
        Store.Spares container.changeset (act.prepared (Workspace.movedBy history))
          ((Workspace.movedBy history).step act).store) ∧
    ∀ (earlier later : List Move) (act : Act) (place : Nat) (container : Container),
      act = .cleanup place ∨ act = .drop place →
      (Workspace.movedBy earlier).containers place = some container →
      NoneIssued container.changeset (.deed (.act act) :: earlier) later →
      ∀ program : Program Empty Value,
        let store := (Workspace.movedBy (later ++ .deed (.act act) :: earlier)).store
        (program.runAlone store).2.changesets[container.changeset]? =
          store.changesets[container.changeset]? := by
  constructor
  · intro history act place other container on ne found
    refine ⟨(containers_step_of_ne on ne).trans found, ?_⟩
    exact spares_step (Workspace.Orderly.movedBy history).booked on ne found
  · intro earlier later act place container ends found none program
    have silent : (Workspace.movedBy (.deed (.act act) :: earlier)).store.Silent
        container.changeset := (Workspace.Orderly.movedBy earlier).silent_after ends found
    exact (silent_movedBy silent none).runAlone program

/-- Two containers store one list of lists, and the list inside is read. -/
def sharedAndRead : List Move :=
  [.deed (.act (.resetChanges 1)), .deed (.act (.perform (.listItem 1 0))),
    .deed (.act (.set 1 "theirs" (.list 1))), .deed (.act (.set 0 "mine" (.list 1))),
    .deed (.act (.perform (.newList [.list 0]))), .deed (.act (.perform (.newList []))),
    .deed (.act (.new 1)), .deed (.act (.new 0))]

theorem containers_undisturbed_of_nested :
    ∃ mine theirs, (Workspace.movedBy sharedAndRead).containers 0 = some mine ∧
      (Workspace.movedBy sharedAndRead).containers 1 = some theirs ∧
      Store.Spares theirs.changeset (Workspace.movedBy sharedAndRead).store
        ((Workspace.movedBy sharedAndRead).step (.cleanup 0)).store ∧
      let store := (Workspace.movedBy (.deed (.act (.perform (.listItem 1 0))) ::
        .deed (.act (.cleanup 0)) :: sharedAndRead)).store
      let written := ((Program.perform (.listPush 0 .nil) fun _ => .done .nil :
        Program Empty Value).runAlone store).2
      written.changesets[mine.changeset]? = store.changesets[mine.changeset]? ∧
        "theirs" ∉ theirs.changes store ∧ "theirs" ∈ theirs.changes written := by
  have mine : (Workspace.movedBy sharedAndRead).containers 0 = some _ := rfl
  have theirs : (Workspace.movedBy sharedAndRead).containers 1 = some _ := rfl
  have spared := containers_undisturbed.1 sharedAndRead (.cleanup 0) 0 1 _ rfl (by decide) theirs
  have none : NoneIssued 0 (.deed (.act (.cleanup 0)) :: sharedAndRead)
      [.deed (.act (.perform (.listItem 1 0)))] :=
    ⟨fun ⟨_, _, _, _, found, _, held, fresh⟩ => fresh _ found held, trivial⟩
  have silent := containers_undisturbed.2 sharedAndRead _ (.cleanup 0) 0 _ (.inl rfl) mine none
    (.perform (.listPush 0 .nil) fun _ => .done .nil)
  exact ⟨_, _, mine, theirs, spared.2, silent, by decide +kernel, by decide +kernel⟩

/-- One container stores a list; the other one is still empty. -/
def storedElsewhere : List Move :=
  [.deed (.act (.resetChanges 1)), .deed (.act (.set 1 "theirs" (.list 0))),
    .deed (.act (.perform (.newList []))), .deed (.act (.new 1)), .deed (.act (.new 0))]

/-- A default value whose code writes to the list. -/
def pushingDefault : VarDefault :=
  .factory (.perform (.listPush 0 (.int 1)) fun _ => .done .nil)

/--
**The code for a default value may disturb another container**: it may write to a value that the other
one stores.
-/
theorem disturbed_by_default :
    ¬ ∀ (history : List Move) (act : Act) (place other : Nat) (container : Container),
      act.place? = some place → other ≠ place →
      (Workspace.movedBy history).containers other = some container →
      container.changes ((Workspace.movedBy history).step act).store =
        container.changes (Workspace.movedBy history).store := by
  intro claimed
  let asked : Act := .get 0 "mine" pushingDefault ⟨"owner", "Owner"⟩
  have same : ((Workspace.movedBy storedElsewhere).step asked).store.marked 1 =
      (Workspace.movedBy storedElsewhere).store.marked 1 :=
    claimed storedElsewhere asked 0 1 _ rfl (by decide) rfl
  have marked : "theirs" ∈ ((Workspace.movedBy storedElsewhere).step asked).store.marked 1 := by
    decide +kernel
  rw [same] at marked
  exact absurd marked (by decide +kernel)

end ReactiveView
