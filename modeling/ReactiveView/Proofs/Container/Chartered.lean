/-
**Containers with a charter.**

A charter says which names a container may hold values of, and which names may be marked in it. Names come
to a container when it is given a value or asked to mark them; and a write to a node marks the names under
which the node is watched, which are names of observers that the container has issued. So containers keep
to their charters if they are only asked for names that these allow, whatever programs do.

* `Store.Forgets` — no name is marked that was not.
* `Charter`, `Container.Within` — a charter, and a container that keeps to it.
* `Chartered` — containers whose accounts are in order, and which keep to their charters.
* `Chartered.operation`, `Chartered.runAlone` — what programs do to the store.
* `Chartered.get`, `Chartered.set`, `Chartered.markDirty` — what containers are asked.
* `Chartered.new`, `Chartered.drop` — containers come and go.
-/

import ReactiveView.Proofs.Component.Determined
import ReactiveView.Proofs.Container.Confined

namespace ReactiveView

/-! ### Marks that are forgotten -/

/-- No name is marked that was not. -/
def Store.Forgets (before after : Store) : Prop :=
  ∀ ⦃changeset : ChangesetId⦄ ⦃name : String⦄,
    name ∈ after.marked changeset → name ∈ before.marked changeset

theorem Store.forgets_foldl {α : Type} {f : Store → α → Store}
    (each : ∀ (store : Store) (item : α), store.Forgets (f store item)) (items : List α)
    (store : Store) : store.Forgets (items.foldl f store) := by
  induction items generalizing store with
  | nil => exact fun _ _ marked => marked
  | cons item rest ih => exact fun _ _ marked => each store item (ih _ marked)

namespace Container

variable {store : Store} (container : Container)

/-- A container of which the marks are forgotten has none. -/
theorem not_mem_changes_resetChanges (name : String) :
    name ∉ container.changes (container.resetChanges store) := by
  intro marked
  unfold changes resetChanges Store.modifyChangeset Store.marked at marked
  rw [Array.getElem?_modify, if_pos rfl] at marked
  cases held : store.changesets[container.changeset]? with
  | none =>
    rw [held] at marked
    cases marked
  | some names =>
    rw [held] at marked
    cases names <;> cases marked

theorem forgets_resetChanges : store.Forgets (container.resetChanges store) := by
  intro changeset name marked
  by_cases here : container.changeset = changeset
  · subst here
    exact absurd marked (container.not_mem_changes_resetChanges name)
  · unfold resetChanges Store.modifyChangeset Store.marked at marked
    rwa [Array.getElem?_modify, if_neg here] at marked

theorem forgets_dropChangeset (changeset : ChangesetId) :
    store.Forgets (store.dropChangeset changeset) := by
  intro other name marked
  unfold Store.dropChangeset Store.marked at marked
  rw [Array.getElem?_modify] at marked
  split at marked
  · cases held : store.changesets[other]? with
    | none =>
      rw [held] at marked
      cases marked
    | some names =>
      rw [held] at marked
      cases marked
  · exact marked

/-- A container that is emptied marks nothing. -/
theorem forgets_cleanup : store.Forgets (container.cleanup store).2 := by
  have folded {α : Type} (step : Store → α → Store)
      (each : ∀ store item, (step store item).changesets = store.changesets) (items : List α)
      (store : Store) : (items.foldl step store).changesets = store.changesets := by
    induction items generalizing store with
    | nil => rfl
    | cons item rest ih => exact (ih _).trans (each store item)
  have detached (value : Value) (store : Store) (observer : ObserverId) :
      (store.detachObserver value observer).changesets = store.changesets := by
    unfold Store.detachObserver
    split <;> rfl
  intro changeset name marked
  have kept := container.forgets_resetChanges marked
  unfold Store.marked at kept ⊢
  rwa [folded (fun store observer => store.retire observer) (fun _ _ => rfl),
    folded _ fun store value => folded _ (detached value) _ store] at kept

theorem forgets_drop : store.Forgets (container.drop store) := by
  intro changeset name marked
  unfold drop at marked
  dsimp only at marked
  split at marked
  · exact forgets_dropChangeset _ marked
  · exact container.forgets_cleanup (forgets_dropChangeset _ marked)

end Container

/-! ### Containers that keep to their charters -/

/-- **Which names are for a container**: those of its values, and those that may be marked. -/
structure Charter where
  holds : String → Prop
  marks : String → Prop
  within : ∀ {name}, holds name → marks name

/-- A charter allows what another one allows. -/
structure Charter.Allows (charter weaker : Charter) : Prop where
  holds : ∀ {name}, charter.holds name → weaker.holds name
  marks : ∀ {name}, charter.marks name → weaker.marks name

/-- **A container that keeps to its charter**: its values and its marks are under names that the charter
allows, and so are its observers. -/
structure Container.Within (container : Container) (charter : Charter) (store : Store) : Prop where
  values : ∀ {name value}, container.values.get? name = some value → charter.holds name
  observers : ∀ {name observer}, container.observers.get? name = some observer → charter.holds name
  marked : ∀ {name}, name ∈ container.changes store → charter.marks name

/-- A container and its charter. -/
abbrev Tenant := Charter × Container

/-- **Containers that keep to their charters**, with accounts that are in order. -/
structure Chartered (tenants : List Tenant) (store : Store) : Prop where
  enrolled : Enrolled (tenants.map Prod.snd) store
  within : ∀ tenant ∈ tenants, tenant.2.Within tenant.1 store

namespace Chartered

variable {tenants others rest : List Tenant} {charter weaker : Charter} {container next : Container}
  {store after : Store}

theorem of_subperm (chartered : Chartered tenants store) (fewer : others.Subperm tenants) :
    Chartered others store where
  enrolled := by
    obtain ⟨same, perm, part⟩ := fewer
    exact chartered.enrolled.of_subperm ⟨_, perm.map _, part.map _⟩
  within tenant member := chartered.within tenant (fewer.subset member)

theorem perm (chartered : Chartered tenants store) (same : others.Perm tenants) :
    Chartered others store := chartered.of_subperm same.subperm

/-- A container may be given a charter that allows more. -/
theorem relax (chartered : Chartered ((charter, container) :: rest) store)
    (allows : charter.Allows weaker) : Chartered ((weaker, container) :: rest) store where
  enrolled := chartered.enrolled
  within tenant member := by
    rcases List.mem_cons.mp member with rfl | member
    · have own := chartered.within _ List.mem_cons_self
      exact ⟨fun found => allows.holds (own.values found), fun found => allows.holds (own.observers found),
        fun marked => allows.marks (own.marked marked)⟩
    · exact chartered.within tenant (List.mem_cons_of_mem _ member)

/-! ### What happens to the store -/

/-- **A node is watched only under names of values.** -/
theorem holds_of_watches (chartered : Chartered tenants store) {tenant : Tenant}
    (member : tenant ∈ tenants) {name : String} {ref : Ref}
    (watches : store.Watches tenant.2.changeset name ref) : tenant.1.holds name := by
  obtain ⟨ledger, recorded, entered, _⟩ := chartered.enrolled
  have found := entered tenant.2 (List.mem_map.mpr ⟨tenant, member, rfl⟩)
  obtain ⟨observer, issued, _⟩ := (recorded.sound.exact found).mp watches
  exact (chartered.within tenant member).observers issued

/-- The store changes, and marks no name that is not allowed. -/
theorem onStore (chartered : Chartered tenants store) (enrolled : Enrolled (tenants.map Prod.snd) after)
    (marks : ∀ tenant ∈ tenants, ∀ name, name ∈ tenant.2.changes after →
      name ∈ tenant.2.changes store ∨ tenant.1.marks name) : Chartered tenants after where
  enrolled := enrolled
  within tenant member := by
    have own := chartered.within tenant member
    exact ⟨own.values, own.observers, fun {name} marked =>
      (marks tenant member name marked).elim (fun old => own.marked old) id⟩

/-- The store changes, and all marks stay as they are. -/
theorem of_changesets (chartered : Chartered tenants store)
    (enrolled : Enrolled (tenants.map Prod.snd) after) (same : after.changesets = store.changesets) :
    Chartered tenants after := by
  refine chartered.onStore enrolled fun tenant _ name marked => Or.inl ?_
  rwa [Container.changes, Store.marked, same] at marked

theorem peruses (chartered : Chartered tenants store) (peruses : store.Peruses after) :
    Chartered tenants after :=
  chartered.of_changesets (chartered.enrolled.peruses peruses) peruses.changesets

/-- **An operation marks the names under which the written node is watched**, which are names of values. -/
theorem operation (chartered : Chartered tenants store) (operation : Operation) :
    Chartered tenants (operation.run store).2 := by
  have enrolled := chartered.enrolled.flow (flows_run operation store)
  cases writes : operation.target? store with
  | none => exact chartered.of_changesets enrolled (Operation.reads_of_target writes).changesets
  | some target =>
    obtain ⟨content, same⟩ := Operation.exists_mutate_of_target writes
    refine chartered.onStore enrolled fun tenant member name marked => ?_
    rw [Container.changes, same, Store.mem_marked_mutate_iff] at marked
    exact marked.imp_right fun watched => tenant.1.within (chartered.holds_of_watches member watched)

theorem keep (chartered : Chartered tenants store) (name : String) (value : Value) :
    Chartered tenants (store.keep name value) := by
  have still : Store.Flows .still store (store.keep name value) :=
    ⟨rfl, fun _ => rfl, rfl, fun _ _ => by simp [Flow.still, Store.keep, Store.bindings],
      fun member => ⟨_, member⟩⟩
  exact chartered.of_changesets (chartered.enrolled.flow still) rfl

/-- Values are made from plain data. -/
theorem ofJson (chartered : Chartered tenants store) (json : Json) :
    Chartered tenants (Value.ofJson store json).2 :=
  chartered.of_changesets (chartered.enrolled.flow (store.flows_ofJson json))
    (Store.reads_ofJson store json).changesets

/-- **What is kept by all that a program does**: its operations, what it keeps, and what it asks. -/
theorem run {Question α σ : Type} {answering : Program.Answering Question σ}
    (world : σ → List Tenant) (answers : ∀ {state store}, Chartered (world state) store → ∀ question,
      Chartered (world (answering question state store).2.1) (answering question state store).2.2)
    (program : Program Question α) {state : σ} (chartered : Chartered (world state) store) :
    Chartered (world (program.run answering state store).2.1)
      (program.run answering state store).2.2 := by
  induction program generalizing state store with
  | done result => exact chartered
  | look next ih => exact ih store chartered
  | perform operation next ih => exact ih _ (chartered.operation operation)
  | keep name value next ih => exact ih (chartered.keep name value)
  | ask question next ih => exact ih _ (answers chartered question)

theorem runAlone {α : Type} (chartered : Chartered tenants store) (program : Program Empty α) :
    Chartered tenants (program.runAlone store).2 :=
  run (fun _ : Unit => tenants) (fun _ question => nomatch question) program chartered

theorem compute (chartered : Chartered tenants store) (default : VarDefault) (name : String)
    (owner : Owner) : Chartered tenants (default.compute name owner store).2 := by
  cases default with
  | absent => exact chartered
  | factory make => exact chartered.runAlone make
  | withOwner make => exact chartered.runAlone (make owner)
  | literal value =>
    unfold VarDefault.compute
    dsimp only
    split
    · exact chartered
    · exact chartered.ofJson value

/-! ### What containers are asked -/

/-- No two containers have the same changeset. -/
theorem apart (chartered : Chartered ((charter, container) :: rest) store) {tenant : Tenant}
    (member : tenant ∈ rest) : tenant.2.changeset ≠ container.changeset := by
  obtain ⟨_, _, _, nodup⟩ := chartered.enrolled
  rw [List.map_cons, List.map_cons, List.nodup_cons] at nodup
  exact fun same => nodup.1 (List.mem_map.mpr ⟨tenant.2, List.mem_map.mpr ⟨tenant, member, rfl⟩, same⟩)

/-- **One container changes**, and marks only names of its own. -/
theorem change (chartered : Chartered ((charter, container) :: rest) store)
    (enrolled : Enrolled (next :: rest.map Prod.snd) after) (fits : next.Within charter after)
    (marks : ∀ changeset, changeset ≠ container.changeset → ∀ name, name ∈ after.marked changeset →
      name ∈ store.marked changeset) : Chartered ((charter, next) :: rest) after where
  enrolled := enrolled
  within tenant member := by
    rcases List.mem_cons.mp member with rfl | member
    · exact fits
    · have own := chartered.within tenant (List.mem_cons_of_mem _ member)
      exact ⟨own.values, own.observers, fun {name} marked =>
        own.marked (marks _ (chartered.apart member) name marked)⟩

/-- The observers of a container that stores a value: the one of the name may be new. -/
theorem mem_observers_watch {observer : ObserverId} {name asked : String} {value : Value}
    (found : (container.watch name value store).1.observers.get? asked = some observer) :
    asked = name ∨ container.observers.get? asked = some observer := by
  unfold Container.watch Container.observer at found
  cases issued : container.observers.get? name with
  | some known =>
    rw [issued] at found
    exact Or.inr found
  | none =>
    rw [issued] at found
    by_cases same : asked = name
    · exact Or.inl same
    · exact Or.inr ((OrderedMap.get?_insert_of_ne _ same _).symm.trans found)

/-- The observers of a container that is assigned a value, likewise. -/
theorem mem_observers_set {observer : ObserverId} {name asked : String} {value : Value}
    (found : (container.set name value store).1.observers.get? asked = some observer) :
    asked = name ∨ container.observers.get? asked = some observer := by
  have retired {old : Value} (found : (container.retire name old store).1.observers.get? asked =
      some observer) (other : asked ≠ name) : container.observers.get? asked = some observer := by
    unfold Container.retire at found
    cases issued : container.observers.get? name with
    | none =>
      rw [issued] at found
      exact found
    | some known =>
      rw [issued] at found
      exact (OrderedMap.get?_erase_of_ne _ other).symm.trans found
  unfold Container.set at found
  by_cases same : asked = name
  · exact Or.inl same
  · refine Or.inr ?_
    cases known : container.values.get? name with
    | none =>
      rw [known] at found
      exact (mem_observers_watch found).resolve_left same
    | some old =>
      rw [known] at found
      dsimp only at found
      split at found
      · exact (mem_observers_watch found).resolve_left same
      · exact retired ((mem_observers_watch found).resolve_left same) same

/-- **A container stores a value** under a name that its charter allows. -/
theorem watch (chartered : Chartered ((charter, container) :: rest) store) {name : String}
    (allowed : charter.holds name) (value : Value) :
    Chartered ((charter, (container.watch name value store).1) :: rest)
      (container.watch name value store).2 := by
  have own := chartered.within _ List.mem_cons_self
  have marks := (Container.frame_watch container name value store).2
  refine chartered.change (chartered.enrolled.watch name value).1 ⟨?_, ?_, ?_⟩ ?_
  · intro asked known found
    rw [Container.values_watch] at found
    by_cases same : asked = name
    · exact same ▸ allowed
    · rw [OrderedMap.get?_insert_of_ne _ same] at found
      exact own.values found
  · intro asked observer found
    exact (mem_observers_watch found).elim (fun same => same ▸ allowed) own.observers
  · intro asked marked
    rw [Container.changes, Container.changeset_watch, Store.marked, marks] at marked
    exact own.marked marked
  · intro changeset _ asked marked
    rwa [Store.marked, marks] at marked

/-- **A variable is read**: it is given its default if it has no value yet. -/
theorem get (chartered : Chartered ((charter, container) :: rest) store) {name : String}
    (allowed : charter.holds name) (default : VarDefault) (owner : Owner) :
    Chartered ((charter, (container.get name default owner store).2.1) :: rest)
      (container.get name default owner store).2.2 := by
  unfold Container.get
  split
  · exact chartered
  · have made := chartered.compute default name owner
    generalize default.compute name owner store = answer at made ⊢
    obtain ⟨error | value, stored⟩ := answer
    · exact made
    · exact made.watch allowed value

/-- **A variable is assigned**, and marked. -/
theorem set (chartered : Chartered ((charter, container) :: rest) store) {name : String}
    (allowed : charter.holds name) (value : Value) :
    Chartered ((charter, (container.set name value store).1) :: rest)
      (container.set name value store).2 := by
  have own := chartered.within _ List.mem_cons_self
  have rewatched := Container.rewatched_set chartered.enrolled name value
  have frame := (Container.set_frame container name value store).1
  refine chartered.change (chartered.enrolled.set name value).1 ⟨?_, ?_, ?_⟩ ?_
  · intro asked known found
    rw [Container.values_set] at found
    by_cases same : asked = name
    · exact same ▸ allowed
    · rw [OrderedMap.get?_insert_of_ne _ same] at found
      exact own.values found
  · intro asked observer found
    exact (mem_observers_set found).elim (fun same => same ▸ allowed) own.observers
  · intro asked marked
    rw [Container.changes, frame.changeset, rewatched.marked] at marked
    rcases marked with old | ⟨_, same⟩
    · exact own.marked old
    · exact charter.within (same ▸ allowed)
  · intro changeset other asked marked
    exact (rewatched.marked.mp marked).resolve_right fun here => other here.1

/-- **Names are marked** that the charter allows. -/
theorem markDirty (chartered : Chartered ((charter, container) :: rest) store) {names : List String}
    (allowed : ∀ name ∈ names, charter.marks name) :
    Chartered ((charter, container) :: rest) (container.markDirty names store) := by
  have own := chartered.within _ List.mem_cons_self
  refine chartered.change (chartered.enrolled.markDirty container names)
    ⟨own.values, own.observers, ?_⟩ ?_
  · intro asked marked
    rcases Container.mem_marked_markDirty.mp marked with old | ⟨member, _⟩
    · exact own.marked old
    · exact allowed asked member
  · intro changeset other asked marked
    exact (Container.mem_marked_markDirty.mp marked).resolve_right fun here => other here.2.1.symm

/-! ### Containers come and go -/

/-- A store on which there is no container yet. -/
theorem start : Chartered [] Store.empty := ⟨.start, nofun⟩

/-- Marks are forgotten. -/
theorem forget (chartered : Chartered tenants store) (enrolled : Enrolled (tenants.map Prod.snd) after)
    (forgets : store.Forgets after) : Chartered tenants after :=
  chartered.onStore enrolled fun _ _ _ marked => Or.inl (forgets marked)

theorem resetChanges (chartered : Chartered tenants store) (container : Container) :
    Chartered tenants (container.resetChanges store) :=
  chartered.forget (chartered.enrolled.resetChanges container) container.forgets_resetChanges

/-- **A container is emptied**, and may be given any charter then. -/
theorem cleanup (chartered : Chartered ((charter, container) :: rest) store) :
    Chartered ((charter, (container.cleanup store).1) :: rest) (container.cleanup store).2 := by
  have forgets : store.Forgets (container.cleanup store).2 := container.forgets_cleanup
  refine chartered.change chartered.enrolled.cleanup ⟨nofun, nofun, fun {name} marked => ?_⟩
    fun changeset _ name marked => forgets marked
  exact (chartered.within _ List.mem_cons_self).marked (forgets marked)

/-- **A container ends.** -/
theorem drop (chartered : Chartered ((charter, container) :: rest) store) :
    Chartered rest (container.drop store) := by
  have others : Chartered rest store :=
    chartered.of_subperm ((List.sublist_cons_self _ rest).subperm)
  exact others.forget (Enrolled.drop chartered.enrolled) container.forgets_drop

/-- **A new container** has nothing that its charter would not allow. -/
theorem new (chartered : Chartered tenants store) (charter : Charter) :
    Chartered ((charter, (Container.new store).1) :: tenants) (Container.new store).2 := by
  have old {changeset : ChangesetId} {name : String}
      (marked : name ∈ (Container.new store).2.marked changeset) : name ∈ store.marked changeset := by
    unfold Container.new Store.newChangeset Store.marked at marked
    rw [Array.getElem?_push] at marked
    split at marked
    · cases marked
    · exact marked
  refine ⟨chartered.enrolled.new, fun tenant member => ?_⟩
  rcases List.mem_cons.mp member with rfl | member
  · refine ⟨nofun, nofun, fun {name} marked => ?_⟩
    have fresh : name ∈ store.marked store.changesets.size := old marked
    unfold Store.marked at fresh
    rw [Array.getElem?_eq_none (Nat.le_refl _)] at fresh
    cases fresh
  · have own := chartered.within tenant member
    exact ⟨own.values, own.observers, fun marked => own.marked (old marked)⟩

end Chartered

end ReactiveView
