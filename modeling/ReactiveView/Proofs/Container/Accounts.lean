/-
**The accounts of some containers.**

Any number of containers live on one store, each with its account under its changeset, and every binding
that is alive is of an observer that one of them has issued. Which nodes are watched then shows from the
store alone: a name is marked by a write to a node if an observer that is alive is bound to the node under
that name. All that containers and programs do keeps the accounts in order.

* `Store.Watches` — a write to a node marks a name of a changeset.
* `Recorded` — a store in which all that is alive was issued; `Recorded.sound` — what is watched in it.
* `Enrolled` — some containers whose accounts are in order.
* `Enrolled.get`, `Enrolled.set`, `Enrolled.drop`, `Enrolled.new` — what containers do.
* `Program.kept_run` — what is kept by all that a program does.
-/

import ReactiveView.Proofs.Container.Frames
import ReactiveView.Proofs.Container.Tracking

namespace ReactiveView

/-! ### What is watched -/

/-- **A node is watched under a name of a changeset**: a write to it marks the name. -/
def Store.Watches (store : Store) (changeset : ChangesetId) (name : String) (ref : Ref) : Prop :=
  store.isThere changeset = true ∧ ∃ observer, ⟨observer, name⟩ ∈ store.bindings ref ∧
    store.observers[observer]? = some (some changeset)

namespace Store

variable {before after store : Store} {flow : Flow} {changeset : ChangesetId} {name : String}
  {ref target : Ref}

theorem Watches.isAlive {observer : ObserverId} (there : store.isThere changeset = true)
    (marks : store.observers[observer]? = some (some changeset)) : store.isAlive observer = true :=
  isAlive_iff.mpr ⟨changeset, marks, there⟩

/-- The names that a write marks are those under which the node is watched. -/
theorem mem_marked_mutate_iff {content : Content} :
    name ∈ (store.mutate target content).marked changeset ↔
      name ∈ store.marked changeset ∨ store.Watches changeset name target := mem_marked_mutate

/-- **Where bindings flow**, what they flow to is watched too. -/
theorem Flows.watches_iff (flows : Flows flow before after) :
    after.Watches changeset name ref ↔ before.Watches changeset name ref ∨
      ∃ source, flow source ref ∧ before.Watches changeset name source := by
  unfold Watches
  rw [flows.there, flows.observers]
  constructor
  · rintro ⟨there, observer, member, marks⟩
    rcases (flows.alive (Watches.isAlive there marks)).mp member with old | ⟨source, flowed, old⟩
    · exact Or.inl ⟨there, observer, old, marks⟩
    · exact Or.inr ⟨source, flowed, there, observer, old, marks⟩
  · rintro (⟨there, observer, member, marks⟩ | ⟨source, flowed, there, observer, member, marks⟩)
    · exact ⟨there, observer,
        (flows.alive (Watches.isAlive there marks)).mpr (Or.inl member), marks⟩
    · exact ⟨there, observer,
        (flows.alive (Watches.isAlive there marks)).mpr (Or.inr ⟨source, flowed, member⟩), marks⟩

theorem Flows.still_watches_iff (flows : Flows .still before after) :
    after.Watches changeset name ref ↔ before.Watches changeset name ref := by
  rw [flows.watches_iff]
  exact or_iff_left (by simp [Flow.still])

end Store

/-! ### Stores in which all that is alive was issued -/

/-- **A store in which all that is alive was issued** by one of some containers, each of which has its
account under its changeset. -/
structure Recorded (store : Store) (ledger : Ledger) : Prop extends Booked store ledger where
  filed : ∀ {place account}, ledger place = some account → account.changeset = place
  known : ∀ {binding : Binding} {ref : Ref}, binding ∈ store.bindings ref →
    binding.observer < store.observers.size
  owned : ∀ {binding : Binding} {ref : Ref}, binding ∈ store.bindings ref →
    store.isAlive binding.observer = true → ∃ place account, ledger place = some account ∧
      account.observers.get? binding.name = some binding.observer

theorem Sound.recorded {store : Store} {ledger : Ledger} {watched : Watched}
    (sound : Sound store ledger watched)
    (filed : ∀ {place account}, ledger place = some account → account.changeset = place) :
    Recorded store ledger := ⟨sound.toBooked, filed, sound.known, sound.owned⟩

namespace Recorded

variable {store after : Store} {ledger : Ledger} {watched : Watched} {place : Nat} {name : String}
  {ref : Ref} (recorded : Recorded store ledger)
include recorded

/-- A name of a container without an account is watched nowhere. -/
theorem not_watches (free : ledger place = none) : ¬ store.Watches place name ref := by
  rintro ⟨there, observer, member, marks⟩
  obtain ⟨other, account, found, known⟩ :=
    recorded.owned member (Store.Watches.isAlive there marks)
  have same : account.changeset = place :=
    Option.some.inj (Option.some.inj ((recorded.issued found known).symm.trans marks))
  rw [recorded.filed found] at same
  subst same
  cases free.symm.trans found

/-- **What is watched shows from the store alone.** -/
theorem sound : Sound store ledger store.Watches where
  toBooked := recorded.toBooked
  known := recorded.known
  owned := recorded.owned
  exact {place account} found {name ref} := by
    have same := recorded.filed found
    constructor
    · rintro ⟨there, observer, member, marks⟩
      obtain ⟨other, rest, issuer, known⟩ :=
        recorded.owned member (Store.Watches.isAlive there marks)
      obtain rfl := recorded.place_eq found issuer known (same ▸ marks)
      cases issuer.symm.trans found
      exact ⟨observer, known, member⟩
    · rintro ⟨observer, known, member⟩
      have marks := recorded.issued found known
      have there := recorded.there found
      rw [same] at marks there
      exact ⟨there, observer, member, marks⟩
  absent free := recorded.not_watches free

/-- Whatever is said to be watched is what shows from the store. -/
theorem watches_iff (sound : Sound store ledger watched) :
    store.Watches place name ref ↔ watched place name ref := by
  cases found : ledger place with
  | none => exact iff_of_false (recorded.not_watches found) (sound.absent found)
  | some account =>
    rw [sound.exact found]
    exact recorded.sound.exact found

theorem flow {flow : Flow} (flows : Store.Flows flow store after) : Recorded after ledger :=
  (recorded.sound.flow flows).recorded recorded.filed

theorem peruses (peruses : store.Peruses after) : Recorded after ledger where
  toBooked := recorded.toBooked.of_same peruses.observers
    (fun changeset => by simp only [Store.isThere, peruses.changesets])
    (congrArg Array.size peruses.changesets)
  filed := recorded.filed
  known member := by
    obtain ⟨source, member⟩ := peruses.origin member
    rw [peruses.observers]
    exact recorded.known member
  owned member alive := by
    obtain ⟨source, member⟩ := peruses.origin member
    obtain ⟨changeset, marks, there⟩ := Store.isAlive_iff.mp alive
    simp only [Store.isThere, peruses.changesets, peruses.observers] at there marks
    exact recorded.owned member (Store.isAlive_iff.mpr ⟨changeset, marks, there⟩)

end Recorded

/-! ### Some containers -/

/-- **Containers whose accounts are in order**: each has its own account under its changeset, and all that
is alive was issued by one that has an account. -/
def Enrolled (containers : List Container) (store : Store) : Prop :=
  ∃ ledger, Recorded store ledger ∧
    (∀ container ∈ containers, ledger container.changeset = some container.account) ∧
    (containers.map Container.changeset).Nodup

namespace Enrolled

variable {containers others rest : List Container} {container next : Container} {store after : Store}

/-- A store on which there is no container yet. -/
theorem start : Enrolled [] Store.empty :=
  ⟨fun _ => none, Sound.start.recorded nofun, by simp, List.nodup_nil⟩

theorem of_subperm (enrolled : Enrolled containers store) (fewer : others.Subperm containers) :
    Enrolled others store := by
  obtain ⟨ledger, recorded, entered, apart⟩ := enrolled
  obtain ⟨same, perm, part⟩ := fewer
  refine ⟨ledger, recorded, fun container member =>
    entered container (part.subset (perm.mem_iff.mpr member)), ?_⟩
  exact (perm.map _).nodup_iff.mp ((part.map _).nodup apart)

theorem perm (enrolled : Enrolled containers store) (same : others.Perm containers) :
    Enrolled others store := enrolled.of_subperm same.subperm

theorem flow {flow : Flow} (enrolled : Enrolled containers store)
    (flows : Store.Flows flow store after) : Enrolled containers after := by
  obtain ⟨ledger, recorded, entered, apart⟩ := enrolled
  exact ⟨ledger, recorded.flow flows, entered, apart⟩

theorem peruses (enrolled : Enrolled containers store) (peruses : store.Peruses after) :
    Enrolled containers after := by
  obtain ⟨ledger, recorded, entered, apart⟩ := enrolled
  exact ⟨ledger, recorded.peruses peruses, entered, apart⟩

/-- The container of an account is still there. -/
theorem isThere (enrolled : Enrolled containers store) (member : container ∈ containers) :
    store.isThere container.changeset = true := by
  obtain ⟨ledger, recorded, entered, _⟩ := enrolled
  exact recorded.there (entered container member)

/-- **One container changes**, and keeps its changeset. -/
theorem step (enrolled : Enrolled (container :: rest) store)
    (changeset : next.changeset = container.changeset) {watched : Watched}
    (does : ∀ {ledger}, Sound store ledger store.Watches →
      ledger container.changeset = some container.account →
      Sound after (Function.update ledger container.changeset (some next.account)) watched) :
    Enrolled (next :: rest) after ∧
      ∀ place name ref, after.Watches place name ref ↔ watched place name ref := by
  obtain ⟨ledger, recorded, entered, apart⟩ := enrolled
  have here := entered container List.mem_cons_self
  have sound := does recorded.sound here
  have filed {place : Nat} {account : Account} (found : Function.update ledger container.changeset
      (some next.account) place = some account) : account.changeset = place := by
    rcases update_eq_some found with ⟨rfl, same⟩ | ⟨_, earlier⟩
    · cases same
      exact changeset
    · exact recorded.filed earlier
  rw [List.map_cons, List.nodup_cons] at apart
  refine ⟨⟨_, sound.recorded filed, fun other member => ?_, ?_⟩,
    fun place name ref => (sound.recorded filed).watches_iff sound⟩
  · rcases List.mem_cons.mp member with rfl | member
    · rw [changeset, Function.update_self]
    · have ne : other.changeset ≠ container.changeset := fun same =>
        apart.1 (List.mem_map.mpr ⟨other, member, same⟩)
      rw [Function.update_of_ne ne]
      exact entered other (List.mem_cons_of_mem _ member)
  · rw [List.map_cons, List.nodup_cons, changeset]
    exact apart

/-! ### What containers do -/

/-- **A container stores a value**: its name watches it from now on. -/
theorem watch (enrolled : Enrolled (container :: rest) store) (name : String) (value : Value) :
    Enrolled ((container.watch name value store).1 :: rest) (container.watch name value store).2 ∧
      ∀ place asked ref, (container.watch name value store).2.Watches place asked ref ↔
        store.Watches place asked ref ∨ (place = container.changeset ∧ asked = name ∧
          value.ref? = some ref ∧ ref < store.nodes.size) := by
  refine enrolled.step (Container.changeset_watch ..) fun sound found => ?_
  have watching := sound.watch found name value
  generalize container.watch name value store = answer at watching ⊢
  exact watching

/-- **A container stores another value under a name**: the name watches the new node, and no more what it
watched before, unless the node that was there is stored once more. -/
theorem set (enrolled : Enrolled (container :: rest) store) (name : String) (value : Value) :
    Enrolled ((container.set name value store).1 :: rest) (container.set name value store).2 ∧
      ∀ place asked ref, (container.set name value store).2.Watches place asked ref ↔
        (place = container.changeset ∧ asked = name ∧ value.ref? = some ref ∧
            ref < store.nodes.size) ∨
          (store.Watches place asked ref ∧ ¬ (place = container.changeset ∧ asked = name ∧ ∃ old,
            container.values.get? name = some old ∧ old.sameNode value = false)) := by
  refine enrolled.step (Container.set_frame ..).1.changeset fun sound found => ?_
  have stored := sound.set found name value
  generalize container.set name value store = answer at stored ⊢
  exact stored

/-- A variable is read: it is given its default if it has no value yet. -/
theorem get (enrolled : Enrolled (container :: rest) store) (name : String) (default : VarDefault)
    (owner : Owner) :
    Enrolled ((container.get name default owner store).2.1 :: rest)
      (container.get name default owner store).2.2 := by
  unfold Container.get
  split
  · exact enrolled
  · have flowed := enrolled.flow (flows_compute default name owner store)
    generalize default.compute name owner store = made at flowed ⊢
    obtain ⟨error | value, made⟩ := made
    · exact flowed
    · exact (flowed.watch name value).1

/-- Names are marked. -/
theorem markDirty (enrolled : Enrolled containers store) (marked : Container)
    (names : List String) : Enrolled containers (marked.markDirty names store) := by
  unfold Container.markDirty
  induction names generalizing store with
  | nil => exact enrolled
  | cons name rest ih => exact ih (enrolled.flow (Store.flows_modifyChangeset ..))

/-- Marks are forgotten. -/
theorem resetChanges (enrolled : Enrolled containers store) (container : Container) :
    Enrolled containers (container.resetChanges store) :=
  enrolled.flow (Store.flows_modifyChangeset ..)

/-- A container is emptied. -/
theorem cleanup (enrolled : Enrolled (container :: rest) store) :
    Enrolled ((container.cleanup store).1 :: rest) (container.cleanup store).2 := by
  have changeset : (container.cleanup store).1.changeset = container.changeset := rfl
  exact (enrolled.step changeset fun sound found => sound.cleanup found).1

/-- **A container ends.** -/
theorem drop (enrolled : Enrolled (container :: rest) store) :
    Enrolled rest (container.drop store) := by
  have dropped {ended : Container} {stored : Store} (enrolled : Enrolled (ended :: rest) stored) :
      Enrolled rest (stored.dropChangeset ended.changeset) := by
    obtain ⟨ledger, recorded, entered, apart⟩ := enrolled
    have sound := recorded.sound.drop (entered ended List.mem_cons_self)
    rw [List.map_cons, List.nodup_cons] at apart
    refine ⟨_, sound.recorded fun found => ?_, fun other member => ?_, apart.2⟩
    · rcases update_eq_some found with ⟨_, none⟩ | ⟨_, earlier⟩
      · cases none
      · exact recorded.filed earlier
    · have ne : other.changeset ≠ ended.changeset := fun same =>
        apart.1 (List.mem_map.mpr ⟨other, member, same⟩)
      rw [Function.update_of_ne ne]
      exact entered other (List.mem_cons_of_mem _ member)
  unfold Container.drop
  dsimp only
  split
  · exact dropped enrolled
  · exact dropped enrolled.cleanup

/-- **A new container.** -/
theorem new (enrolled : Enrolled containers store) :
    Enrolled ((Container.new store).1 :: containers) (Container.new store).2 := by
  obtain ⟨ledger, recorded, entered, apart⟩ := enrolled
  have inside {place : Nat} {account : Account} (found : ledger place = some account) :
      place < store.changesets.size := by
    have below := recorded.lt_of_there found
    rwa [recorded.filed found] at below
  have free : ledger store.changesets.size = none := by
    by_contra taken
    obtain ⟨account, found⟩ := Option.ne_none_iff_exists'.mp taken
    exact lt_irrefl _ (inside found)
  refine ⟨_, (recorded.sound.new free).recorded fun found => ?_, fun container member => ?_, ?_⟩
  · rcases update_eq_some found with ⟨rfl, same⟩ | ⟨_, earlier⟩
    · cases same
      rfl
    · exact recorded.filed earlier
  · rcases List.mem_cons.mp member with rfl | member
    · exact Function.update_self ..
    · have known := entered container member
      rw [Function.update_of_ne (inside known).ne]
      exact known
  · refine List.nodup_cons.mpr ⟨fun member => ?_, apart⟩
    obtain ⟨container, member, same⟩ := List.mem_map.mp member
    exact (inside (entered container member)).ne same

end Enrolled

/-! ### Programs -/

/-- **What is kept by all that a program does**: what it asks, and what flows by its operations. -/
theorem Program.kept_run {Question α σ : Type} {answering : Answering Question σ}
    {motive : σ × Store → Prop}
    (flows : ∀ {world before after flow}, motive (world, before) → Store.Flows flow before after →
      motive (world, after))
    (answers : ∀ {world store}, motive (world, store) → ∀ question,
      motive (answering question world store).2)
    (program : Program Question α) {world : σ} {store : Store} (start : motive (world, store)) :
    motive (program.run answering world store).2 := by
  induction program generalizing world store with
  | done result => exact start
  | look next ih => exact ih store start
  | perform operation next ih => exact ih _ (flows start (flows_run operation store))
  | keep name value next ih =>
    have still : Store.Flows .still store (store.keep name value) :=
      ⟨rfl, fun _ => rfl, rfl, fun _ _ => by simp [Flow.still, Store.keep, Store.bindings],
        fun member => ⟨_, member⟩⟩
    exact ih (flows start still)
  | ask question next ih => exact ih _ (answers start question)

end ReactiveView
