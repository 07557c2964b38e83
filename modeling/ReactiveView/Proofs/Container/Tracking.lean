/-
**Tracking follows the stored value.**

In every reachable workspace the observer that a container has issued for a name watches exactly the
nodes obtained through that name. So a write to a node marks the names through which the node was
obtained, and no others.

* `Sound.watch`, `Sound.retire`, `Sound.cleanup` — what the functions of a container keep.
* `sound_step`, `sound_after` — one act, and a row of acts.
* `marks_iff_obtained` — a write marks a name exactly if the node was obtained through it.
-/

import ReactiveView.Proofs.Container.Sound
import ReactiveView.Proofs.Container.Workspace

namespace ReactiveView

/-- What a container has issued. -/
def Container.account (container : Container) : Account :=
  ⟨container.changeset, container.observers⟩

namespace Sound

variable {store after : Store} {ledger : Ledger} {watched : Watched} {place : Nat}
  {container : Container}

/-! ### Storing a value -/

/-- The observer of a name, issued now or before. -/
theorem observer (sound : Sound store ledger watched)
    (found : ledger place = some container.account) (name : String) :
    let (observer, next, after) := container.observer name store
    Sound after (Function.update ledger place (some next.account)) watched ∧
      next.account.observers.get? name = some observer ∧ after.nodes = store.nodes := by
  unfold Container.observer
  cases known : container.observers.get? name with
  | some observer =>
    refine ⟨?_, known, rfl⟩
    rw [← found, Function.update_eq_self]
    exact sound
  | none => exact ⟨sound.issue found known, OrderedMap.get?_insert_self .., rfl⟩

/-- **A container stores a value**: its name watches it from now on. -/
theorem watch (sound : Sound store ledger watched)
    (found : ledger place = some container.account) (name : String) (value : Value) :
    let (next, after) := container.watch name value store
    Sound after (Function.update ledger place (some next.account)) fun at' asked ref =>
      watched at' asked ref ∨
        (at' = place ∧ asked = name ∧ value.ref? = some ref ∧ ref < store.nodes.size) := by
  have issued := sound.observer found name
  unfold Container.watch
  generalize container.observer name store = answer at issued ⊢
  obtain ⟨observer, next, after⟩ := answer
  obtain ⟨kept, known, nodes⟩ := issued
  have attached := kept.attach (Function.update_self ..) known value
  rw [nodes] at attached
  exact attached

/-! ### Replacing a value -/

/-- **The observer of a name is retired**: the name watches nothing any more. -/
theorem retire (sound : Sound store ledger watched)
    (found : ledger place = some container.account) (name : String) (old : Value) :
    let (next, after) := container.retire name old store
    Sound after (Function.update ledger place (some next.account)) (fun at' asked ref =>
        watched at' asked ref ∧ ¬ (at' = place ∧ asked = name)) ∧
      after.nodes.size = store.nodes.size := by
  unfold Container.retire
  cases known : container.observers.get? name with
  | none =>
    refine ⟨?_, rfl⟩
    rw [← found, Function.update_eq_self]
    refine sound.congr fun at' asked ref => (and_iff_left_of_imp ?_).symm
    rintro watches ⟨rfl, rfl⟩
    obtain ⟨observer, issued, _⟩ := (sound.exact found).mp watches
    cases known.symm.trans issued
  | some observer =>
    have own (other : ObserverId) (member : other ∈ [observer]) :
        ∃ asked, container.observers.get? asked = some other :=
      ⟨name, (List.mem_singleton.mp member) ▸ known⟩
    have silenced := sound.silence found (show (⟨container.changeset,
      container.observers.erase name⟩ : Account).changeset = _ from rfl)
      (sound.get?_erase_eq_some found known) own
    have detached :=
      silenced.still (Store.flows_detach (Store.isAlive_retire store observer) old name)
    refine ⟨detached.congr fun at' asked ref => ?_, ?_⟩
    · refine and_congr_right fun _ => not_congr (and_congr_right fun _ => ?_)
      simp only [List.mem_singleton, exists_eq_left]
      exact ⟨fun held => sound.distinct found held known, fun same => same ▸ known⟩
    · rw [Store.size_detach]
      rfl

/-- Marking names keeps what is watched. -/
theorem markDirty (sound : Sound store ledger watched) (container : Container)
    (names : List String) : Sound (container.markDirty names store) ledger watched := by
  unfold Container.markDirty
  induction names generalizing store with
  | nil => exact sound
  | cons name rest ih =>
    exact ih (sound.still (Store.flows_modifyChangeset store container.changeset _))

/--
**A container stores another value under a name**: the name watches the new node, and no more what
it watched before, unless the node that was there is stored once more.
-/
theorem set (sound : Sound store ledger watched)
    (found : ledger place = some container.account) (name : String) (value : Value) :
    let (next, after) := container.set name value store
    Sound after (Function.update ledger place (some next.account)) fun at' asked ref =>
      (at' = place ∧ asked = name ∧ value.ref? = some ref ∧ ref < store.nodes.size) ∨
        (watched at' asked ref ∧ ¬ (at' = place ∧ asked = name ∧ ∃ old,
          container.values.get? name = some old ∧ old.sameNode value = false)) := by
  -- without a value to replace, storing is watching
  have stored (kept : ¬ ∃ old, container.values.get? name = some old ∧
      old.sameNode value = false) :=
    ((sound.watch found name value).markDirty (container.watch name value store).1 [name]).congr
      fun at' asked ref => show _ ↔
        (at' = place ∧ asked = name ∧ value.ref? = some ref ∧ ref < store.nodes.size) ∨
        (watched at' asked ref ∧ ¬ (at' = place ∧ asked = name ∧ ∃ old,
          container.values.get? name = some old ∧ old.sameNode value = false)) by
      simp only [kept, and_false, not_false_eq_true, and_true]
      exact or_comm
  unfold Container.set
  cases present : container.values.get? name with
  | none =>
    rw [present] at stored
    refine stored ?_
    rintro ⟨_, held, _⟩
    cases held
  | some old =>
    rw [present] at stored
    cases same : old.sameNode value with
    | true =>
      simp only [same, if_true]
      refine stored ?_
      rintro ⟨other, held, differs⟩
      cases held
      cases same.symm.trans differs
    | false =>
      have retired := sound.retire found name old
      simp only [same, Bool.false_eq_true, if_false]
      generalize container.retire name old store = answer at retired ⊢
      obtain ⟨next, after⟩ := answer
      obtain ⟨silent, size⟩ := retired
      have watching := (silent.watch (Function.update_self ..) name value).markDirty
        (next.watch name value after).1 [name]
      rw [Function.update_idem, size] at watching
      refine watching.congr fun at' asked ref => or_comm.trans (or_congr_right ?_)
      refine and_congr_right fun _ => not_congr ?_
      exact ⟨fun here => ⟨here.1, here.2, old, rfl, same⟩, fun here => ⟨here.1, here.2.1⟩⟩

/-! ### Cleaning up -/

/-- Takes some observers off some values. -/
def detachAll (taken : List ObserverId) (values : List Value) (store : Store) : Store :=
  values.foldl (fun store value =>
    taken.foldl (fun store observer => store.detachObserver value observer) store) store

theorem retire_detachObserver (gone : List ObserverId) (value : Value) (observer : ObserverId)
    (store : Store) : gone.foldl Store.retire (store.detachObserver value observer) =
      (gone.foldl Store.retire store).detachObserver value observer := by
  induction gone generalizing store with
  | nil => rfl
  | cons first rest ih =>
    have one : (store.detachObserver value observer).retire first =
        (store.retire first).detachObserver value observer := by
      unfold Store.detachObserver
      split <;> rfl
    rw [List.foldl_cons, List.foldl_cons, one, ih]

/-- Taking observers off values and retiring them may be done in either order. -/
theorem retire_detachAll (gone taken : List ObserverId) (values : List Value) (store : Store) :
    gone.foldl Store.retire (detachAll taken values store) =
      detachAll taken values (gone.foldl Store.retire store) := by
  have all (value : Value) : ∀ (rest : List ObserverId) (store : Store),
      gone.foldl Store.retire
          (rest.foldl (fun store observer => store.detachObserver value observer) store) =
        rest.foldl (fun store observer => store.detachObserver value observer)
          (gone.foldl Store.retire store) := by
    intro rest
    induction rest with
    | nil => exact fun _ => rfl
    | cons first rest ih =>
      intro store
      rw [List.foldl_cons, List.foldl_cons, ih, retire_detachObserver]
  induction values generalizing store with
  | nil => rfl
  | cons value rest ih =>
    exact (ih _).trans (congrArg (detachAll taken rest) (all value taken store))

/-- Observers that are not alive may be taken off: nothing flows. -/
theorem flows_detachAll {taken : List ObserverId} (values : List Value)
    (dead : ∀ observer ∈ taken, store.isAlive observer = false) :
    Store.Flows .still store (detachAll taken values store) := by
  have all (value : Value) : ∀ (rest : List ObserverId) (store : Store),
      (∀ observer ∈ rest, store.isAlive observer = false) →
      Store.Flows .still store
        (rest.foldl (fun store observer => store.detachObserver value observer) store) := by
    intro rest
    induction rest with
    | nil => exact fun store _ => Store.Flows.refl store
    | cons first rest ih =>
      intro store dead
      have flows := Store.flows_detachObserver (dead first List.mem_cons_self) value
      exact flows.still_trans (ih _ fun observer member =>
        (flows.isAlive observer).trans (dead observer (List.mem_cons_of_mem _ member)))
  induction values generalizing store with
  | nil => exact Store.Flows.refl store
  | cons value rest ih =>
    have flows := all value taken store dead
    exact flows.still_trans (ih fun observer member =>
      (flows.isAlive observer).trans (dead observer member))

/-- **A container is cleaned up**: nothing is watched under its names any more. -/
theorem cleanup (sound : Sound store ledger watched)
    (found : ledger place = some container.account) :
    let (next, after) := container.cleanup store
    Sound after (Function.update ledger place (some next.account)) fun at' asked ref =>
      watched at' asked ref ∧ at' ≠ place := by
  have issued {asked : String} {observer : ObserverId}
      (known : container.observers.get? asked = some observer) :
      observer ∈ container.observers.values :=
    (container.observers.mem_values_iff observer).mpr ⟨asked, known⟩
  have silenced := sound.silence found (show (⟨container.changeset, OrderedMap.empty⟩ :
      Account).changeset = _ from rfl)
    (fun {asked other} => ⟨fun none => (by cases none), fun held => absurd (issued held.1) held.2⟩)
    fun observer => (container.observers.mem_values_iff observer).mp
  have detached := silenced.still (flows_detachAll container.values.values
    fun _ => isAlive_retired store)
  rw [← retire_detachAll] at detached
  refine (detached.still (Store.flows_modifyChangeset _ container.changeset _)).congr
    fun at' asked ref => and_congr_right fun watches => not_congr ?_
  refine ⟨fun held => held.1, ?_⟩
  rintro rfl
  obtain ⟨observer, known, _⟩ := (sound.exact found).mp watches
  exact ⟨rfl, observer, issued known, known⟩

/-! ### Writing -/

/-- A write to a node marks the names that watch it. -/
theorem marks_iff {account : Account} (sound : Sound store ledger watched)
    (found : ledger place = some account) {name : String} {target : Ref} :
    (store.isThere account.changeset = true ∧ ∃ observer,
      ⟨observer, name⟩ ∈ store.bindings target ∧
        store.observers[observer]? = some (some account.changeset)) ↔
      watched place name target := by
  rw [sound.exact found]
  constructor
  · rintro ⟨there, observer, member, marks⟩
    -- the observer is alive, so some container has issued it, and it can only be this one
    obtain ⟨other, rest, issuer, known⟩ :=
      sound.owned member (Store.isAlive_iff.mpr ⟨_, marks, there⟩)
    obtain rfl := sound.place_eq found issuer known marks
    obtain rfl : rest = account := Option.some.inj (issuer.symm.trans found)
    exact ⟨observer, known, member⟩
  · rintro ⟨observer, known, member⟩
    exact ⟨sound.there found, observer, member, sound.issued found known⟩

end Sound

/-! ### Acts -/

/-- What the containers of a workspace have issued. -/
def Workspace.ledger (workspace : Workspace) : Ledger := fun place =>
  (workspace.containers place).map Container.account

/-- What is watched after an act. -/
def Act.next (act : Act) (before : Workspace) (watched : Watched) : Watched := fun place name ref =>
  act.Stores before place name ref ∨
    (∃ source, act.reads before source ref ∧ watched place name source) ∨
    (watched place name ref ∧ ¬ act.Replaces before place name)

theorem ledger_update (store : Store) (containers : Nat → Option Container) (place : Nat)
    (next : Option Container) :
    Workspace.ledger ⟨store, Function.update containers place next⟩ =
      Function.update (Workspace.ledger ⟨store, containers⟩) place
        (next.map Container.account) := by
  funext other
  by_cases same : other = place
  · subst same
    simp [Workspace.ledger]
  · simp [Workspace.ledger, same]

/-- A workspace is sound if its store is, with what its containers have issued. -/
abbrev Workspace.Sound (workspace : Workspace) (watched : Watched) : Prop :=
  ReactiveView.Sound workspace.store workspace.ledger watched

section

variable {workspace : Workspace} {watched : Watched} {place : Nat} {container : Container}

theorem ledger_of_some (found : workspace.containers place = some container) :
    workspace.ledger place = some container.account := by
  simp only [Workspace.ledger, found, Option.map_some]

/-- Where there is no container an act on it does nothing. -/
theorem onContainer_of_none (free : workspace.containers place = none)
    (f : Container → Store → Option Container × Store) :
    workspace.onContainer place f = workspace := by
  simp only [Workspace.onContainer, free]

theorem onContainer_of_some (found : workspace.containers place = some container)
    (f : Container → Store → Option Container × Store) :
    workspace.onContainer place f = ⟨(f container workspace.store).2,
      Function.update workspace.containers place (f container workspace.store).1⟩ := by
  simp only [Workspace.onContainer, found]

theorem sound_onContainer {next : Watched} (found : workspace.containers place = some container)
    {f : Container → Store → Option Container × Store}
    (sound : ReactiveView.Sound (f container workspace.store).2
      (Function.update workspace.ledger place
        ((f container workspace.store).1.map Container.account)) next) :
    (workspace.onContainer place f).Sound next := by
  rw [onContainer_of_some found, Workspace.Sound, ledger_update]
  exact sound

/-- What is watched where the container of an act is not there. -/
theorem next_of_none {act : Act} (sound : workspace.Sound watched)
    (free : workspace.containers place = none)
    (none : ∀ at' name ref, ¬ act.Stores workspace at' name ref)
    (still : ∀ source ref, ¬ act.reads workspace source ref)
    (own : ∀ at' name, act.Replaces workspace at' name → at' = place) :
    workspace.Sound (act.next workspace watched) := by
  refine sound.congr fun at' name ref => ?_
  have absent : ¬ (watched at' name ref ∧ act.Replaces workspace at' name) := by
    rintro ⟨watches, replaces⟩
    obtain rfl := own at' name replaces
    exact sound.absent (by simp only [Workspace.ledger, free, Option.map_none]) watches
  simp only [Act.next, none, still, false_and, exists_false, false_or]
  exact ⟨fun watches => ⟨watches, fun replaces => absent ⟨watches, replaces⟩⟩, And.left⟩

/-- What is watched after an act that stores nothing, reads nothing and replaces nothing. -/
theorem next_of_idle {act : Act} (none : ∀ at' name ref, ¬ act.Stores workspace at' name ref)
    (still : ∀ source ref, ¬ act.reads workspace source ref)
    (kept : ∀ at' name, ¬ act.Replaces workspace at' name) (at' : Nat) (name : String) (ref : Ref) :
    watched at' name ref ↔ act.next workspace watched at' name ref := by
  simp [Act.next, none, still, kept]

/-- What computing a default lets flow. -/
theorem flows_compute (default : VarDefault) (name : String) (owner : Owner) (store : Store) :
    Store.Flows (default.reads owner store) store (default.compute name owner store).2 := by
  cases default with
  | absent => exact Store.Flows.refl store
  | literal value =>
    simp only [VarDefault.compute]
    split
    · exact Store.Flows.refl store
    · exact store.flows_ofJson value
  | factory make => exact make.flows_runAlone store
  | withOwner make => exact (make owner).flows_runAlone store

theorem stores_set (found : workspace.containers place = some container) {name : String}
    {value : Value} {at' : Nat} {asked : String} {ref : Ref} :
    (Act.set place name value).Stores workspace at' asked ref ↔
      at' = place ∧ asked = name ∧ value.ref? = some ref ∧ ref < workspace.store.nodes.size := by
  constructor
  · rintro ⟨rfl, rfl, _, handle, inside⟩
    exact ⟨rfl, rfl, handle, inside⟩
  · rintro ⟨rfl, rfl, handle, inside⟩
    exact ⟨rfl, rfl, found ▸ Option.some_ne_none _, handle, inside⟩

theorem replaces_set (found : workspace.containers place = some container) {name : String}
    {value : Value} {at' : Nat} {asked : String} :
    (Act.set place name value).Replaces workspace at' asked ↔
      at' = place ∧ asked = name ∧ ∃ old, container.values.get? name = some old ∧
        old.sameNode value = false := by
  constructor
  · rintro ⟨rfl, rfl, other, old, there, held, differs⟩
    obtain rfl : container = other := Option.some.inj (found.symm.trans there)
    exact ⟨rfl, rfl, old, held, differs⟩
  · rintro ⟨rfl, rfl, old, held, differs⟩
    exact ⟨rfl, rfl, container, old, found, held, differs⟩

theorem stores_get (found : workspace.containers place = some container) {name : String}
    (absent : container.values.get? name = none) {default : VarDefault} {owner : Owner}
    {value : Value} {store : Store}
    (computed : default.compute name owner workspace.store = (.ok value, store)) {at' : Nat}
    {asked : String} {ref : Ref} :
    (Act.get place name default owner).Stores workspace at' asked ref ↔
      at' = place ∧ asked = name ∧ value.ref? = some ref ∧ ref < store.nodes.size := by
  constructor
  · rintro ⟨rfl, rfl, _, other, after, _, _, computes, handle, inside⟩
    obtain ⟨rfl, rfl⟩ : value = other ∧ store = after := by
      simpa using computed.symm.trans computes
    exact ⟨rfl, rfl, handle, inside⟩
  · rintro ⟨rfl, rfl, handle, inside⟩
    exact ⟨rfl, rfl, container, value, store, found, absent, computed, handle, inside⟩

theorem sound_set (sound : workspace.Sound watched) (place : Nat) (name : String) (value : Value) :
    (workspace.step (.set place name value)).Sound
      ((Act.set place name value).next workspace watched) := by
  cases found : workspace.containers place with
  | none =>
    rw [Workspace.step, onContainer_of_none found]
    refine next_of_none sound found ?_ (fun _ _ => id) fun at' asked replaces => replaces.1.symm
    rintro at' asked ref ⟨rfl, _, there, _⟩
    exact there found
  | some container =>
    have here := ledger_of_some found
    refine sound_onContainer found ?_
    have stored := sound.set here name value
    generalize container.set name value workspace.store = answer at stored ⊢
    refine stored.congr fun at' asked ref => ?_
    simp only [Act.next, stores_set found, replaces_set found, Act.reads, Flow.still, false_and,
      exists_false, false_or]

theorem sound_get (sound : workspace.Sound watched) (place : Nat) (name : String)
    (default : VarDefault) (owner : Owner) :
    (workspace.step (.get place name default owner)).Sound
      ((Act.get place name default owner).next workspace watched) := by
  cases found : workspace.containers place with
  | none =>
    rw [Workspace.step, onContainer_of_none found]
    refine next_of_none sound found ?_ ?_ fun _ _ => False.elim
    · rintro at' asked ref ⟨rfl, _, container, _, _, there, _⟩
      cases found.symm.trans there
    · intro source ref reads
      simp [Act.reads, found, Flow.still] at reads
  | some container =>
    have here := ledger_of_some found
    refine sound_onContainer found ?_
    cases stored : container.values.get? name with
    | some value =>
      simp only [Container.get, stored, Option.map_some]
      rw [← here, Function.update_eq_self]
      refine sound.congr (next_of_idle ?_ ?_ fun _ _ => id)
      · rintro at' asked ref ⟨rfl, rfl, other, _, _, there, absent, _⟩
        obtain rfl : container = other := Option.some.inj (found.symm.trans there)
        cases stored.symm.trans absent
      · intro source ref reads
        simp [Act.reads, found, stored, Flow.still] at reads
    | none =>
      have reads : (Act.get place name default owner).reads workspace =
          default.reads owner workspace.store := by
        simp [Act.reads, found, stored]
      have flowed := sound.flow (flows_compute default name owner workspace.store)
      simp only [Container.get, stored]
      cases computed : default.compute name owner workspace.store with | mk made store
      rw [computed] at flowed
      cases made with
      | error error =>
        simp only [Option.map_some]
        rw [← here, Function.update_eq_self]
        refine flowed.congr fun at' asked ref => ?_
        have known : ¬ (Act.get place name default owner).Stores workspace at' asked ref := by
          rintro ⟨rfl, rfl, _, _, _, _, _, computes, _⟩
          cases computed.symm.trans computes
        simp only [Act.next, known, reads, Act.Replaces, not_false_eq_true, and_true, false_or]
        exact or_comm
      | ok value =>
        have watching := flowed.watch here name value
        dsimp only
        generalize container.watch name value store = answer at watching ⊢
        refine watching.congr fun at' asked ref => ?_
        simp only [Act.next, stores_get found stored computed, reads, Act.Replaces,
          not_false_eq_true, and_true]
        rw [or_comm, or_comm (a := watched at' asked ref)]

/-- What is watched after an act that keeps what is watched at its place. -/
theorem sound_idle {act : Act} {f : Container → Store → Option Container × Store}
    (sound : workspace.Sound watched) (place : Nat)
    (none : ∀ at' name ref, ¬ act.Stores workspace at' name ref)
    (still : ∀ source ref, ¬ act.reads workspace source ref)
    (kept : ∀ at' name, ¬ act.Replaces workspace at' name)
    (does : ∀ {container}, workspace.containers place = some container →
      ReactiveView.Sound (f container workspace.store).2 (Function.update workspace.ledger place
        ((f container workspace.store).1.map Container.account)) watched) :
    (workspace.onContainer place f).Sound (act.next workspace watched) := by
  refine Sound.congr ?_ (next_of_idle none still kept)
  cases found : workspace.containers place with
  | none =>
    rw [onContainer_of_none found]
    exact sound
  | some container => exact sound_onContainer found (does found)

/-- What is watched after a container has come to an end of its values. -/
theorem sound_ending {act : Act} {f : Container → Store → Option Container × Store}
    (sound : workspace.Sound watched) (place : Nat)
    (none : ∀ at' name ref, ¬ act.Stores workspace at' name ref)
    (still : ∀ source ref, ¬ act.reads workspace source ref)
    (own : ∀ at' name, act.Replaces workspace at' name ↔ at' = place)
    (does : ∀ {container}, workspace.containers place = some container →
      ReactiveView.Sound (f container workspace.store).2 (Function.update workspace.ledger place
        ((f container workspace.store).1.map Container.account))
        fun at' name ref => watched at' name ref ∧ at' ≠ place) :
    (workspace.onContainer place f).Sound (act.next workspace watched) := by
  cases found : workspace.containers place with
  | none =>
    rw [onContainer_of_none found]
    exact next_of_none sound found none still fun at' name => (own at' name).mp
  | some container =>
    refine (sound_onContainer found (does found)).congr fun at' name ref => ?_
    simp only [Act.next, none, still, own, false_and, exists_false, false_or]

theorem sound_new (sound : workspace.Sound watched) (place : Nat) :
    (workspace.step (.new place)).Sound ((Act.new place).next workspace watched) := by
  refine Sound.congr ?_ (next_of_idle (fun _ _ _ => id) (fun _ _ => id) fun _ _ => id)
  rw [Workspace.step, Workspace.newContainer]
  cases found : workspace.containers place with
  | some container => exact sound
  | none =>
    dsimp only
    rw [ledger_update]
    exact sound.new (by simp only [Workspace.ledger, found, Option.map_none])

theorem sound_drop (sound : workspace.Sound watched) (place : Nat) :
    (workspace.step (.drop place)).Sound ((Act.drop place).next workspace watched) := by
  refine sound_ending sound place (fun _ _ _ => id) (fun _ _ => id) (fun _ _ => eq_comm)
    fun {container} found => ?_
  have here := ledger_of_some found
  simp only [Container.drop, Option.map_none]
  split
  · exact sound.drop here
  · have cleaned := sound.cleanup here
    generalize container.cleanup workspace.store = answer at cleaned ⊢
    have dropped := cleaned.drop (Function.update_self ..)
    rw [Function.update_idem] at dropped
    exact dropped.congr fun _ _ _ => and_iff_left_of_imp And.right

/-- **What is watched after an act**: what it stores and reads, and what it does not replace. -/
theorem sound_step (sound : workspace.Sound watched) (act : Act) :
    (workspace.step act).Sound (act.next workspace watched) := by
  cases act with
  | new place => exact sound_new sound place
  | get place name default owner => exact sound_get sound place name default owner
  | set place name value => exact sound_set sound place name value
  | peek place name =>
    exact sound.congr (next_of_idle (fun _ _ _ => id) (fun _ _ => id) fun _ _ => id)
  | observer place name =>
    refine sound_idle sound place (fun _ _ _ => id) (fun _ _ => id) (fun _ _ => id)
      fun {container} found => ?_
    have issued := sound.observer (ledger_of_some found) name
    generalize container.observer name workspace.store = answer at issued ⊢
    exact issued.1
  | markDirty place names =>
    refine sound_idle sound place (fun _ _ _ => id) (fun _ _ => id) (fun _ _ => id)
      fun {container} found => ?_
    simp only [Option.map_some]
    rw [← ledger_of_some found, Function.update_eq_self]
    exact sound.markDirty container names
  | resetChanges place =>
    refine sound_idle sound place (fun _ _ _ => id) (fun _ _ => id) (fun _ _ => id)
      fun {container} found => ?_
    simp only [Option.map_some]
    rw [← ledger_of_some found, Function.update_eq_self]
    exact sound.still (Store.flows_modifyChangeset _ container.changeset _)
  | cleanup place =>
    refine sound_ending sound place (fun _ _ _ => id) (fun _ _ => id) (fun _ _ => eq_comm)
      fun {container} found => ?_
    have cleaned := sound.cleanup (ledger_of_some found)
    generalize container.cleanup workspace.store = answer at cleaned ⊢
    exact cleaned
  | drop place => exact sound_drop sound place
  | perform operation =>
    refine (sound.flow (flows_run operation workspace.store)).congr fun at' name ref => ?_
    simp only [Act.next, Act.Stores, Act.reads, Act.Replaces, not_false_eq_true, and_true, false_or]
    exact or_comm

end

/-! ### Rows of acts -/

/-- One more act: what is obtained then. -/
theorem obtained_cons {place : Nat} {name : String} {act : Act} {earlier : List Act} {ref : Ref} :
    act.next (Workspace.after earlier) (fun place name ref => Obtained place name earlier ref)
      place name ref ↔ Obtained place name (act :: earlier) ref := by
  constructor
  · rintro (stores | ⟨source, reads, obtained⟩ | ⟨obtained, stays⟩)
    · exact .stored stores
    · exact .read obtained reads
    · exact .kept obtained stays
  · rintro (⟨stores⟩ | ⟨obtained, reads⟩ | ⟨obtained, stays⟩)
    · exact Or.inl stores
    · exact Or.inr (Or.inl ⟨_, reads, obtained⟩)
    · exact Or.inr (Or.inr ⟨obtained, stays⟩)

/-- After a value was replaced, only what took its place is obtained. -/
theorem obtained_of_replaces {place : Nat} {name : String} {act : Act} {earlier : List Act}
    {ref : Ref} (replaces : act.Replaces (Workspace.after earlier) place name) :
    Obtained place name (act :: earlier) ref ↔
      act.Stores (Workspace.after earlier) place name ref := by
  rw [← obtained_cons]
  have still (source : Ref) : ¬ act.reads (Workspace.after earlier) source ref := by
    cases act with
    | set | cleanup | drop => exact id
    | _ => cases replaces
  simp only [Act.next, still, replaces, false_and, exists_false, not_true_eq_false, and_false,
    or_false]

/-- **In every reachable workspace a name watches what was obtained through it.** -/
theorem sound_after (history : List Act) :
    (Workspace.after history).Sound fun place name ref => Obtained place name history ref := by
  induction history with
  | nil =>
    refine Sound.start.congr fun _ _ _ => ⟨False.elim, fun obtained => ?_⟩
    cases obtained
  | cons act earlier ih => exact (sound_step ih act).congr fun _ _ _ => obtained_cons

/--
**A write marks a name exactly if the node was obtained through it**, in every workspace that acts
lead to: the node that is stored under the name, or one read out of it since it came to be stored
there, through as many readings as it may be.
-/
theorem marks_iff_obtained (history : List Act) {place : Nat} {container : Container}
    (found : (Workspace.after history).containers place = some container)
    {operation : Operation} {target : Ref}
    (writes : operation.target? (Workspace.after history).store = some target) (name : String) :
    name ∈ container.changes (operation.run (Workspace.after history).store).2 ↔
      name ∈ container.changes (Workspace.after history).store ∨
        Obtained place name history target := by
  obtain ⟨content, same⟩ := Operation.exists_mutate_of_target writes
  rw [same, Container.changes, Store.mem_marked_mutate]
  exact or_congr_right ((sound_after history).marks_iff (ledger_of_some found))

/-- A list of lists comes to be stored under `items`, and the list inside it is read. -/
def readInside : List Act :=
  [.resetChanges 0, .perform (.listItem 1 0), .set 0 "items" (.list 1), .new 0,
    .perform (.newList [.list 0]), .perform (.newList [])]

/-- A write to the list inside marks `items`, and no longer once another value is stored there. -/
theorem marks_iff_obtained_of_nested :
    (∃ container, (Workspace.after readInside).containers 0 = some container ∧
      "items" ∈ container.changes
        ((Operation.listPush 0 .nil).run (Workspace.after readInside).store).2) ∧
    ∃ container, (Workspace.after (.resetChanges 0 :: .set 0 "items" .nil :: readInside)).containers
        0 = some container ∧
      "items" ∉ container.changes ((Operation.listPush 0 .nil).run
        (Workspace.after (.resetChanges 0 :: .set 0 "items" .nil :: readInside)).store).2 := by
  constructor
  · have present : (Workspace.after readInside).containers 0 = some _ := rfl
    refine ⟨_, present, (marks_iff_obtained readInside present rfl "items").mpr (Or.inr ?_)⟩
    refine .kept (.read (.stored ⟨rfl, rfl, Option.some_ne_none _, rfl, ?_⟩)
      ⟨rfl, ⟨.list 0, ?_, rfl⟩, ?_⟩) id
    all_goals decide
  · have present : (Workspace.after (.resetChanges 0 :: .set 0 "items" .nil ::
      readInside)).containers 0 = some _ := rfl
    refine ⟨_, present, fun marked => ?_⟩
    rcases (marks_iff_obtained _ present rfl "items").mp marked with before | obtained
    · cases before
    · obtain stores | ⟨_, reads⟩ | ⟨obtained, _⟩ := obtained
      · exact stores
      · exact reads
      · have replaces : (Act.set 0 "items" .nil).Replaces (Workspace.after readInside) 0 "items" :=
          ⟨rfl, rfl, _, .list 1, rfl, rfl, rfl⟩
        cases ((obtained_of_replaces replaces).mp obtained).2.2.2.1

end ReactiveView
