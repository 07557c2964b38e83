/-
**Changes that are confined to some nodes.**

Code that has to do with some nodes only leaves the others as they are: what they hold, and under which
names they are watched. A container that stores another value under one of its names retires an observer
that may be bound to nodes anywhere; but then the name is marked, and a write would mark it once more.

* `Store.Rewatched` — containers change what they watch and what is marked.
* `Store.Confined` — a change that is confined to some nodes, up to names that are marked.
* `Container.rewatched_watch`, `Container.rewatched_set` — what containers do.
-/

import ReactiveView.Proofs.Container.Accounts
import ReactiveView.Proofs.Tracked.Writing

namespace ReactiveView

/-- Names of changesets. -/
abbrev Marks := ChangesetId → String → Prop

namespace Store

variable {reach : Ref → Prop} {before after later store : Store} {flow : Flow}
  {changeset : ChangesetId} {name : String} {ref : Ref}

theorem Watches.inside (watches : store.Watches changeset name ref) : ref < store.nodes.size := by
  obtain ⟨_, observer, member, _⟩ := watches
  by_contra outside
  rw [bindings_of_size_le (not_lt.mp outside)] at member
  cases member

/-! ### What containers do -/

/-- **Containers change what they watch**: some nodes are watched anew, some names watch nothing any more,
and some names are marked. What nodes hold stays. -/
structure Rewatched (gains : ChangesetId → String → Ref → Prop) (loses marks : Marks)
    (before after : Store) : Prop where
  nodes : before.Extends after
  size : after.nodes.size = before.nodes.size
  kept : after.kept = before.kept
  watches : ∀ {changeset name ref}, after.Watches changeset name ref ↔ gains changeset name ref ∨
    (before.Watches changeset name ref ∧ ¬ loses changeset name)
  marked : ∀ {changeset name}, name ∈ after.marked changeset ↔
    name ∈ before.marked changeset ∨ marks changeset name
  /-- A name that watches nothing any more is marked. -/
  told : ∀ {changeset name}, loses changeset name → marks changeset name

/-- Bindings pass on from a node to a value that is read out of it. -/
theorem rewatched_inherit (store : Store) (value : Value) (origin : Ref) :
    Rewatched (fun changeset name ref => value.ref? = some ref ∧ ref < store.nodes.size ∧
        store.Watches changeset name origin) (fun _ _ => False) (fun _ _ => False) store
      (store.inherit value (store.bindings origin)) where
  nodes := (grows_inherit ..).extends
  size := size_inherit ..
  kept := (grows_inherit ..).kept
  watches {changeset name ref} := by
    rw [(flows_inherit store value origin).watches_iff, or_comm]
    refine or_congr ⟨?_, ?_⟩ (by simp)
    · rintro ⟨source, ⟨rfl, handle, inside⟩, watched⟩
      exact ⟨handle, inside, watched⟩
    · rintro ⟨handle, inside, watched⟩
      exact ⟨origin, ⟨rfl, handle, inside⟩, watched⟩
  marked := by simp [marked, (grows_inherit ..).changesets]
  told := False.elim

/-! ### Confined changes -/

/-- **A change that is confined to some nodes**, and to new ones. The others hold what they held, and are
watched under the same names but for those that are marked. -/
structure Confined (reach : Ref → Prop) (before after : Store) : Prop where
  size : before.nodes.size ≤ after.nodes.size
  content : ∀ {ref}, ref < before.nodes.size → ¬ reach ref → after.content ref = before.content ref
  finite : ∀ {ref}, before.Finite ref → after.Finite ref
  kept : after.kept = before.kept
  marks : ∀ {changeset name}, name ∈ before.marked changeset → name ∈ after.marked changeset
  watches : ∀ {ref}, ref < before.nodes.size → ¬ reach ref → ∀ {changeset name},
    name ∉ after.marked changeset →
    (after.Watches changeset name ref ↔ before.Watches changeset name ref)

namespace Confined

theorem refl (reach : Ref → Prop) (store : Store) : Confined reach store store :=
  ⟨le_rfl, fun _ _ => rfl, id, rfl, id, fun _ _ _ _ _ => Iff.rfl⟩

/-- One change after another, which may have to do with the nodes that the first one made. -/
theorem andThen (first : Confined reach before after)
    (second : Confined (fun ref => reach ref ∨ before.nodes.size ≤ ref) after later) :
    Confined reach before later := by
  have outside {ref : Ref} (inside : ref < before.nodes.size) (free : ¬ reach ref) :
      ¬ (reach ref ∨ before.nodes.size ≤ ref) := not_or.mpr ⟨free, not_le.mpr inside⟩
  refine ⟨first.size.trans second.size, fun inside free => ?_, fun finite =>
    second.finite (first.finite finite), second.kept.trans first.kept,
    fun marked => second.marks (first.marks marked), fun inside free changeset name clean => ?_⟩
  · rw [second.content (inside.trans_le first.size) (outside inside free), first.content inside free]
  · rw [second.watches (inside.trans_le first.size) (outside inside free) clean]
    exact first.watches inside free fun marked => clean (second.marks marked)

/-- A new node gets bindings of others, and no other node does. -/
theorem newNode {content : Content} {bindings : List Binding} {origins : Ref → Prop}
    (flows : Flows (fun source ref => origins source ∧ ref = store.nodes.size) store
      (store.newNode content bindings).2) :
    Confined reach store (store.newNode content bindings).2 := by
  have grows := grows_newNode store content bindings
  refine ⟨grows.size, fun inside _ => grows.content _ inside, Finite.grow grows, grows.kept,
    fun marked => by rwa [Store.marked, grows.changesets], fun {ref} inside _ changeset name _ => ?_⟩
  rw [flows.watches_iff]
  refine or_iff_left ?_
  rintro ⟨_, ⟨_, new⟩, _⟩
  exact inside.ne new

theorem rewatched {gains : ChangesetId → String → Ref → Prop} {loses marks : Marks}
    (changes : Rewatched gains loses marks before after)
    (within : ∀ {changeset name ref}, gains changeset name ref → reach ref) :
    Confined reach before after := by
  refine ⟨changes.size.ge, fun inside _ => changes.nodes.content _ inside, fun finite =>
    finite.extend changes.nodes, changes.kept, fun marked => changes.marked.mpr (Or.inl marked),
    fun {ref} _ free changeset name clean => ?_⟩
  rw [changes.watches]
  constructor
  · rintro (gained | ⟨watched, _⟩)
    · exact absurd (within gained) free
    · exact watched
  · exact fun watched => Or.inr ⟨watched, fun lost => clean (changes.marked.mpr (Or.inr (changes.told lost)))⟩

/-- A node is written to. -/
theorem mutate {target : Ref} {content : Content} (here : reach target)
    (self : (store.mutate target content).Finite target) :
    Confined reach store (store.mutate target content) := by
  have writes := store.writes_mutate target content
  refine ⟨writes.size, fun inside free => writes.content _ inside fun same => free (same ▸ here),
    fun finite => finite.mutate_of_self self, kept_mutate .., fun marked =>
      mem_marked_mutate_iff.mpr (Or.inl marked), fun _ _ changeset name _ => ?_⟩
  exact (flows_mutate store target content).still_watches_iff

end Confined

end Store

/-! ### Containers -/

namespace Container

open Store

variable {container : Container} {rest containers : List Container} {store : Store}

theorem size_watch (container : Container) (name : String) (value : Value) (store : Store) :
    (container.watch name value store).2.nodes.size = store.nodes.size := by
  unfold watch observer
  cases container.observers.get? name <;> exact size_inherit ..

theorem mem_marked_of_there {names : List String} {changeset : ChangesetId} {asked : String}
    (there : store.isThere container.changeset = true) :
    asked ∈ (container.markDirty names store).marked changeset ↔
      asked ∈ store.marked changeset ∨ (changeset = container.changeset ∧ asked ∈ names) := by
  rw [mem_marked_markDirty]
  constructor
  · rintro (old | ⟨member, same, _⟩)
    · exact Or.inl old
    · exact Or.inr ⟨same.symm, member⟩
  · rintro (old | ⟨rfl, member⟩)
    · exact Or.inl old
    · exact Or.inr ⟨member, rfl, there⟩

/-- Marking names changes no node, and nothing that is kept. -/
theorem nodes_markDirty (container : Container) (names : List String) (store : Store) :
    (container.markDirty names store).nodes = store.nodes ∧
      (container.markDirty names store).kept = store.kept := by
  unfold markDirty
  induction names generalizing store with
  | nil => exact ⟨rfl, rfl⟩
  | cons name rest ih => exact ih (store.mark container.changeset name)

/-- Names are marked. -/
theorem rewatched_markDirty (enrolled : Enrolled containers store) (member : container ∈ containers)
    (names : List String) :
    Rewatched (fun _ _ _ => False) (fun _ _ => False)
      (fun changeset name => changeset = container.changeset ∧ name ∈ names) store
      (container.markDirty names store) := by
  have same := nodes_markDirty container names store
  refine ⟨extends_of_nodes same.1, by rw [same.1], same.2, fun {changeset name ref} => ?_,
    mem_marked_of_there (enrolled.isThere member), False.elim⟩
  have still : Flows .still store (container.markDirty names store) := by
    unfold markDirty
    refine List.foldlRecOn names _ (Flows.refl store) ?_
    exact fun _ flows _ _ => flows.still_trans (flows_modifyChangeset ..)
  rw [still.still_watches_iff]
  simp

/-- A container stores a value that it had not. -/
theorem rewatched_watch (enrolled : Enrolled (container :: rest) store) (name : String)
    (value : Value) :
    Rewatched (fun changeset asked ref => changeset = container.changeset ∧ asked = name ∧
        value.ref? = some ref ∧ ref < store.nodes.size) (fun _ _ => False) (fun _ _ => False) store
      (container.watch name value store).2 := by
  have frame := frame_watch container name value store
  refine ⟨frame.1, size_watch .., (retains_watch ..).kept, fun {changeset asked ref} => ?_, ?_, False.elim⟩
  · rw [(enrolled.watch name value).2, or_comm]
    simp
  · simp [marked, frame.2]

/-- What happens before a container watches the value that it stores. -/
theorem exists_set_eq (container : Container) (name : String) (value : Value) (store : Store) :
    ∃ (middle : Container) (stored : Store), middle.changeset = container.changeset ∧
      middle.values = container.values ∧ store.Extends stored ∧ stored.nodes.size = store.nodes.size ∧
      stored.changesets = store.changesets ∧ stored.kept = store.kept ∧
      container.set name value store = ((middle.watch name value stored).1,
        (middle.watch name value stored).1.markDirty [name] (middle.watch name value stored).2) := by
  unfold set
  cases container.values.get? name with
  | none => exact ⟨container, store, rfl, rfl, .refl store, rfl, rfl, rfl, rfl⟩
  | some old =>
    dsimp only
    split
    · exact ⟨container, store, rfl, rfl, .refl store, rfl, rfl, rfl, rfl⟩
    · refine ⟨_, _, (retire_frame container name old store).changeset, ?_,
        (retire_frame container name old store).lasts, ?_, ?_, ?_, rfl⟩ <;>
        unfold retire <;> cases container.observers.get? name <;> simp [Store.retire, detach] <;>
        split <;> simp [modifyBindings]

theorem values_set (container : Container) (name : String) (value : Value) (store : Store) :
    (container.set name value store).1.values = container.values.insert name value := by
  obtain ⟨middle, stored, _, values, _, _, _, _, whole⟩ := exists_set_eq container name value store
  rw [whole, values_watch, values]

/-- **A container stores another value under a name**, and marks the name. -/
theorem rewatched_set (enrolled : Enrolled (container :: rest) store) (name : String)
    (value : Value) :
    Rewatched (fun changeset asked ref => changeset = container.changeset ∧ asked = name ∧
        value.ref? = some ref ∧ ref < store.nodes.size)
      (fun changeset asked => changeset = container.changeset ∧ asked = name ∧
        ∃ old, container.values.get? name = some old ∧ old.sameNode value = false)
      (fun changeset asked => changeset = container.changeset ∧ asked = name) store
      (container.set name value store).2 := by
  have watches := (enrolled.set name value).2
  have frame := set_frame container name value store
  obtain ⟨middle, stored, same, _, lasts, size, changesets, kept, whole⟩ :=
    exists_set_eq container name value store
  have there : (middle.watch name value stored).2.isThere
      (middle.watch name value stored).1.changeset = true := by
    rw [changeset_watch, same, isThere, (frame_watch ..).2, changesets]
    exact enrolled.isThere List.mem_cons_self
  refine ⟨frame.1.lasts, ?_, ?_, watches _ _ _, fun {changeset asked} => ?_, fun lost => ⟨lost.1, lost.2.1⟩⟩
  · rw [whole, (nodes_markDirty ..).1, size_watch, size]
  · rw [whole, (nodes_markDirty ..).2, (retains_watch ..).kept, kept]
  · rw [whole, mem_marked_of_there there, marked, (frame_watch ..).2, changesets, changeset_watch, same,
      List.mem_singleton]
    rfl

end Container

end ReactiveView
