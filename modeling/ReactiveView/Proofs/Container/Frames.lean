/-
**What a change of a container leaves alone.**

A container that comes to store a value changes its observers and its marks. Every node holds what it held,
the marks that were there stay, and so do all changesets; a name that is assigned is marked.

* `Store.Retains` — nodes and what code has kept are left alone; `Container.retains_drop` — by all that
  containers do.
* `Container.Frame` — what a change of a container leaves alone in the store.
* `Container.watch_frame`, `Container.set_frame` — a value is stored, and a name assigned.
-/

import ReactiveView.Container
import ReactiveView.Proofs.Tracked.Flow

namespace ReactiveView

/-! ### What no container touches -/

/-- **Nodes hold what they held, and so does what code has kept**: observers, bindings and marks change. -/
structure Store.Retains (before after : Store) : Prop extends before.Extends after where
  kept : after.kept = before.kept

namespace Store

variable {before after later : Store}

theorem Retains.refl (store : Store) : store.Retains store := ⟨.refl store, rfl⟩

theorem Retains.trans (first : before.Retains after) (second : after.Retains later) :
    before.Retains later :=
  ⟨first.toExtends.trans second.toExtends, second.kept.trans first.kept⟩

theorem retains_of_nodes (nodes : after.nodes = before.nodes) (kept : after.kept = before.kept) :
    before.Retains after := ⟨extends_of_nodes nodes, kept⟩

theorem Grows.retains (grows : before.Grows after) : before.Retains after := ⟨grows.extends, grows.kept⟩

/-- What each step of a fold leaves alone, the fold does. -/
theorem retains_foldl {α : Type} {f : Store → α → Store}
    (each : ∀ (store : Store) (item : α), store.Retains (f store item)) (items : List α)
    (store : Store) : store.Retains (items.foldl f store) := by
  induction items generalizing store with
  | nil => exact .refl store
  | cons item rest ih => exact (each store item).trans (ih _)

end Store

namespace Container

variable {container : Container} {name : String} {value : Value} {store : Store}

/-! ### Watching a value -/

theorem values_watch (container : Container) (name : String) (value : Value) (stage : Store) :
    (container.watch name value stage).1.values = container.values.insert name value := by
  unfold watch observer
  cases container.observers.get? name <;> rfl

theorem changeset_watch (container : Container) (name : String) (value : Value) (stage : Store) :
    (container.watch name value stage).1.changeset = container.changeset := by
  unfold watch observer
  cases container.observers.get? name <;> rfl

/-- Watching a value issues at most an observer. -/
theorem frame_watch (container : Container) (name : String) (value : Value) (stage : Store) :
    stage.Extends (container.watch name value stage).2 ∧
      (container.watch name value stage).2.changesets = stage.changesets := by
  have attached (store : Store) (observer : ObserverId) (same : store.nodes = stage.nodes)
      (marks : store.changesets = stage.changesets) :
      stage.Extends (store.attach value observer name) ∧
        (store.attach value observer name).changesets = stage.changesets := by
    have grows := Store.grows_inherit store value [⟨observer, name⟩]
    exact ⟨(Store.extends_of_nodes same).trans grows.extends, grows.changesets.trans marks⟩
  unfold watch observer
  cases container.observers.get? name <;> exact attached _ _ rfl rfl

/-! ### Frames -/

/-- **What a change of a container leaves alone**: its changeset, what nodes hold, and marks. -/
structure Frame (container : Container) (store : Store) (next : Container) (after : Store) : Prop
    where
  changeset : next.changeset = container.changeset
  lasts : store.Extends after
  marks : ∀ {changeset name}, name ∈ store.marked changeset → name ∈ after.marked changeset
  there : ∀ changeset, after.isThere changeset = store.isThere changeset

theorem Frame.trans {middle last : Container} {stored after : Store}
    (first : Frame container store middle stored) (second : Frame middle stored last after) :
    Frame container store last after where
  changeset := second.changeset.trans first.changeset
  lasts := first.lasts.trans second.lasts
  marks member := second.marks (first.marks member)
  there changeset := (second.there changeset).trans (first.there changeset)

/-- What keeps nodes and changesets is framed. -/
theorem Frame.of_same {next : Container} {after : Store}
    (changeset : next.changeset = container.changeset) (lasts : store.Extends after)
    (changesets : after.changesets = store.changesets) : Frame container store next after where
  changeset := changeset
  lasts := lasts
  marks member := by simpa only [Store.marked, changesets] using member
  there _ := by simp only [Store.isThere, changesets]

theorem watch_frame (container : Container) (name : String) (value : Value) (store : Store) :
    Frame container store (container.watch name value store).1
      (container.watch name value store).2 :=
  have frame := frame_watch container name value store
  .of_same (changeset_watch ..) frame.1 frame.2

theorem retire_frame (container : Container) (name : String) (old : Value) (store : Store) :
    Frame container store (container.retire name old store).1
      (container.retire name old store).2 := by
  have detached (stored : Store) (observer : ObserverId) :
      stored.Extends (stored.detach old observer name) ∧
        (stored.detach old observer name).changesets = stored.changesets := by
    unfold Store.detach
    split
    · exact ⟨Store.extends_modifyBindings .., rfl⟩
    · exact ⟨.refl stored, rfl⟩
  unfold retire
  cases container.observers.get? name with
  | none => exact .of_same rfl (.refl store) rfl
  | some observer =>
    have retired : store.Extends (store.retire observer) := Store.extends_of_nodes rfl
    obtain ⟨lasts, changesets⟩ := detached (store.retire observer) observer
    exact .of_same rfl (retired.trans lasts) changesets

/-- The names that are marked after some more were. -/
theorem mem_marked_markDirty {names : List String} {changeset : ChangesetId} {asked : String} :
    asked ∈ (container.markDirty names store).marked changeset ↔
      asked ∈ store.marked changeset ∨ (asked ∈ names ∧ container.changeset = changeset ∧
        store.isThere changeset = true) := by
  unfold markDirty
  induction names generalizing store with
  | nil => simp
  | cons name rest ih =>
    have there : (store.mark container.changeset name).isThere changeset =
        store.isThere changeset := Store.isThere_modifyChangeset ..
    rw [List.foldl_cons, ih, Store.mem_marked_mark, there, List.mem_cons, or_and_right, or_assoc]

theorem markDirty_frame (container : Container) (names : List String) (store : Store) :
    Frame container store container (container.markDirty names store) where
  changeset := rfl
  lasts := by
    refine Store.extends_of_nodes ?_
    unfold markDirty
    induction names generalizing store with
    | nil => rfl
    | cons name rest ih => exact ih _
  marks member := mem_marked_markDirty.mpr (Or.inl member)
  there changeset := by
    unfold markDirty
    induction names generalizing store with
    | nil => rfl
    | cons name rest ih => exact (ih _).trans (Store.isThere_modifyChangeset ..)

/-- **A name that is assigned is marked.** -/
theorem set_frame (container : Container) (name : String) (value : Value) (store : Store) :
    Frame container store (container.set name value store).1 (container.set name value store).2 ∧
      (store.isThere container.changeset = true →
        name ∈ (container.set name value store).1.changes (container.set name value store).2) := by
  have stored {middle : Container} {stored : Store} (frame : Frame container store middle stored) :
      Frame container store (middle.watch name value stored).1
          ((middle.watch name value stored).1.markDirty [name]
            (middle.watch name value stored).2) ∧
        (store.isThere container.changeset = true →
          name ∈ (middle.watch name value stored).1.changes
            ((middle.watch name value stored).1.markDirty [name]
              (middle.watch name value stored).2)) := by
    have watched := frame.trans (watch_frame middle name value stored)
    refine ⟨watched.trans (markDirty_frame ..), fun there => ?_⟩
    refine mem_marked_markDirty.mpr (Or.inr ⟨List.mem_singleton_self _, rfl, ?_⟩)
    rw [watched.there, watched.changeset]
    exact there
  have still : Frame container store container store := .of_same rfl (.refl store) rfl
  unfold set
  cases container.values.get? name with
  | none => exact stored still
  | some old =>
    dsimp only
    split
    · exact stored still
    · exact stored (retire_frame container name old store)

/-! ### The whole life of a container -/

theorem retains_new (store : Store) : store.Retains (Container.new store).2 :=
  Store.retains_of_nodes rfl rfl

theorem retains_watch (container : Container) (name : String) (value : Value) (store : Store) :
    store.Retains (container.watch name value store).2 := by
  refine ⟨(frame_watch ..).1, ?_⟩
  unfold watch observer
  cases container.observers.get? name <;> exact (Store.grows_inherit ..).kept

theorem retains_resetChanges (container : Container) (store : Store) :
    store.Retains (container.resetChanges store) := Store.retains_of_nodes rfl rfl

/-- What hangs on a container is detached from it, and holds what it held. -/
theorem retains_cleanup (container : Container) (store : Store) :
    store.Retains (container.cleanup store).2 := by
  have detach (value : Value) (store : Store) (observer : ObserverId) :
      store.Retains (store.detachObserver value observer) := by
    unfold Store.detachObserver
    split
    · exact ⟨Store.extends_modifyBindings .., rfl⟩
    · exact .refl store
  have retire (store : Store) (observer : ObserverId) : store.Retains (store.retire observer) :=
    Store.retains_of_nodes rfl rfl
  have detached := Store.retains_foldl (fun store value =>
    Store.retains_foldl (detach value) container.observers.values store) container.values.values store
  have retired (stored : Store) := Store.retains_foldl retire container.observers.values stored
  exact (detached.trans (retired _)).trans (retains_resetChanges ..)

theorem retains_drop (container : Container) (store : Store) :
    store.Retains (container.drop store) := by
  have dropped (stored : Store) (changeset : ChangesetId) :
      stored.Retains (stored.dropChangeset changeset) := Store.retains_of_nodes rfl rfl
  unfold drop
  cases container.values.isEmpty with
  | true => exact dropped store _
  | false => exact (retains_cleanup container store).trans (dropped _ _)

end Container

end ReactiveView
