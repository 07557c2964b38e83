/-
**What a container takes with it when it ends.**

A container that ends takes its observers off the values that it stored, retires them, and its changeset
is gone. What any node holds stays, and so do the bindings, the observers and the marks of all others.

* `Store.Releases` — what is taken off, who is retired and which changesets are gone, and nothing else.
* `Container.releases_drop` — one container ends.
-/

import ReactiveView.Proofs.Container.Frames
import ReactiveView.Proofs.Container.Tracking

namespace ReactiveView

/-- What containers give up: bindings of nodes, observers, and changesets. -/
structure Release where
  off : Binding → Ref → Prop
  retired : ObserverId → Prop
  ended : ChangesetId → Prop

namespace Release

/-- Nothing is given up. -/
def none : Release := ⟨fun _ _ => False, fun _ => False, fun _ => False⟩

/-- An observer is taken off a value. -/
def takeOff (value : Value) (observer : ObserverId) : Release :=
  { none with off := fun binding ref => binding.observer = observer ∧ value.ref? = some ref }

/-- An observer is retired. -/
def retire (observer : ObserverId) : Release := { none with retired := (· = observer) }

/-- The container of a changeset is gone. -/
def ending (changeset : ChangesetId) : Release := { none with ended := (· = changeset) }

/-- What is given up in one of two releases. -/
def or (first second : Release) : Release :=
  ⟨fun binding ref => first.off binding ref ∨ second.off binding ref,
    fun observer => first.retired observer ∨ second.retired observer,
    fun changeset => first.ended changeset ∨ second.ended changeset⟩

/-- What is given up in any of many releases. -/
def any {α : Type} (member : α → Prop) (release : α → Release) : Release :=
  ⟨fun binding ref => ∃ item, member item ∧ (release item).off binding ref,
    fun observer => ∃ item, member item ∧ (release item).retired observer,
    fun changeset => ∃ item, member item ∧ (release item).ended changeset⟩

theorem ext {first second : Release}
    (off : ∀ binding ref, first.off binding ref ↔ second.off binding ref)
    (retired : ∀ observer, first.retired observer ↔ second.retired observer)
    (ended : ∀ changeset, first.ended changeset ↔ second.ended changeset) : first = second := by
  obtain ⟨_, _, _⟩ := first
  obtain ⟨_, _, _⟩ := second
  congr
  · exact funext fun binding => funext fun ref => propext (off binding ref)
  · exact funext fun observer => propext (retired observer)
  · exact funext fun changeset => propext (ended changeset)

section

variable {α β : Type} {member : α → Prop} {release : α → Release}

theorem any_empty (empty : ∀ item, ¬ member item) : any member release = none :=
  ext (fun _ _ => by simp [any, none, empty]) (fun _ => by simp [any, none, empty])
    fun _ => by simp [any, none, empty]

theorem any_or {first second : α → Prop}
    (split : ∀ item, member item ↔ first item ∨ second item) :
    any member release = (any first release).or (any second release) :=
  ext (fun _ _ => by simp [any, or, split, or_and_right, exists_or])
    (fun _ => by simp [any, or, split, or_and_right, exists_or])
    fun _ => by simp [any, or, split, or_and_right, exists_or]

theorem any_eq (first : α) : any (· = first) release = release first :=
  ext (fun _ _ => by simp [any]) (fun _ => by simp [any]) fun _ => by simp [any]

end

end Release

/-- **What is left of a store when something was given up**: that, and nothing else, is gone. -/
structure Store.Releases (release : Release) (before after : Store) : Prop
    extends before.Retains after where
  same : after.nodes.size = before.nodes.size
  bindings : ∀ {binding ref}, binding ∈ after.bindings ref ↔
    binding ∈ before.bindings ref ∧ ¬ release.off binding ref
  observers : ∀ {observer : ObserverId} {changeset : ChangesetId},
    after.observers[observer]? = some (some changeset) ↔
      before.observers[observer]? = some (some changeset) ∧ ¬ release.retired observer
  there : ∀ {changeset}, after.isThere changeset = true ↔
    before.isThere changeset = true ∧ ¬ release.ended changeset
  marks : ∀ {changeset}, ¬ release.ended changeset → after.marked changeset = before.marked changeset

namespace Store

variable {before after later store : Store} {release more : Release}

theorem Releases.refl (store : Store) : store.Releases .none store :=
  ⟨.refl store, rfl, by simp [Release.none], by simp [Release.none], by simp [Release.none], by simp⟩

theorem Releases.trans (first : Releases release before after) (second : Releases more after later) :
    Releases (release.or more) before later where
  toRetains := first.toRetains.trans second.toRetains
  same := second.same.trans first.same
  bindings := by simp only [second.bindings, first.bindings, Release.or, not_or, and_assoc, implies_true]
  observers := by
    simp only [second.observers, first.observers, Release.or, not_or, and_assoc, implies_true]
  there := by simp only [second.there, first.there, Release.or, not_or, and_assoc, implies_true]
  marks spared := (second.marks fun ended => spared (.inr ended)).trans
    (first.marks fun ended => spared (.inl ended))

/-- A step for each item of a list gives up what the steps give up. -/
theorem releases_foldl {α : Type} {f : Store → α → Store} {release : α → Release}
    (each : ∀ (store : Store) (item : α), store.Releases (release item) (f store item)) (items : List α)
    (store : Store) : store.Releases (.any (· ∈ items) release) (items.foldl f store) := by
  induction items generalizing store with
  | nil =>
    rw [Release.any_empty (fun _ => List.not_mem_nil)]
    exact .refl store
  | cons item rest ih =>
    rw [Release.any_or (fun _ => List.mem_cons), Release.any_eq]
    exact (each store item).trans (ih _)

/-- Nodes hold what they held, those that were never made included. -/
theorem Releases.content_eq (releases : Releases release before after) (ref : Ref) :
    after.content ref = before.content ref := by
  by_cases inside : ref < before.nodes.size
  · exact releases.content ref inside
  · have outside : ¬ ref < after.nodes.size := releases.same ▸ inside
    simp [Store.content, inside, outside]

/-- An observer that marks what is gone is alive no longer. -/
theorem Releases.dead (releases : Releases release before after) {observer : ObserverId}
    {changeset : ChangesetId} (marks : before.observers[observer]? = some (some changeset))
    (ended : release.ended changeset) : after.isAlive observer = false := by
  rw [Bool.eq_false_iff, ne_eq, isAlive_iff]
  rintro ⟨marked, still, there⟩
  obtain rfl : marked = changeset :=
    Option.some.inj (Option.some.inj ((releases.observers.mp still).1.symm.trans marks))
  exact (releases.there.mp there).2 ended

/-! ### One thing is given up -/

theorem releases_detachObserver (store : Store) (value : Value) (observer : ObserverId) :
    store.Releases (.takeOff value observer) (store.detachObserver value observer) := by
  unfold detachObserver Release.takeOff Release.none
  cases handle : value.ref? with
  | none => exact ⟨.refl store, rfl, by simp, by simp, by simp, by simp⟩
  | some target =>
    refine ⟨⟨extends_modifyBindings .., rfl⟩, by simp [modifyBindings], fun {binding ref} => ?_,
      by simp [modifyBindings], by simp [modifyBindings, isThere], by simp [modifyBindings, marked]⟩
    rw [mem_bindings_filter]
    refine and_congr_right fun _ => ?_
    simp only [ne_eq, decide_eq_true_eq, Option.some.injEq, not_and]
    exact ⟨fun kept off same => kept same.symm off, fun kept same off => kept off same.symm⟩

theorem releases_retire (store : Store) (observer : ObserverId) :
    store.Releases (.retire observer) (store.retire observer) := by
  unfold Release.retire Release.none
  obtain ⟨nodes, changesets, _, observers⟩ := retire_frame store [observer]
  refine ⟨retains_of_nodes nodes rfl, congrArg Array.size nodes, by simp [retire, Store.bindings],
    fun {known changeset} => ?_, by simp [retire, isThere], by simp [retire, marked]⟩
  exact observers.trans (and_congr_right fun _ => not_congr List.mem_singleton)

theorem releases_dropChangeset (store : Store) (gone : ChangesetId) :
    store.Releases (.ending gone) (store.dropChangeset gone) := by
  unfold Release.ending Release.none
  refine ⟨retains_of_nodes rfl rfl, rfl, by simp [dropChangeset, Store.bindings],
    by simp [dropChangeset], fun {changeset} => ?_, fun {changeset} spared => ?_⟩
  · by_cases same : changeset = gone
    · subst same
      simp [isThere_dropChangeset_self]
    · simp [isThere_dropChangeset_of_ne same, same]
  · have other : gone ≠ changeset := Ne.symm spared
    simp [dropChangeset, marked, Array.getElem?_modify, other]

/-- Marks that go with their changeset need not be forgotten first. -/
theorem dropChangeset_modifyChangeset (store : Store) (changeset : ChangesetId)
    (f : NameSet → NameSet) :
    (store.modifyChangeset changeset f).dropChangeset changeset = store.dropChangeset changeset := by
  refine congrArg (fun changesets => { store with changesets }) (Array.ext_getElem? fun other => ?_)
  simp only [modifyChangeset, Array.getElem?_modify]
  split
  · simp [Function.comp_def]
  · rfl

end Store

namespace Container

variable {container : Container} {binding : Binding} {ref : Ref} {store : Store}

/-- A binding that a container has on a value it stores: one of an observer that it has issued. -/
def Binds (container : Container) (binding : Binding) (ref : Ref) : Prop :=
  binding.observer ∈ container.observers.values ∧
    ∃ value ∈ container.values.values, value.ref? = some ref

/-- What a container gives up when it ends: one that stores nothing keeps its observers, which mark
nothing any more. -/
def release (container : Container) : Release :=
  ⟨container.Binds,
    fun observer => container.values.isEmpty = false ∧ observer ∈ container.observers.values,
    (· = container.changeset)⟩

/-- **A container ends**: its bindings, its observers and its changeset are gone, and nothing else. -/
theorem releases_drop (container : Container) (store : Store) :
    store.Releases container.release (container.drop store) := by
  unfold drop
  cases full : container.values.isEmpty with
  | true =>
    have nothing : container.values.values = [] := by
      simpa [OrderedMap.values, OrderedMap.isEmpty] using full
    have dropped := Store.releases_dropChangeset store container.changeset
    have gives : container.release = .ending container.changeset :=
      Release.ext (by simp [release, Binds, nothing, Release.ending, Release.none])
        (by simp [release, full, Release.ending, Release.none]) (by simp [release, Release.ending])
    rw [gives]
    exact dropped
  | false =>
    have detached := Store.releases_foldl (fun store value => Store.releases_foldl
      (fun store observer => Store.releases_detachObserver store value observer)
      container.observers.values store) container.values.values store
    have retired := detached.trans
      (Store.releases_foldl Store.releases_retire container.observers.values _)
    have dropped := retired.trans (Store.releases_dropChangeset _ container.changeset)
    have gives : container.release = ((Release.any (· ∈ container.values.values) fun value =>
        Release.any (· ∈ container.observers.values) (.takeOff value)).or
          (Release.any (· ∈ container.observers.values) .retire)).or (.ending container.changeset) := by
      simp only [Release.or, Release.any, Release.takeOff, Release.retire, Release.ending, Release.none]
      refine Release.ext (fun binding ref => ?_) (fun observer => ?_) fun changeset => ?_
      · simp only [release, Binds, and_false, exists_false, or_false]
        constructor
        · rintro ⟨own, value, stored, handle⟩
          exact ⟨value, stored, _, own, rfl, handle⟩
        · rintro ⟨value, stored, _, own, rfl, handle⟩
          exact ⟨own, value, stored, handle⟩
      · simp [release, full]
      · simp [release]
    rw [gives]
    simpa only [cleanup, resetChanges, Bool.false_eq_true, if_false,
      Store.dropChangeset_modifyChangeset] using dropped

end Container

end ReactiveView
