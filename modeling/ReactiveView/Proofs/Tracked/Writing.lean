/-
**Writing to nodes.**

A write changes what one node holds, and nothing else that nodes hold. If the written node is finite
afterwards, then so is everything that was finite before. Two stores stay paired when nodes that stand for
each other are written to, with contents that do.

* `Store.writes_mutate`, `Store.content_mutate_self` — what nodes hold after a write.
* `Store.Finite.mutate_of_self` — what is finite after a write.
* `Store.Paired.mutate` — two stores side by side.
-/

import ReactiveView.Proofs.Tracked.Flow
import ReactiveView.Proofs.Tracked.Lasting

namespace ReactiveView

namespace Store

theorem content_setContent_of_ne (store : Store) {target ref : Ref} (ne : ref ≠ target)
    (content : Content) : (store.setContent target content).content ref = store.content ref := by
  simp [setContent, Store.content, Array.getElem?_modify, ne.symm]

theorem content_setContent_self {store : Store} {target : Ref} (inside : target < store.nodes.size)
    (content : Content) : (store.setContent target content).content target = content := by
  simp [setContent, Store.content, Array.getElem_modify, inside]

theorem size_setContent (store : Store) (target : Ref) (content : Content) :
    (store.setContent target content).nodes.size = store.nodes.size := by
  simp [setContent]

/-- After a node is written, nothing else changes that nodes hold. -/
theorem extends_mutate (store : Store) (target : Ref) (content : Content) :
    (store.setContent target content).Extends (store.mutate target content) :=
  (extends_of_nodes (notifyAll_frame (store.setContent target content)
    ((store.setContent target content).bindings target)).1).trans (extends_modifyBindings ..)

/-- **A write** changes what one node holds. -/
theorem writes_mutate (store : Store) (target : Ref) (content : Content) :
    Writes target store (store.mutate target content) := by
  have written := store.extends_mutate target content
  have size := store.size_setContent target content
  refine ⟨size.symm.le.trans written.size, fun ref inside ne => ?_⟩
  rw [written.content ref (size.symm ▸ inside), content_setContent_of_ne store ne]

theorem size_mutate (store : Store) (target : Ref) (content : Content) :
    (store.mutate target content).nodes.size = store.nodes.size := by
  simp [mutate, modifyBindings, notifyAll_frame, size_setContent]

theorem kept_mutate (store : Store) (target : Ref) (content : Content) :
    (store.mutate target content).kept = store.kept := by
  have notified (bindings : List Binding) (store : Store) :
      (store.notifyAll bindings).kept = store.kept := by
    induction bindings generalizing store with
    | nil => rfl
    | cons first rest ih =>
      rw [notifyAll_cons, ih]
      unfold notify
      split <;> rfl
  exact notified _ _

theorem content_mutate_self {store : Store} {target : Ref} (inside : target < store.nodes.size)
    (content : Content) : (store.mutate target content).content target = content := by
  rw [(store.extends_mutate target content).content target (store.size_setContent .. ▸ inside),
    content_setContent_self inside]

/-- A write by which a node holds nothing that it did not hold before leaves what is finite finite. -/
theorem Finite.mutate {store : Store} {target ref : Ref} {content : Content}
    (finite : store.Finite ref) (parts : ∀ value ∈ content.values, ∀ part,
      value.ref? = some part → store.Holds part target) :
    (store.mutate target content).Finite ref := by
  have writes := store.writes_mutate target content
  induction finite with
  | @intro ref inside _ ih =>
    refine .intro (inside.trans_le writes.size) fun part held => ih part ?_
    by_cases same : ref = target
    · subst same
      obtain ⟨value, member, handle⟩ := held
      rw [content_mutate_self inside] at member
      exact parts value member part handle
    · exact writes.holds inside same held

/-- What was finite stays finite if the written node is finite afterwards. -/
theorem Finite.mutate_of_self {store : Store} {target ref : Ref} {content : Content}
    (finite : store.Finite ref) (self : (store.mutate target content).Finite target) :
    (store.mutate target content).Finite ref := by
  have writes := store.writes_mutate target content
  induction finite with
  | @intro ref inside _ ih =>
    by_cases same : ref = target
    · exact same ▸ self
    · exact .intro (inside.trans_le writes.size) fun part held => ih part (writes.holds inside same held)

/-! ### Two stores -/

theorem exists_mem_of_mem_right {α β : Type} {relation : α → β → Prop} {left : List α}
    {right : List β} (all : List.Forall₂ relation left right) {second : β} (member : second ∈ right) :
    ∃ first ∈ left, relation first second := by
  induction all with
  | nil => cases member
  | cons here _ ih =>
    rcases List.mem_cons.mp member with rfl | member
    · exact ⟨_, List.mem_cons_self, here⟩
    · obtain ⟨first, found, same⟩ := ih member
      exact ⟨first, List.mem_cons_of_mem _ found, same⟩

section

variable {pairing : Pairing} {left right : Store} {first second : Ref} {content other : Content}

/-- What stands for something finite is finite. -/
theorem Finite.of_contents
    (contents : ∀ {first second}, pairing first second →
      (left.content first).Paired pairing (right.content second))
    (inside : ∀ {first second}, pairing first second → second < right.nodes.size)
    (finite : left.Finite first) (refs : pairing first second) : right.Finite second := by
  induction finite generalizing second with
  | intro _ _ ih =>
    refine .intro (inside refs) fun part held => ?_
    obtain ⟨value, member, handle⟩ := held
    obtain ⟨opposed, there, values⟩ := exists_mem_of_mem_right (contents refs).values member
    cases values with
    | scalar plain => rw [plain] at handle; cases handle
    | list pair | map pair | record pair => cases handle; exact ih _ ⟨_, there, rfl⟩ pair

/-- **Paired nodes are written to**, with paired contents. -/
theorem Paired.mutate (paired : Paired pairing left right) (refs : pairing first second)
    (contents : content.Paired pairing other) (self : (left.mutate first content).Finite first) :
    Paired pairing (left.mutate first content) (right.mutate second other) := by
  have here := left.writes_mutate first content
  have there := right.writes_mutate second other
  have held {source target : Ref} (pair : pairing source target) :
      ((left.mutate first content).content source).Paired pairing
        ((right.mutate second other).content target) := by
    by_cases same : source = first
    · obtain rfl := same
      obtain rfl : target = second := (paired.one pair refs).mp rfl
      rw [content_mutate_self (paired.finiteLeft refs).inside,
        content_mutate_self (paired.finiteRight refs).inside]
      exact contents
    · have apart : target ≠ second := fun equal => same ((paired.one pair refs).mpr equal)
      rw [here.content source (paired.finiteLeft pair).inside same,
        there.content target (paired.finiteRight pair).inside apart]
      exact paired.content pair
  have finite {source target : Ref} (pair : pairing source target) :
      (left.mutate first content).Finite source := (paired.finiteLeft pair).mutate_of_self self
  exact ⟨paired.one, held, finite, fun pair => (finite pair).of_contents held
    (fun pair => (paired.finiteRight pair).inside.trans_le there.size) pair⟩

end

end Store

end ReactiveView
