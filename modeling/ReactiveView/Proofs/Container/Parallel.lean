/-
**The same done in two places.**

Code that has to do with some nodes only does the same in another store in which these nodes are the same:
the nodes that it makes lie elsewhere, and what was marked there already stays marked. Each of the two
stores changes in a way that is confined to these nodes.

* `Pairing.shifted` — some nodes paired with themselves, and new ones made in one order.
* `Store.Parallel` — two stores, from two beginnings.
* `Store.Parallel.begin` — another store in which something else was done before.
* `Store.Parallel.newNode`, `Store.Parallel.rewatched`, `Store.Parallel.mutate` — one step on both sides.
-/

import ReactiveView.Proofs.Container.Confined

namespace ReactiveView

/-- Some nodes paired with themselves, and new ones made in one order. -/
def Pairing.shifted (reach : Ref → Prop) (first second made : Nat) : Pairing := fun left right =>
  (left = right ∧ reach left) ∨ ∃ index < made, left = first + index ∧ right = second + index

theorem Pairing.shifted_succ (reach : Ref → Prop) (first second made : Nat) :
    shifted reach first second (made + 1) =
      (shifted reach first second made).add (first + made) (second + made) := by
  funext left right
  refine propext ⟨?_, ?_⟩
  · rintro (same | ⟨index, less, here, there⟩)
    · exact Or.inl (Or.inl same)
    · rcases Nat.lt_succ_iff_lt_or_eq.mp less with less | rfl
      · exact Or.inl (Or.inr ⟨index, less, here, there⟩)
      · exact Or.inr ⟨here, there⟩
  · rintro ((same | ⟨index, less, here, there⟩) | ⟨here, there⟩)
    · exact Or.inl same
    · exact Or.inr ⟨index, less.trans (Nat.lt_succ_self made), here, there⟩
    · exact Or.inr ⟨made, Nat.lt_succ_self made, here, there⟩

namespace Store

/-- **Two stores in which the same was done**, from two beginnings that are the same as far as it
reaches. -/
structure Parallel (reach : Ref → Prop) (start other : Store) (pairing : Pairing)
    (left right : Store) : Prop where
  pairs : ∃ made, left.nodes.size = start.nodes.size + made ∧
    right.nodes.size = other.nodes.size + made ∧
    pairing = .shifted reach start.nodes.size other.nodes.size made
  paired : Paired pairing left right
  confinedLeft : Confined reach start left
  confinedRight : Confined reach other right
  marked : ∀ {changeset name}, name ∈ right.marked changeset ↔
    name ∈ other.marked changeset ∨ name ∈ left.marked changeset
  watches : ∀ {first second}, pairing first second → ∀ {changeset name},
    name ∉ other.marked changeset →
    (left.Watches changeset name first ↔ right.Watches changeset name second)

namespace Parallel

variable {reach elsewhere : Ref → Prop} {start other left right leftAfter rightAfter : Store}
  {pairing : Pairing} {first second : Ref} {content opposed : Content}

/-- **Where something else was done before**, with other nodes, the same can be done. -/
theorem begin (done : Confined elsewhere start other) (apart : ∀ ref, reach ref → ¬ elsewhere ref)
    (finite : ∀ ref, reach ref → start.Finite ref)
    (closed : ∀ {part whole}, reach whole → start.Holds part whole → reach part) :
    Parallel reach start other (.shifted reach start.nodes.size other.nodes.size 0) start other := by
  have same {first second : Ref}
      (refs : Pairing.shifted reach start.nodes.size other.nodes.size 0 first second) :
      first = second ∧ reach first := by
    rcases refs with same | ⟨_, less, _⟩
    · exact same
    · exact absurd less (Nat.not_lt_zero _)
  have paired : Paired (.shifted reach start.nodes.size other.nodes.size 0) start other := by
    refine ⟨fun refs _ _ others => ?_, fun refs => ?_, fun refs => finite _ (same refs).2, fun refs => ?_⟩
    · rw [(same refs).1, (same others).1]
    · obtain ⟨rfl, here⟩ := same refs
      rw [done.content (finite _ here).inside (apart _ here)]
      refine ((Paired.self (.refl start)).content ⟨rfl, finite _ here⟩).of_refs ?_
      rintro value member first second handle ⟨rfl, _⟩
      exact Or.inl ⟨rfl, closed here ⟨value, member, handle⟩⟩
    · obtain ⟨rfl, here⟩ := same refs
      exact done.finite (finite _ here)
  refine ⟨⟨0, rfl, rfl, rfl⟩, paired, .refl .., .refl .., fun {changeset name} => ?_,
    fun refs _ _ clean => ?_⟩
  · exact (or_iff_left_of_imp done.marks).symm
  · obtain ⟨rfl, here⟩ := same refs
    exact (done.watches (finite _ here).inside (apart _ here) clean).symm

variable (parallel : Parallel reach start other pairing left right)
include parallel

theorem reaches (refs : pairing first second) :
    (reach first ∨ start.nodes.size ≤ first) ∧ (reach second ∨ other.nodes.size ≤ second) := by
  obtain ⟨made, _, _, rfl⟩ := parallel.pairs
  rcases refs with ⟨rfl, here⟩ | ⟨index, _, rfl, rfl⟩
  · exact ⟨Or.inl here, Or.inl here⟩
  · exact ⟨Or.inr (Nat.le_add_right ..), Or.inr (Nat.le_add_right ..)⟩

/-- **Containers change what they watch**, in the same way on both sides. -/
theorem rewatched {gains gains' : ChangesetId → String → Ref → Prop} {loses loses' marks : Marks}
    (here : Rewatched gains loses marks left leftAfter)
    (there : Rewatched gains' loses' marks right rightAfter)
    (within : ∀ {changeset name ref}, gains changeset name ref → ∃ other, pairing ref other)
    (within' : ∀ {changeset name ref}, gains' changeset name ref → ∃ other, pairing other ref)
    (gained : ∀ {first second}, pairing first second → ∀ {changeset name},
      name ∉ other.marked changeset → (gains changeset name first ↔ gains' changeset name second))
    (lost : ∀ {changeset name}, loses changeset name ↔ loses' changeset name) :
    Parallel reach start other pairing leftAfter rightAfter where
  pairs := by
    rw [here.size, there.size]
    exact parallel.pairs
  paired := parallel.paired.extend here.nodes there.nodes
  confinedLeft := parallel.confinedLeft.andThen (.rewatched here fun gained => by
    obtain ⟨_, refs⟩ := within gained
    exact (parallel.reaches refs).1)
  confinedRight := parallel.confinedRight.andThen (.rewatched there fun gained => by
    obtain ⟨_, refs⟩ := within' gained
    exact (parallel.reaches refs).2)
  marked := by
    intro changeset name
    rw [there.marked, here.marked, parallel.marked, or_assoc]
  watches refs _ _ clean := by
    rw [here.watches, there.watches, gained refs clean, parallel.watches refs clean, lost]

/-- **A node is made on both sides.** -/
theorem newNode {bindings others : List Binding} {origins origins' : Ref → Prop}
    (contents : content.Paired pairing opposed)
    (here : Flows (fun source ref => origins source ∧ ref = left.nodes.size) left
      (left.newNode content bindings).2)
    (there : Flows (fun source ref => origins' source ∧ ref = right.nodes.size) right
      (right.newNode opposed others).2)
    (same : ∀ {changeset name}, name ∉ other.marked changeset →
      ((∃ source, origins source ∧ left.Watches changeset name source) ↔
        ∃ source, origins' source ∧ right.Watches changeset name source)) :
    Parallel reach start other (pairing.add left.nodes.size right.nodes.size)
      (left.newNode content bindings).2 (right.newNode opposed others).2 where
  pairs := by
    obtain ⟨made, leftSize, rightSize, rfl⟩ := parallel.pairs
    refine ⟨made + 1, by rw [size_newNode, leftSize, Nat.add_assoc],
      by rw [size_newNode, rightSize, Nat.add_assoc], ?_⟩
    rw [Pairing.shifted_succ, leftSize, rightSize]
  paired := (Advance.newNode parallel.paired contents bindings others).paired
  confinedLeft := parallel.confinedLeft.andThen (.newNode here)
  confinedRight := parallel.confinedRight.andThen (.newNode there)
  marked := by
    intro changeset name
    exact parallel.marked
  watches {source target} refs changeset name clean := by
    rw [here.watches_iff, there.watches_iff]
    rcases refs with refs | ⟨rfl, rfl⟩
    · have old := (parallel.paired.finiteLeft refs).inside
      have older := (parallel.paired.finiteRight refs).inside
      simp only [old.ne, older.ne, and_false, false_and, exists_false, or_false]
      exact parallel.watches refs clean
    · have none : ¬ left.Watches changeset name left.nodes.size := fun watched =>
        lt_irrefl _ watched.inside
      have none' : ¬ right.Watches changeset name right.nodes.size := fun watched =>
        lt_irrefl _ watched.inside
      simp only [none, none', false_or, and_true]
      exact same clean

/-- **Nodes that stand for each other are written to.** -/
theorem mutate (refs : pairing first second) (contents : content.Paired pairing opposed)
    (self : (left.mutate first content).Finite first) :
    Parallel reach start other pairing (left.mutate first content) (right.mutate second opposed) := by
  have paired := parallel.paired.mutate refs contents self
  have within := parallel.reaches refs
  refine ⟨?_, paired, parallel.confinedLeft.andThen (.mutate within.1 self),
    parallel.confinedRight.andThen (.mutate within.2 (paired.finiteRight refs)),
    fun {changeset name} => ?_, fun {source target} pair changeset name clean => ?_⟩
  · rw [size_mutate, size_mutate]
    exact parallel.pairs
  · rw [mem_marked_mutate_iff, mem_marked_mutate_iff, parallel.marked]
    by_cases marked : name ∈ other.marked changeset
    · simp [marked]
    · rw [parallel.watches refs marked, or_assoc]
  · rw [(flows_mutate ..).still_watches_iff, (flows_mutate ..).still_watches_iff]
    exact parallel.watches pair clean

end Parallel

end Store

end ReactiveView
