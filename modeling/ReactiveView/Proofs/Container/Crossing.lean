/-
**Two things done in either order.**

Two things are done that have to do with different nodes. Whichever is done first, the two stores in the end
hold the same: nodes that were there before stand for themselves, and what each of the two made stands for
what it made in the other order. The same names are marked.

* `Pairing.crossed` — which nodes stand for which after the two orders.
* `Store.Parallel.paired_crossed` — the stores after the two orders.
* `Store.Parallel.marked_crossed` — what is marked after them.
-/

import ReactiveView.Proofs.Container.Parallel

namespace ReactiveView

/-! ### The other way round -/

theorem Value.Paired.flip {pairing : Pairing} {left right : Value} (paired : left.Paired pairing right) :
    right.Paired (fun first second => pairing second first) left := by
  cases paired with
  | scalar plain => exact .scalar plain
  | list refs => exact .list refs
  | map refs => exact .map refs
  | record refs => exact .record refs

theorem Content.Paired.flip {pairing : Pairing} {left right : Content}
    (paired : left.Paired pairing right) :
    right.Paired (fun first second => pairing second first) left := by
  have entries {left right : OrderedMap String Value} (all : left.Paired pairing right) :
      right.Paired (fun first second => pairing second first) left :=
    (List.Forall₂.flip all).imp fun _ _ entry => ⟨entry.1.symm, entry.2.flip⟩
  cases paired with
  | list items => exact .list (items.flip.imp fun _ _ item => item.flip)
  | map all => exact .map (entries all)
  | record name all => exact .record name (entries all)

/-! ### Both orders -/

/-- **Which nodes stand for which** once two things were done in either order: what the first one made or
had to do with, what the second one did, and what neither had to do with. -/
def Pairing.crossed (start : Store) (reach others : Ref → Prop) (first second : Pairing) : Pairing :=
  fun left right => first left right ∨ second right left ∨
    (left = right ∧ start.Finite left ∧ ¬ reach left ∧ ¬ others left)

namespace Store.Parallel

variable {reach others : Ref → Prop} {start one two onward around : Store}
  {first second : Pairing}

section

variable (left : Parallel reach start two first one around)
  (right : Parallel others start one second two onward)
  (finite : ∀ ref, reach ref → start.Finite ref) (finite' : ∀ ref, others ref → start.Finite ref)
  (apart : ∀ ref, reach ref → ¬ others ref)
include left right finite finite'

/-- Old nodes stand for themselves, and the nodes that each of the two made for one another. -/
theorem shape_crossed : ∃ made more : Nat, ∀ {source target : Nat},
    Pairing.crossed start reach others first second source target →
    (source = target ∧ source < start.nodes.size) ∨
    (∃ index < made, source = start.nodes.size + index ∧
      target = start.nodes.size + more + index) ∨
    ∃ index < more, source = start.nodes.size + made + index ∧
      target = start.nodes.size + index := by
  obtain ⟨made, oneSize, _, rfl⟩ := left.pairs
  obtain ⟨more, twoSize, _, rfl⟩ := right.pairs
  refine ⟨made, more, fun {source target} refs => ?_⟩
  rw [oneSize, twoSize] at *
  rcases refs with (⟨rfl, here⟩ | new) | (⟨rfl, there⟩ | ⟨index, less, here, there⟩) | ⟨rfl, old, _⟩
  · exact Or.inl ⟨rfl, (finite _ here).inside⟩
  · exact Or.inr (Or.inl new)
  · exact Or.inl ⟨rfl, (finite' _ there).inside⟩
  · exact Or.inr (Or.inr ⟨index, less, there, here⟩)
  · exact Or.inl ⟨rfl, old.inside⟩

omit finite finite' in
/-- What was finite at the beginning stands for itself. -/
theorem refl_crossed {ref : Ref} (old : start.Finite ref) :
    Pairing.crossed start reach others first second ref ref := by
  obtain ⟨_, _, _, rfl⟩ := left.pairs
  obtain ⟨_, _, _, rfl⟩ := right.pairs
  by_cases here : reach ref
  · exact Or.inl (Or.inl ⟨rfl, here⟩)
  · by_cases there : others ref
    · exact Or.inr (Or.inl (Or.inl ⟨rfl, there⟩))
    · exact Or.inr (Or.inr ⟨rfl, old, here, there⟩)

include apart

/-- **After either order the stores hold the same.** -/
theorem paired_crossed :
    Paired (.crossed start reach others first second) onward around := by
  -- what one of the two has to do with the other one leaves alone
  have old {ref : Ref} (inside : ref < one.nodes.size) (free : ¬ others ref) :
      onward.content ref = one.content ref := right.confinedRight.content inside free
  have older {ref : Ref} (inside : ref < two.nodes.size) (free : ¬ reach ref) :
      around.content ref = two.content ref := left.confinedRight.content inside free
  have free {ref opposed : Ref} (refs : first ref opposed) : ¬ others ref := by
    rcases (left.reaches refs).1 with here | new
    · exact apart ref here
    · exact fun there => absurd (finite' ref there).inside (not_lt.mpr new)
  have free' {ref opposed : Ref} (refs : second ref opposed) : ¬ reach ref := by
    rcases (right.reaches refs).1 with there | new
    · exact fun here => apart ref here there
    · exact fun here => absurd (finite ref here).inside (not_lt.mpr new)
  obtain ⟨made, more, shape⟩ := left.shape_crossed right finite finite'
  refine ⟨fun {source target} refs {source' target'} others => ?_, fun refs => ?_, fun refs => ?_,
    fun refs => ?_⟩
  · have here := shape refs
    have there := shape others
    change @Eq Nat source source' ↔ @Eq Nat target target'
    rcases here with ⟨_, _⟩ | ⟨_, _, _, _⟩ | ⟨_, _, _, _⟩ <;>
      rcases there with ⟨_, _⟩ | ⟨_, _, _, _⟩ | ⟨_, _, _, _⟩ <;> omega
  · rcases refs with refs | refs | ⟨rfl, unmade, here, there⟩
    · rw [old (left.paired.finiteLeft refs).inside (free refs)]
      exact (left.paired.content refs).mono fun _ _ => Or.inl
    · rw [older (right.paired.finiteLeft refs).inside (free' refs)]
      exact (right.paired.content refs).flip.mono fun _ _ refs => Or.inr (Or.inl refs)
    · have inside := unmade.inside
      rw [old (inside.trans_le left.confinedLeft.size) there, left.confinedLeft.content inside here,
        older (inside.trans_le right.confinedLeft.size) here,
        right.confinedLeft.content inside there]
      refine ((Paired.self (.refl start)).content ⟨rfl, unmade⟩).of_refs ?_
      rintro _ _ part _ _ ⟨rfl, held⟩
      exact left.refl_crossed right held
  · rcases refs with refs | refs | ⟨rfl, unmade, _⟩
    · exact right.confinedRight.finite (left.paired.finiteLeft refs)
    · exact right.paired.finiteRight refs
    · exact right.confinedRight.finite (left.confinedLeft.finite unmade)
  · rcases refs with refs | refs | ⟨rfl, unmade, _⟩
    · exact left.paired.finiteRight refs
    · exact left.confinedRight.finite (right.paired.finiteLeft refs)
    · exact left.confinedRight.finite (right.confinedLeft.finite unmade)

end

section

variable (left : Parallel reach start two first one around)
  (right : Parallel others start one second two onward)
include left right

/-- **After either order the same names are marked.** -/
theorem marked_crossed {changeset : ChangesetId} {name : String} :
    name ∈ onward.marked changeset ↔ name ∈ around.marked changeset := by
  rw [right.marked, left.marked, or_comm]

theorem kept_crossed : onward.kept = start.kept ∧ around.kept = start.kept :=
  ⟨right.confinedRight.kept.trans left.confinedLeft.kept,
    left.confinedRight.kept.trans right.confinedLeft.kept⟩

/-- A value that was finite at the beginning stands for itself. -/
theorem value_crossed {value : Value} (old : value.Finite start) :
    value.Paired (.crossed start reach others first second) value := by
  refine old.paired.of_ref ?_
  rintro _ _ _ ⟨rfl, finite⟩
  exact left.refl_crossed right finite

end

end Store.Parallel

end ReactiveView
