/-
**Pairings that outlast what is done to a store.**

A pairing can be carried on while one of the two stores goes on alone. Where nothing is written to, it
stays as it is. A write takes away the pairs on which the written node hangs, and leaves the others.
What two runs make afresh can be paired in addition to what is paired already, also if one of the two
runs lies in the past of its store.

* `Store.Within` — a node hangs on a value, at whatever depth.
* `Store.Paired.write` — what is left of a pairing after a write.
* `Store.Paired.self` — a store and a later one, each finite node paired with itself.
* `Store.Paired.join` — what was paired already, and what was made alike.
-/

import ReactiveView.Proofs.Tracked.PairedReading

namespace ReactiveView

/-! ### What hangs on a value -/

/-- A node is the node of a value, or hangs on it at whatever depth. -/
def Store.Within (store : Store) (target : Ref) (value : Value) : Prop :=
  ∃ top, value.ref? = some top ∧ Relation.ReflTransGen store.Holds target top

/-- A value that is a scalar, or the handle of a node that is there and does not contain itself. -/
def Value.Finite (value : Value) (store : Store) : Prop :=
  ∀ ref, value.ref? = some ref → store.Finite ref

theorem Value.Finite.extend {value : Value} {before after : Store} (finite : value.Finite before)
    (lasts : before.Extends after) : value.Finite after :=
  fun ref handle => (finite ref handle).extend lasts

/-- Values that hang on a node stay paired while the pairs of such nodes stay. -/
theorem forall₂_of_mem_right {α β : Type} {relation stronger : α → β → Prop} {left : List α}
    {right : List β} (all : List.Forall₂ relation left right)
    (imp : ∀ first, ∀ second ∈ right, relation first second → stronger first second) :
    List.Forall₂ stronger left right := by
  induction all with
  | nil => exact .nil
  | cons here _ ih =>
    exact .cons (imp _ _ List.mem_cons_self here)
      (ih fun first second member => imp first second (List.mem_cons_of_mem _ member))

namespace Value.Paired

variable {pairing smaller : Pairing} {first second : Value}

/-- A value is paired by a smaller pairing that has the pair of its node. -/
theorem of_ref (paired : first.Paired pairing second)
    (keeps : ∀ {left right}, second.ref? = some right → pairing left right → smaller left right) :
    first.Paired smaller second := by
  cases paired with
  | scalar plain => exact .scalar plain
  | list refs => exact .list (keeps rfl refs)
  | map refs => exact .map (keeps rfl refs)
  | record refs => exact .record (keeps rfl refs)

theorem finiteLeft {left right : Store} (paired : Store.Paired pairing left right)
    (values : first.Paired pairing second) : first.Finite left := fun _ handle => by
  obtain ⟨_, refs⟩ := values.refLeft handle
  exact paired.finiteLeft refs

theorem finiteRight {left right : Store} (paired : Store.Paired pairing left right)
    (values : first.Paired pairing second) : second.Finite right := fun _ handle => by
  obtain ⟨_, refs⟩ := values.refRight handle
  exact paired.finiteRight refs

end Value.Paired

/-- Contents are paired by a smaller pairing that has the pairs of what they hold. -/
theorem Content.Paired.of_refs {pairing smaller : Pairing} {first second : Content}
    (paired : first.Paired pairing second)
    (keeps : ∀ value ∈ second.values, ∀ {left right}, value.ref? = some right →
      pairing left right → smaller left right) : first.Paired smaller second := by
  have entries {left right : OrderedMap String Value} (all : left.Paired pairing right)
      (keeps : ∀ value ∈ right.values, ∀ {left right}, value.ref? = some right →
        pairing left right → smaller left right) : left.Paired smaller right :=
    forall₂_of_mem_right all fun _ entry member same =>
      ⟨same.1, same.2.of_ref (keeps entry.2 (List.mem_map_of_mem member))⟩
  cases paired with
  | list items =>
    exact .list (forall₂_of_mem_right items fun _ value member same =>
      same.of_ref (keeps value member))
  | map all => exact .map (entries all keeps)
  | record name all => exact .record name (entries all keeps)

/-! ### Smaller pairings -/

/-- The pairs on whose right side a node does not hang. -/
def Pairing.spare (pairing : Pairing) (store : Store) (target : Ref) : Pairing :=
  fun first second => pairing first second ∧ ¬ Relation.ReflTransGen store.Holds target second

/-- A value that does not contain a node is paired by the pairs on which the node does not hang. -/
theorem Value.Paired.spare {pairing : Pairing} {store : Store} {target : Ref} {first second : Value}
    (values : first.Paired pairing second) (free : ¬ store.Within target second) :
    first.Paired (pairing.spare store target) second :=
  values.of_ref fun handle pair => ⟨pair, fun below => free ⟨_, handle, below⟩⟩

/-- What is paired by one or by the other. -/
def Pairing.join (pairing fresh : Pairing) : Pairing :=
  fun first second => pairing first second ∨ fresh first second

theorem Pairing.le_join_left (pairing fresh : Pairing) : pairing ≤ pairing.join fresh :=
  fun _ _ => Or.inl

theorem Pairing.le_join_right (pairing fresh : Pairing) : fresh ≤ pairing.join fresh :=
  fun _ _ => Or.inr

/-- Each finite node is paired with itself. -/
def Pairing.self (store : Store) : Pairing := fun first second => first = second ∧ store.Finite first

/-- A finite value is paired with itself. -/
theorem Value.Finite.paired {value : Value} {store : Store} (finite : value.Finite store) :
    value.Paired (Pairing.self store) value := by
  cases value with
  | list ref => exact .list ⟨rfl, finite ref rfl⟩
  | map ref => exact .map ⟨rfl, finite ref rfl⟩
  | record ref => exact .record ⟨rfl, finite ref rfl⟩
  | _ => exact .scalar rfl

namespace Store

variable {pairing fresh : Pairing} {left right after base stage : Store} {target : Ref}

/-! ### After a write -/

/-- A store in which at most one node is written to. -/
structure Writes (target : Ref) (before after : Store) : Prop where
  size : before.nodes.size ≤ after.nodes.size
  content : ∀ ref < before.nodes.size, ref ≠ target → after.content ref = before.content ref

theorem Writes.holds {part whole : Ref} (writes : Writes target left right)
    (inside : whole < left.nodes.size) (other : whole ≠ target) (held : right.Holds part whole) :
    left.Holds part whole := by
  unfold Holds at held ⊢
  rwa [writes.content whole inside other] at held

/-- What does not contain the written node stays finite. -/
theorem Finite.write {ref : Ref} (finite : left.Finite ref) (writes : Writes target left right)
    (free : ¬ Relation.ReflTransGen left.Holds target ref) : right.Finite ref := by
  induction finite with
  | @intro ref inside _ ih =>
    have other : ref ≠ target := fun same => free (same ▸ .refl)
    refine .intro (inside.trans_le writes.size) fun part held => ?_
    have before := writes.holds inside other held
    exact ih part before fun below => free (below.tail before)

/-- **What is left of a pairing after a write**: all pairs on which the written node does not hang. -/
theorem Paired.write (paired : Paired pairing left right) (writes : Writes target right after) :
    Paired (pairing.spare right target) left after where
  one refs _ _ others := paired.one refs.1 others.1
  content {first second} refs := by
    have inside := (paired.finiteRight refs.1).inside
    have other : second ≠ target := fun same => refs.2 (same ▸ .refl)
    rw [writes.content second inside other]
    refine (paired.content refs.1).of_refs fun value member left right handle pair => ⟨pair, ?_⟩
    exact fun below => refs.2 (below.tail ⟨value, member, handle⟩)
  finiteLeft refs := paired.finiteLeft refs.1
  finiteRight refs := (paired.finiteRight refs.1).write writes refs.2

/-! ### A store and itself -/

/-- **A store and what it was before**, with each finite node paired with itself. -/
theorem Paired.self (lasts : right.Extends left) : Paired (Pairing.self right) left right where
  one := by
    rintro _ _ ⟨rfl, _⟩ _ _ ⟨rfl, _⟩
    exact Iff.rfl
  content := by
    rintro first _ ⟨rfl, finite⟩
    rw [lasts.content first finite.inside]
    have refl (value : Value) (member : value ∈ (right.content first).values) :
        value.Paired (Pairing.self right) value :=
      Value.Finite.paired fun ref handle => finite.part ⟨value, member, handle⟩
    have entries (all : OrderedMap String Value)
        (refl : ∀ value ∈ all.values, value.Paired (Pairing.self right) value) :
        all.Paired (Pairing.self right) all :=
      List.forall₂_same.mpr fun entry member => ⟨rfl, refl entry.2 (List.mem_map_of_mem member)⟩
    generalize right.content first = content at refl
    cases content with
    | list items => exact .list (List.forall₂_same.mpr refl)
    | map all => exact .map (entries all refl)
    | record name all => exact .record name (entries all refl)
  finiteLeft := by
    rintro _ _ ⟨rfl, finite⟩
    exact finite.extend lasts
  finiteRight := by
    rintro _ _ ⟨rfl, finite⟩
    exact finite

/-! ### What is made alike -/

/--
**What was paired already, and what was made alike**: on the left from a base to a stage that may both
lie in the past, on the right now. What is paired already must have nothing made between base and
stage.
-/
theorem Paired.join (paired : Paired pairing left right)
    (made : Advance (fun _ _ => False) base right fresh stage after) (lasts : stage.Extends left)
    (apart : ∀ {first second}, pairing first second → base.nodes.size ≤ first →
      stage.nodes.size ≤ first) : Paired (pairing.join fresh) left after := by
  have new {first second : Ref} (refs : fresh first second) :
      base.nodes.size ≤ first ∧ first < stage.nodes.size ∧ right.nodes.size ≤ second :=
    ⟨((made.fresh refs).resolve_left id).1, (made.paired.finiteLeft refs).inside,
      ((made.fresh refs).resolve_left id).2⟩
  have old := paired.extend (Extends.refl left) made.growsRight.extends
  -- an old and a new pair have nothing in common
  have distinct {first second other another : Ref} (refs : pairing first second)
      (others : fresh other another) : first ≠ other ∧ second ≠ another := by
    obtain ⟨above, below, later⟩ := new others
    refine ⟨?_, fun same => absurd (paired.finiteRight refs).inside (same ▸ later).not_gt⟩
    rintro rfl
    exact absurd below (apart refs above).not_gt
  refine ⟨fun refs other another others => ?_, fun refs => ?_, fun refs => ?_, fun refs => ?_⟩
  · rcases refs with refs | refs <;> rcases others with others | others
    · exact paired.one refs others
    · exact iff_of_false (distinct refs others).1 (distinct refs others).2
    · exact iff_of_false (distinct others refs).1.symm (distinct others refs).2.symm
    · exact made.paired.one refs others
  · rcases refs with refs | refs
    · exact (old.content refs).mono (Pairing.le_join_left _ _)
    · rw [lasts.content _ (new refs).2.1]
      exact (made.paired.content refs).mono (Pairing.le_join_right _ _)
  · rcases refs with refs | refs
    · exact old.finiteLeft refs
    · exact (made.paired.finiteLeft refs).extend lasts
  · rcases refs with refs | refs
    · exact old.finiteRight refs
    · exact made.paired.finiteRight refs

end Store

end ReactiveView
