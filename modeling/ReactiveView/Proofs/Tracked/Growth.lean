/-
**Stores that grow side by side.**

Reading makes nodes and passes bindings on, but what a node holds stays. Where two runs do the
same, each to its own store, what they make is paired as well, and no handle that was there before
is paired anew.

* `Store.Extends` — nothing that was there holds anything else than before.
* `Store.Grows` — and observers and marks are as before.
* `Store.Advance` — both stores grow, and only new nodes are paired anew.
* `Store.Advance.newNode` — nodes made with paired contents are paired.
-/

import ReactiveView.Proofs.Tracked.Pairing

namespace ReactiveView

/-! ### One store -/

/-- Every node that was there holds what it held. -/
structure Store.Extends (before after : Store) : Prop where
  size : before.nodes.size ≤ after.nodes.size
  content : ∀ ref < before.nodes.size, after.content ref = before.content ref

/-- What reading does to a store: every node holds what it held, and nothing else is touched. -/
structure Store.Grows (before after : Store) : Prop where
  size : before.nodes.size ≤ after.nodes.size
  content : ∀ ref < before.nodes.size, after.content ref = before.content ref
  observers : after.observers = before.observers
  changesets : after.changesets = before.changesets
  kept : after.kept = before.kept

namespace Store

variable {before after later : Store}

theorem Grows.refl (store : Store) : store.Grows store := ⟨le_rfl, fun _ _ => rfl, rfl, rfl, rfl⟩

theorem Grows.trans (first : before.Grows after) (second : after.Grows later) :
    before.Grows later where
  size := first.size.trans second.size
  content ref inside := by
    rw [second.content ref (inside.trans_le first.size), first.content ref inside]
  observers := second.observers.trans first.observers
  changesets := second.changesets.trans first.changesets
  kept := second.kept.trans first.kept

theorem Grows.extends (grows : before.Grows after) : before.Extends after :=
  ⟨grows.size, grows.content⟩

theorem Extends.refl (store : Store) : store.Extends store := ⟨le_rfl, fun _ _ => rfl⟩

theorem Extends.trans (first : before.Extends after) (second : after.Extends later) :
    before.Extends later where
  size := first.size.trans second.size
  content ref inside := by
    rw [second.content ref (inside.trans_le first.size), first.content ref inside]

/-- What observers and containers do leaves the nodes alone. -/
theorem extends_of_nodes (same : after.nodes = before.nodes) : before.Extends after :=
  ⟨same ▸ le_rfl, fun ref _ => by simp only [content, same]⟩

theorem extends_modifyBindings (store : Store) (ref : Ref) (f : List Binding → List Binding) :
    store.Extends (store.modifyBindings ref f) :=
  ⟨by simp [modifyBindings], fun other _ => content_modifyBindings store ref other f⟩

theorem grows_inherit (store : Store) (value : Value) (inherited : List Binding) :
    store.Grows (store.inherit value inherited) := by
  refine ⟨?_, fun ref _ => content_inherit store value inherited ref, ?_, ?_, ?_⟩ <;>
    unfold inherit <;> split <;> simp [modifyBindings]

theorem grows_inheritAll (store : Store) (values : List Value) (inherited : List Binding) :
    store.Grows (store.inheritAll values inherited) := by
  induction values generalizing store with
  | nil => exact Grows.refl store
  | cons value rest ih => exact (grows_inherit store value inherited).trans (ih _)

theorem content_newNode_of_lt (store : Store) (content : Content) (bindings : List Binding)
    {ref : Ref} (inside : ref < store.nodes.size) :
    (store.newNode content bindings).2.content ref = store.content ref := by
  simp [newNode, Store.content, Array.getElem?_push, inside.ne]

@[simp] theorem content_newNode_self (store : Store) (content : Content)
    (bindings : List Binding) :
    (store.newNode content bindings).2.content store.nodes.size = content := by
  simp [newNode, Store.content]

@[simp] theorem size_newNode (store : Store) (content : Content) (bindings : List Binding) :
    (store.newNode content bindings).2.nodes.size = store.nodes.size + 1 := by
  simp [newNode]

theorem grows_newNode (store : Store) (content : Content) (bindings : List Binding) :
    store.Grows (store.newNode content bindings).2 :=
  ⟨by simp, fun _ inside => content_newNode_of_lt store content bindings inside, rfl, rfl, rfl⟩

theorem Extends.holds {part whole : Ref} (lasts : before.Extends after)
    (inside : whole < before.nodes.size) (held : after.Holds part whole) :
    before.Holds part whole := by
  unfold Holds at held ⊢
  rwa [lasts.content whole inside] at held

/-- What is finite stays finite while nothing is written to. -/
theorem Finite.extend {ref : Ref} (finite : before.Finite ref) (lasts : before.Extends after) :
    after.Finite ref := by
  induction finite with
  | intro inside _ ih =>
    exact .intro (inside.trans_le lasts.size) fun part held =>
      ih part (lasts.holds inside held)

/-- What is finite stays finite while a store grows. -/
theorem Finite.grow {ref : Ref} (grows : before.Grows after) (finite : before.Finite ref) :
    after.Finite ref := finite.extend grows.extends

end Store

/-! ### Two stores -/

/-- The pairing with one pair more. -/
def Pairing.add (pairing : Pairing) (first second : Ref) : Pairing :=
  fun left right => pairing left right ∨ (left = first ∧ right = second)

theorem Pairing.le_add (pairing : Pairing) (first second : Ref) :
    pairing ≤ pairing.add first second := fun _ _ => Or.inl

/-- **Two stores grow side by side**, from a pairing to a larger one. -/
structure Store.Advance (pairing : Pairing) (left right : Store) (larger : Pairing)
    (leftAfter rightAfter : Store) : Prop where
  growsLeft : left.Grows leftAfter
  growsRight : right.Grows rightAfter
  enlarges : pairing ≤ larger
  /-- Only what is new on both sides is paired anew. -/
  fresh : ∀ {first second : Ref}, larger first second →
    pairing first second ∨ (left.nodes.size ≤ first ∧ right.nodes.size ≤ second)
  paired : Store.Paired larger leftAfter rightAfter

namespace Store

variable {pairing larger largest : Pairing}
  {left right leftAfter rightAfter leftLast rightLast : Store}

theorem Paired.extend (paired : Paired pairing left right) (lastsLeft : left.Extends leftAfter)
    (lastsRight : right.Extends rightAfter) : Paired pairing leftAfter rightAfter where
  one := paired.one
  content refs := by
    rw [lastsLeft.content _ (paired.finiteLeft refs).inside,
      lastsRight.content _ (paired.finiteRight refs).inside]
    exact paired.content refs
  finiteLeft refs := (paired.finiteLeft refs).extend lastsLeft
  finiteRight refs := (paired.finiteRight refs).extend lastsRight

theorem Paired.grow (paired : Paired pairing left right) (growsLeft : left.Grows leftAfter)
    (growsRight : right.Grows rightAfter) : Paired pairing leftAfter rightAfter :=
  paired.extend growsLeft.extends growsRight.extends

theorem Advance.of_grows (paired : Paired pairing left right) (growsLeft : left.Grows leftAfter)
    (growsRight : right.Grows rightAfter) : Advance pairing left right pairing leftAfter rightAfter :=
  ⟨growsLeft, growsRight, le_rfl, Or.inl, paired.grow growsLeft growsRight⟩

theorem Advance.refl (paired : Paired pairing left right) :
    Advance pairing left right pairing left right :=
  .of_grows paired (Grows.refl left) (Grows.refl right)

theorem Advance.trans (first : Advance pairing left right larger leftAfter rightAfter)
    (second : Advance larger leftAfter rightAfter largest leftLast rightLast) :
    Advance pairing left right largest leftLast rightLast where
  growsLeft := first.growsLeft.trans second.growsLeft
  growsRight := first.growsRight.trans second.growsRight
  enlarges := first.enlarges.trans second.enlarges
  fresh refs := by
    rcases second.fresh refs with old | ⟨newLeft, newRight⟩
    · exact first.fresh old
    · exact Or.inr ⟨first.growsLeft.size.trans newLeft, first.growsRight.size.trans newRight⟩
  paired := second.paired

theorem Advance.inherit (paired : Paired pairing left right) (first second : Value)
    (inherited other : List Binding) :
    Advance pairing left right pairing (left.inherit first inherited) (right.inherit second other) :=
  .of_grows paired (grows_inherit ..) (grows_inherit ..)

theorem Advance.inheritAll (paired : Paired pairing left right) (first second : List Value)
    (inherited other : List Binding) :
    Advance pairing left right pairing (left.inheritAll first inherited)
      (right.inheritAll second other) :=
  .of_grows paired (grows_inheritAll ..) (grows_inheritAll ..)

end Store

theorem Content.Paired.values {pairing : Pairing} {left right : Content}
    (paired : left.Paired pairing right) :
    List.Forall₂ (Value.Paired pairing) left.values right.values := by
  cases paired with
  | list items => exact items
  | map entries => exact OrderedMap.Paired.values entries
  | record _ fields => exact OrderedMap.Paired.values fields

theorem exists_of_mem_left {α β : Type} {relation : α → β → Prop} {left : List α} {right : List β}
    (all : List.Forall₂ relation left right) {first : α} (member : first ∈ left) :
    ∃ second, relation first second := by
  induction all with
  | nil => cases member
  | cons here _ ih =>
    rcases List.mem_cons.mp member with rfl | member
    · exact ⟨_, here⟩
    · exact ih member

theorem Value.Paired.refLeft {pairing : Pairing} {left right : Value}
    (paired : left.Paired pairing right) {ref : Ref} (found : left.ref? = some ref) :
    ∃ other, pairing ref other := by
  cases paired with
  | scalar plain => rw [plain] at found; cases found
  | list refs | map refs | record refs => cases found; exact ⟨_, refs⟩

theorem Value.Paired.refRight {pairing : Pairing} {left right : Value}
    (paired : left.Paired pairing right) {ref : Ref} (found : right.ref? = some ref) :
    ∃ other, pairing other ref := by
  cases paired with
  | scalar plain => rw [plain] at found; cases found
  | list refs | map refs | record refs => cases found; exact ⟨_, refs⟩

namespace Store

variable {pairing : Pairing} {left right : Store}

/-- A new node is finite if all handles that it holds are. -/
theorem finite_newNode {store : Store} {content : Content} (bindings : List Binding)
    (parts : ∀ value ∈ content.values, ∀ ref, value.ref? = some ref → store.Finite ref) :
    (store.newNode content bindings).2.Finite store.nodes.size := by
  refine .intro (by simp) fun part held => ?_
  obtain ⟨value, member, found⟩ := held
  rw [content_newNode_self] at member
  exact (parts value member part found).grow (grows_newNode store content bindings)

/-- **Nodes made with paired contents are paired.** -/
theorem Advance.newNode (paired : Paired pairing left right) {first second : Content}
    (contents : first.Paired pairing second) (bindings other : List Binding) :
    Advance pairing left right (pairing.add left.nodes.size right.nodes.size)
      (left.newNode first bindings).2 (right.newNode second other).2 where
  growsLeft := grows_newNode ..
  growsRight := grows_newNode ..
  enlarges := pairing.le_add left.nodes.size right.nodes.size
  fresh refs := by
    rcases refs with old | ⟨rfl, rfl⟩
    · exact Or.inl old
    · exact Or.inr ⟨le_rfl, le_rfl⟩
  paired := by
    have larger : pairing ≤ pairing.add left.nodes.size right.nodes.size := pairing.le_add _ _
    refine ⟨fun refs another opposite others => ?_, fun refs => ?_, fun refs => ?_, fun refs => ?_⟩
    · rcases refs with old | ⟨rfl, rfl⟩ <;> rcases others with older | ⟨rfl, rfl⟩
      · exact paired.one old older
      · exact ⟨fun same => absurd same (paired.finiteLeft old).inside.ne,
          fun same => absurd same (paired.finiteRight old).inside.ne⟩
      · exact ⟨fun same => absurd same (paired.finiteLeft older).inside.ne',
          fun same => absurd same (paired.finiteRight older).inside.ne'⟩
      · exact ⟨fun _ => rfl, fun _ => rfl⟩
    · rcases refs with old | ⟨rfl, rfl⟩
      · rw [content_newNode_of_lt _ _ _ (paired.finiteLeft old).inside,
          content_newNode_of_lt _ _ _ (paired.finiteRight old).inside]
        exact (paired.content old).mono larger
      · rw [content_newNode_self, content_newNode_self]
        exact contents.mono larger
    · rcases refs with old | ⟨rfl, rfl⟩
      · exact (paired.finiteLeft old).grow (grows_newNode ..)
      · refine finite_newNode bindings fun value member ref found => ?_
        obtain ⟨_, here⟩ := exists_of_mem_left contents.values member
        obtain ⟨other, refs⟩ := here.refLeft found
        exact paired.finiteLeft refs
    · rcases refs with old | ⟨rfl, rfl⟩
      · exact (paired.finiteRight old).grow (grows_newNode ..)
      · refine finite_newNode other fun value member ref found => ?_
        obtain ⟨_, here⟩ := exists_of_mem_left contents.values.flip member
        obtain ⟨other, refs⟩ := here.refRight found
        exact paired.finiteRight refs

end Store

end ReactiveView
