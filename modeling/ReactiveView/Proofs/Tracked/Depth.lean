/-
**How deep values are nested.**

A value of a program that ends is finite: what hangs on it is there, and nothing on it contains
itself. Texts, trees and equality stop at a depth that the number of nodes gives, and a finite value
ends before that.

* `Store.shallow_of_finite` — a finite value is nested no deeper than its store has nodes.
* `Store.unfold_of_shallow`, `Value.sameWithin_of_shallow` — looking deeper than a value is nested
  shows nothing more and finds no other difference.
-/

import Mathlib.Data.Finset.Card
import Mathlib.Logic.Relation
import ReactiveView.Tracked.Tree

namespace ReactiveView

/-! ### Finite values -/

/-- The values that a content holds directly. -/
def Content.values : Content → List Value
  | .list items => items
  | .map entries => entries.values
  | .record _ fields => fields.values

/-- Whether a node holds a handle of another one directly. -/
def Store.Holds (store : Store) (part whole : Ref) : Prop :=
  ∃ value ∈ (store.content whole).values, value.ref? = some part

/-- A node that is there, holds nothing but nodes that are there, and never contains itself. -/
inductive Store.Finite (store : Store) : Ref → Prop
  | intro {ref : Ref} (inside : ref < store.nodes.size)
    (parts : ∀ part, store.Holds part ref → Finite store part) : Finite store ref

/-- What hangs on a node is nested at most so deep. -/
def Store.Shallow (store : Store) : Nat → Ref → Prop
  | 0, _ => False
  | depth + 1, ref => ∀ part, store.Holds part ref → Shallow store depth part

namespace Store

variable {store : Store}

theorem Finite.inside {ref : Ref} (finite : store.Finite ref) : ref < store.nodes.size := by
  cases finite with
  | intro inside _ => exact inside

theorem Finite.part {part whole : Ref} (finite : store.Finite whole)
    (held : store.Holds part whole) : store.Finite part := by
  cases finite with
  | intro _ parts => exact parts part held

theorem Finite.deeper {part whole : Ref} (finite : store.Finite whole)
    (below : Relation.ReflTransGen store.Holds part whole) : store.Finite part := by
  induction below using Relation.ReflTransGen.head_induction_on with
  | refl => exact finite
  | head held _ ih => exact ih.part held

/-- A finite node does not contain itself, at whatever depth. -/
theorem Finite.not_within_itself {ref : Ref} (finite : store.Finite ref) :
    ¬ Relation.TransGen store.Holds ref ref := by
  induction finite with
  | intro _ _ ih =>
    intro circle
    obtain ⟨part, above, held⟩ := Relation.TransGen.tail'_iff.mp circle
    exact ih part held (Relation.TransGen.head' held above)

/--
**A finite node is nested no deeper than the store has nodes**: on the way down no node comes
twice, so each step leaves one node less to come.
-/
theorem shallow_of_finite {ref : Ref} (finite : store.Finite ref) :
    store.Shallow store.nodes.size ref := by
  have counted : ∀ (depth : Nat) (left : Finset Ref), left.card = depth → ∀ ref, store.Finite ref →
      (∀ part, Relation.ReflTransGen store.Holds part ref → part ∈ left) →
      store.Shallow depth ref := by
    intro depth
    induction depth with
    | zero =>
      intro left card ref _ within
      rw [Finset.card_eq_zero] at card
      subst card
      exact absurd (within ref .refl) (Finset.notMem_empty ref)
    | succ depth ih =>
      intro left card ref finite within part held
      refine ih (left.erase ref) ?_ part (finite.part held) fun deeper below => ?_
      · rw [Finset.card_erase_of_mem (within ref .refl), card, Nat.add_sub_cancel]
      · refine Finset.mem_erase.mpr ⟨fun same => ?_, within deeper (below.tail held)⟩
        subst same
        exact finite.not_within_itself (Relation.TransGen.tail' below held)
  exact counted store.nodes.size (Finset.range store.nodes.size) (Finset.card_range _) ref finite
    fun part below => Finset.mem_range.mpr (finite.deeper below).inside

theorem Shallow.mono {depth : Nat} {ref : Ref} (shallow : store.Shallow depth ref) {more : Nat}
    (le : depth ≤ more) : store.Shallow more ref := by
  induction depth generalizing ref more with
  | zero => exact shallow.elim
  | succ depth ih =>
    cases more with
    | zero => omega
    | succ more => exact fun part held => ih (shallow part held) (by omega)

end Store

/-- What hangs on a value is nested at most so deep; nothing hangs on a scalar. -/
def Value.Shallow (store : Store) (depth : Nat) (value : Value) : Prop :=
  ∀ ref, value.ref? = some ref → store.Shallow depth ref

namespace Store

variable {store : Store}

theorem content_of_items {ref : Ref} {value : Value} (member : value ∈ store.items ref) :
    value ∈ (store.content ref).values := by
  unfold items at member
  split at member
  · next found => rwa [found]
  · cases member

theorem content_of_entries {ref : Ref} {value : Value} (member : value ∈ (store.entries ref).values) :
    value ∈ (store.content ref).values := by
  unfold entries at member
  split at member
  · next found => rwa [found]
  · cases member

theorem content_of_fields {ref : Ref} {value : Value} (member : value ∈ (store.fields ref).values) :
    value ∈ (store.content ref).values := by
  unfold fields at member
  split at member
  · next found => rwa [found]
  · cases member

/-- What a shallow node holds is one level shallower. -/
theorem Shallow.value {depth : Nat} {ref : Ref} (shallow : store.Shallow (depth + 1) ref)
    {value : Value} (member : value ∈ (store.content ref).values) : value.Shallow store depth :=
  fun part found => shallow part ⟨value, member, found⟩

end Store

/-! ### Looking deep enough -/

namespace Store

variable {store : Store}

/-- Unfolding a value deeper than it is nested shows nothing more. -/
theorem unfold_of_shallow {depth : Nat} {value : Value} (shallow : value.Shallow store depth)
    {more : Nat} (le : depth ≤ more) : store.unfold more value = store.unfold depth value := by
  induction depth generalizing value more with
  | zero =>
    cases value with
    | list ref => exact (shallow ref rfl).elim
    | map ref => exact (shallow ref rfl).elim
    | record ref => exact (shallow ref rfl).elim
    | _ => cases more <;> rfl
  | succ depth ih =>
    obtain ⟨more, rfl⟩ : ∃ rest, more = rest + 1 := ⟨more - 1, by omega⟩
    have le : depth ≤ more := by omega
    cases value with
    | list ref =>
      simp only [unfold, Tree.list.injEq]
      refine List.map_congr_left fun value member => ?_
      exact ih ((shallow ref rfl).value (content_of_items member)) le
    | map ref =>
      simp only [unfold, Tree.map.injEq]
      refine List.map_congr_left fun entry member => ?_
      rw [ih ((shallow ref rfl).value (content_of_entries (List.mem_map_of_mem member))) le]
    | record ref =>
      simp only [unfold, Tree.record.injEq, true_and]
      refine List.map_congr_left fun entry member => ?_
      rw [ih ((shallow ref rfl).value (content_of_fields (List.mem_map_of_mem member))) le]
    | _ => rfl

end Store

namespace Value

variable {store : Store}

/-- Two lists are compared alike by functions that agree on the first one's items. -/
theorem isEqv_congr {α : Type} {eqv other : α → α → Bool} {left : List α}
    (agree : ∀ value ∈ left, ∀ against, eqv value against = other value against)
    (right : List α) : left.isEqv right eqv = left.isEqv right other := by
  induction left generalizing right with
  | nil => cases right <;> rfl
  | cons first rest ih =>
    cases right with
    | nil => rfl
    | cons against others =>
      simp only [List.isEqv]
      rw [agree first List.mem_cons_self,
        ih (fun value member => agree value (List.mem_cons_of_mem _ member))]

theorem isEqv_congr_entries {eqv other : Value → Value → Bool} {left : OrderedMap String Value}
    (agree : ∀ value ∈ left.values, ∀ against, eqv value against = other value against)
    (right : OrderedMap String Value) : left.isEqv right eqv = left.isEqv right other := by
  unfold OrderedMap.isEqv
  congr 1
  rw [Bool.eq_iff_iff, List.all_eq_true, List.all_eq_true]
  refine forall₂_congr fun entry member => ?_
  rw [show eqv entry.2 = other entry.2 from
    funext (agree entry.2 (List.mem_map_of_mem member))]

/-- Comparing deeper than the first value is nested finds nothing more. -/
theorem sameWithin_of_shallow {depth : Nat} {value : Value} (shallow : value.Shallow store depth)
    {more : Nat} (le : depth ≤ more) (against : Value) :
    sameWithin store more value against = sameWithin store depth value against := by
  induction depth generalizing value more against with
  | zero =>
    cases value with
    | list ref => exact (shallow ref rfl).elim
    | map ref => exact (shallow ref rfl).elim
    | record ref => exact (shallow ref rfl).elim
    | _ => cases more <;> cases against <;> rfl
  | succ depth ih =>
    obtain ⟨more, rfl⟩ : ∃ rest, more = rest + 1 := ⟨more - 1, by omega⟩
    have le : depth ≤ more := by omega
    cases value with
    | list ref =>
      cases against with
      | list other =>
        simp only [sameWithin]
        rw [isEqv_congr fun value member =>
          ih ((shallow ref rfl).value (Store.content_of_items member)) le]
      | _ => rfl
    | map ref =>
      cases against with
      | map other =>
        simp only [sameWithin]
        rw [isEqv_congr_entries fun value member =>
          ih ((shallow ref rfl).value (Store.content_of_entries member)) le]
      | _ => rfl
    | record ref =>
      cases against with
      | record other =>
        simp only [sameWithin]
        rw [isEqv_congr_entries fun value member =>
          ih ((shallow ref rfl).value (Store.content_of_fields member)) le]
      | _ => rfl
    | _ => cases against <;> rfl

end Value

end ReactiveView
