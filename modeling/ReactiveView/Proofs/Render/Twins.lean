/-
**Scopes that answer the same.**

A template knows its scope only by the names, helpers and children it asks for. So two scopes that answer
these the same, over one store, lead to the same rendering; and what holds of the surroundings after all
that a rendering may do holds of them at its end.

* `Scope.Twins` — scopes that answer names and calls the same.
* `render_of_twins` — two renderings.
* `visited_of_render` — what is kept by all that one rendering may do.
* `visited_of_calls` — what is kept by the calls for children that it makes.
-/

import ReactiveView.Proofs.Render.Alongside
import ReactiveView.Proofs.Render.Calls

namespace ReactiveView

open Render

variable {σ τ α : Type}

/-- The same result, over one store, in corresponding worlds that may be visited. -/
structure Answer.Same (same : σ → τ → Prop) (visited : τ × Store → Prop) (left : Answer σ α)
    (right : Answer τ α) : Prop where
  result : left.1 = right.1
  world : same left.2.1 right.2.1
  store : left.2.2 = right.2.2
  visited : visited right.2

/-- **Scopes that answer names and some calls the same**, wherever the right one comes. -/
structure Scope.Twins (left : Scope σ) (right : Scope τ) (answered : String → Prop)
    (same : σ → τ → Prop) (visited : τ × Store → Prop) : Prop where
  reads : ∀ {world before after}, visited (world, before) → before.Peruses after →
    visited (world, after)
  lookup : ∀ {world other store}, same world other → visited (other, store) → ∀ name,
    Answer.Same same visited (left.lookup name world store) (right.lookup name other store)
  call : ∀ {world other store}, same world other → visited (other, store) → ∀ name arguments,
    Answer.Same same visited (left.call name arguments world store)
      (right.call name arguments other store)
  child : ∀ {world other store}, same world other → visited (other, store) → answered "child" →
    ∀ className id, Answer.Same same visited (left.renderChild className id world store)
      (right.renderChild className id other store)

namespace Scope.Twins

/-- The correspondence of two runs over one store. -/
def lockstep (answered : String → Prop) (same : σ → τ → Prop) (visited : τ × Store → Prop) :
    Lockstep σ τ where
  Stage := Unit
  order :=
    { le := Eq
      lt := fun _ _ => False
      le_refl := Eq.refl
      le_trans := fun _ _ _ => Eq.trans
      lt_iff_le_not_ge := fun _ _ => ⟨False.elim, fun both => both.2 both.1.symm⟩ }
  Around _ l r := same l.1 r.1 ∧ l.2 = r.2 ∧ visited r
  Same _ := Eq
  Met _ _ found known := found = known
  Answered := answered

variable {left : Scope σ} {right : Scope τ} {answered : String → Prop} {same : σ → τ → Prop}
  {visited : τ × Store → Prop} {l : σ × Store} {r : τ × Store}

theorem alikeResult_refl {relation : α → α → Prop} (refl : ∀ value, relation value value)
    (result : Except Error α) : AlikeResult relation result result := by
  cases result with
  | ok value => exact .ok (refl value)
  | error error => exact .error error

theorem rel_refl (found : Option Value) : Option.Rel Eq found found := by
  cases found with
  | none => exact .none
  | some value => exact .some rfl

variable (twins : left.Twins right answered same visited)
include twins

/-- Both runs read the same. -/
theorem answers_reads {relation : α → α → Prop}
    (around : (lockstep answered same visited).Around () l r) (f : Store → Except Error α × Store)
    (reads : ∀ store : Store, store.Peruses (f store).2) (refl : ∀ value, relation value value) :
    (lockstep answered same visited).Answers () (fun _ => relation) (inWorld l.1 (f l.2))
      (inWorld r.1 (f r.2)) := by
  obtain ⟨related, stores, reached⟩ := around
  rw [stores]
  exact ⟨(), le_rfl, ⟨related, rfl, twins.reads reached (reads r.2)⟩, alikeResult_refl refl _⟩

omit twins in
theorem answers_asked {left : Answer σ (Option Value)} {right : Answer τ (Option Value)}
    (agree : Answer.Same same visited left right) :
    (lockstep answered same visited).Answers () (fun _ => Option.Rel Eq) left right := by
  refine ⟨(), le_rfl, ⟨agree.world, agree.store, agree.visited⟩, ?_⟩
  rw [agree.result]
  exact alikeResult_refl rel_refl _

theorem lawful : (lockstep answered same visited).Lawful left right where
  sameMono _ _ _ same := same
  metMono _ _ _ _ met := met
  met same _ := congrArg some same
  scalar _ _ := rfl
  shape {_ value other} same := by
    obtain rfl : value = other := same
    cases value with
    | list ref => exact Or.inr (Or.inl ⟨ref, ref, rfl, rfl⟩)
    | map ref => exact Or.inr (Or.inr (Or.inl ⟨ref, ref, rfl, rfl⟩))
    | record ref => exact Or.inr (Or.inr (Or.inr ⟨ref, ref, rfl, rfl⟩))
    | _ => exact Or.inl ⟨rfl, rfl⟩
  text {_ _ _ value other} around same := by
    obtain rfl : value = other := same
    rw [around.2.1]
  newList {_ _ _ values others} around all := by
    obtain rfl : values = others := List.forall₂_eq_eq_eq ▸ all
    exact twins.answers_reads around (fun store => given (store.newList values))
      (fun store => store.peruses_newList values) fun _ => rfl
  field {_ _ _ value other} around same name := by
    obtain rfl : value = other := same
    exact twins.answers_reads around _ (peruses_readField value name) fun _ => rfl
  index {_ _ _ value other place opposed} around same placed := by
    obtain rfl : value = other := same
    obtain rfl : place = opposed := placed
    exact twins.answers_reads around _ (peruses_readIndex value place) fun _ => rfl
  method {_ _ _ value other values others} around same all name := by
    obtain rfl : value = other := same
    obtain rfl : values = others := List.forall₂_eq_eq_eq ▸ all
    exact twins.answers_reads around _ (peruses_callMethod value name values) fun _ => rfl
  binary {_ _ _ value other second opposed} around same placed op limit := by
    obtain rfl : value = other := same
    obtain rfl : second = opposed := placed
    exact twins.answers_reads around _ (peruses_binary op limit value second) fun _ => rfl
  items {_ _ _ ref opposed} around same := by
    obtain rfl : ref = opposed := by cases same; rfl
    exact twins.answers_reads around (fun store => given (TrackedList.iterate ref store))
      (TrackedList.peruses_iterate ref) fun _ => List.forall₂_same.mpr fun _ _ => rfl
  entries {_ _ _ ref opposed} around same := by
    obtain rfl : ref = opposed := by cases same; rfl
    have refl (all : List (String × Value)) : List.Forall₂
        (fun entry other => entry.1 = other.1 ∧ entry.2 = other.2) all all :=
      List.forall₂_same.mpr fun _ _ => ⟨rfl, rfl⟩
    exact twins.answers_reads around (fun store => given (TrackedMap.iterate ref store))
      (TrackedMap.peruses_iterate ref) refl
  lookup {_ l r name found known} around met := by
    obtain rfl : found = known := met
    obtain ⟨related, stores, reached⟩ := around
    cases found with
    | some value => exact ⟨(), le_rfl, ⟨related, stores, reached⟩, .ok (.some rfl)⟩
    | none =>
      simp only [answerFor]
      rw [stores]
      exact answers_asked (twins.lookup related reached name)
  call {_ l r name values others} around _ _ all := by
    obtain rfl : values = others := List.forall₂_eq_eq_eq ▸ all
    obtain ⟨related, stores, reached⟩ := around
    rw [stores]
    exact answers_asked (twins.call related reached name values)
  child {_ l r} around answers className id := by
    obtain ⟨related, stores, reached⟩ := around
    rw [stores]
    obtain ⟨results, related, stores, reached⟩ := twins.child related reached answers className id
    refine ⟨(), le_rfl, ⟨related, stores, reached⟩, ?_⟩
    rw [results]
    exact alikeResult_refl (fun _ => rfl) _

/-- **Two renderings whose scopes answer the same** are the same, and end in corresponding worlds over
one store. -/
theorem render_of_twins {template : Template}
    (calls : ∀ part, Part.dynamic part ∈ template.parts → ∀ name ∈ part.node.calls, answered name)
    (dirty : Dirty) (view : ClientView) (config : Config) {world : σ} {other : τ} {store : Store}
    (related : same world other) (reached : visited (other, store)) :
    let (result, seen, after, stored) := render template dirty view left config world store
    let (answer, shown, around, kept) := render template dirty view right config other store
    result = answer ∧ seen = shown ∧ same after around ∧ stored = kept ∧ visited (around, kept) := by
  have around : (lockstep answered same visited).Around () (world, store) (other, store) :=
    ⟨related, rfl, reached⟩
  obtain ⟨result, seen, _, after, stores, visited⟩ := Lockstep.alike_render twins.lawful
    config calls dirty view around fun _ => rfl
  exact ⟨result, seen, after, stores, visited⟩

end Scope.Twins

/-! ### One rendering -/

/-- **What a scope keeps**, whatever a rendering asks of it and reads meanwhile. -/
structure Scope.Maintains (scope : Scope σ) (visited : σ × Store → Prop) : Prop where
  reads : ∀ {world before after}, visited (world, before) → before.Peruses after →
    visited (world, after)
  lookup : ∀ {world store}, visited (world, store) → ∀ name, visited (scope.lookup name world store).2
  call : ∀ {world store}, visited (world, store) → ∀ name arguments,
    visited (scope.call name arguments world store).2
  child : ∀ {world store}, visited (world, store) → ∀ className id,
    visited (scope.renderChild className id world store).2

/-- **What is kept by all that a rendering may do** holds at its end. -/
theorem Scope.Maintains.visited_of_render {scope : Scope σ} {visited : σ × Store → Prop}
    (maintains : scope.Maintains visited) (template : Template) (dirty : Dirty) (view : ClientView)
    (config : Config) {world : σ} {store : Store} (reached : visited (world, store)) :
    visited (render template dirty view scope config world store).2.2 := by
  have twins : scope.Twins scope (fun _ => True) Eq visited :=
    { reads := maintains.reads
      lookup := by
        rintro world _ store rfl visited name
        exact ⟨rfl, rfl, rfl, maintains.lookup visited name⟩
      call := by
        rintro world _ store rfl visited name arguments
        exact ⟨rfl, rfl, rfl, maintains.call visited name arguments⟩
      child := by
        rintro world _ store rfl visited _ className id
        exact ⟨rfl, rfl, rfl, maintains.child visited className id⟩ }
  exact (twins.render_of_twins (fun _ _ _ _ => trivial) dirty view config rfl reached).2.2.2.2

/-- **What is kept by the calls for children that a rendering makes**, and by all else that it may do. -/
theorem Scope.visited_of_calls {scope : Scope σ} (visited : σ × Store → Prop)
    (reads : ∀ {world before after}, visited (world, before) → before.Peruses after →
      visited (world, after))
    (lookup : ∀ {world store}, visited (world, store) → ∀ name,
      visited (scope.lookup name world store).2)
    (call : ∀ {world store}, visited (world, store) → ∀ name arguments,
      visited (scope.call name arguments world store).2)
    (template : Template) (dirty : Dirty) (view : ClientView) (config : Config) (world : σ)
    (store : Store)
    (child : ∀ made ∈ calls template dirty view scope config world store,
      visited (made.world, made.store) →
        visited (scope.renderChild made.className made.id made.world made.store).2)
    (reached : visited (world, store)) :
    visited (render template dirty view scope config world store).2.2 := by
  -- all that has been noted so far is a call that keeps what is to be kept
  have maintains : scope.noting.Maintains fun (around : (σ × List (Scope.Call σ)) × Store) =>
      (∀ made ∈ around.1.2, visited (made.world, made.store) →
        visited (scope.renderChild made.className made.id made.world made.store).2) →
      visited (around.1.1, around.2) :=
    { reads := fun kept peruses noted => reads (kept noted) peruses
      lookup := fun kept name noted => lookup (kept noted) name
      call := fun kept name arguments noted => call (kept noted) name arguments
      child := fun {world store} kept className id noted =>
        noted ⟨className, id, world.1, store⟩ (List.mem_append_right _ (List.mem_singleton_self _))
          (kept fun made member => noted made (List.mem_append_left _ member)) }
  have kept := @Scope.Maintains.visited_of_render _ _ _ maintains template dirty view config
    (world, []) store fun _ => reached
  rw [render_noting template dirty view scope config world store] at kept
  exact kept child

end ReactiveView
