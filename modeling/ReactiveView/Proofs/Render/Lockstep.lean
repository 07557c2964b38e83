/-
**Two runs of one template, side by side.**

Two runs correspond stage by stage: their surroundings correspond, and so do the values that both
have got so far. What a correspondence must satisfy for the runs to stay together is collected
here once; the runs themselves never look at how stages, surroundings or values correspond.

* `Scope.Move` — what one run may do to its surroundings while the other one rests.
* `Lockstep.Lawful` — reading, asking and making values leads from related to related.
* `Lockstep.Undisturbed` — so does what one run does while the other one rests.
-/

import Mathlib.Data.List.Forall2
import Mathlib.Order.Basic
import ReactiveView.Proofs.Tracked.Growth
import ReactiveView.Render.Eval

namespace ReactiveView

/-- Corresponding results, or one and the same error. -/
inductive AlikeResult {α β : Type} (relation : α → β → Prop) :
    Except Error α → Except Error β → Prop
  | ok {left : α} {right : β} (related : relation left right) :
    AlikeResult relation (.ok left) (.ok right)
  | error (error : Error) : AlikeResult relation (.error error) (.error error)

theorem AlikeResult.imp {α β : Type} {relation weaker : α → β → Prop} {left : Except Error α}
    {right : Except Error β} (alike : AlikeResult relation left right)
    (weaken : ∀ left right, relation left right → weaker left right) :
    AlikeResult weaker left right := by
  cases alike with
  | ok related => exact .ok (weaken _ _ related)
  | error error => exact .error error

/-! ### One run alone -/

/-- One thing that a run may do to its surroundings: a question, or growth of the store. -/
inductive Scope.Move {σ : Type} (scope : Scope σ) : σ × Store → σ × Store → Prop
  | lookup (name : String) (world : σ) (store : Store) :
    Move scope (world, store) (scope.lookup name world store).2
  | call (name : String) (arguments : List Value) (world : σ) (store : Store) :
    Move scope (world, store) (scope.call name arguments world store).2
  | child (className id : String) (world : σ) (store : Store) :
    Move scope (world, store) (scope.renderChild className id world store).2
  | grow (world : σ) {before after : Store} (grows : before.Grows after) :
    Move scope (world, before) (world, after)

namespace Render

/-- The answer for a name of which the locals know this much. -/
def answerFor {σ : Type} (scope : Scope σ) (name : String) (found : Option Value) (world : σ)
    (store : Store) : Answer σ (Option Value) :=
  match found with
  | some value => (.ok (some value), world, store)
  | none => scope.lookup name world store

/-- What an operation on the store gives, as an answer that leaves the world alone. -/
def inWorld {σ α : Type} (world : σ) (outcome : Except Error α × Store) : Answer σ α :=
  (outcome.1, world, outcome.2)

/-- What an operation that never fails gives. -/
def given {α : Type} (made : α × Store) : Except Error α × Store := (.ok made.1, made.2)

/-! ### The correspondence -/

/-- How surroundings and values of two runs correspond at each stage. -/
structure Lockstep (σ τ : Type) where
  Stage : Type
  order : Preorder Stage
  Around : Stage → σ × Store → τ × Store → Prop
  Same : Stage → Value → Value → Prop
  /-- Whether what the locals of both runs know of a name is enough to read it alike. -/
  Met : Stage → String → Option Value → Option Value → Prop
  /-- The calls that are answered alike. -/
  Answered : String → Prop

namespace Lockstep

variable {σ τ α β : Type}

instance (lock : Lockstep σ τ) : Preorder lock.Stage := lock.order

/-- Two answers from which both runs go on together. -/
def Answers (lock : Lockstep σ τ) (stage : lock.Stage) (relation : lock.Stage → α → β → Prop)
    (left : Answer σ α) (right : Answer τ β) : Prop :=
  ∃ later, stage ≤ later ∧ lock.Around later left.2 right.2 ∧
    AlikeResult (relation later) left.1 right.1

/-- **What keeps two runs together**: each single thing that a run does leads from related to
related. -/
structure Lawful (lock : Lockstep σ τ) (left : Scope σ) (right : Scope τ) : Prop where
  sameMono : ∀ {stage later}, stage ≤ later → ∀ {value other}, lock.Same stage value other →
    lock.Same later value other
  metMono : ∀ {stage later}, stage ≤ later → ∀ {name found known},
    lock.Met stage name found known → lock.Met later name found known
  met : ∀ {stage value other}, lock.Same stage value other → ∀ name,
    lock.Met stage name (some value) (some other)
  scalar : ∀ {value : Value}, value.ref? = none → ∀ stage, lock.Same stage value value
  shape : ∀ {stage value other}, lock.Same stage value other →
    (value = other ∧ value.ref? = none) ∨ (∃ ref opposed, value = .list ref ∧ other = .list opposed) ∨
      (∃ ref opposed, value = .map ref ∧ other = .map opposed) ∨
      ∃ ref opposed, value = .record ref ∧ other = .record opposed
  text : ∀ {stage l r value other}, lock.Around stage l r → lock.Same stage value other →
    value.text l.2 = other.text r.2
  newList : ∀ {stage l r values others}, lock.Around stage l r →
    List.Forall₂ (lock.Same stage) values others →
    lock.Answers stage lock.Same (inWorld l.1 (given (l.2.newList values)))
      (inWorld r.1 (given (r.2.newList others)))
  field : ∀ {stage l r value other}, lock.Around stage l r → lock.Same stage value other → ∀ name,
    lock.Answers stage lock.Same (inWorld l.1 (readField value name l.2))
      (inWorld r.1 (readField other name r.2))
  index : ∀ {stage l r value other place opposed}, lock.Around stage l r →
    lock.Same stage value other → lock.Same stage place opposed →
    lock.Answers stage lock.Same (inWorld l.1 (readIndex value place l.2))
      (inWorld r.1 (readIndex other opposed r.2))
  method : ∀ {stage l r value other values others}, lock.Around stage l r →
    lock.Same stage value other → List.Forall₂ (lock.Same stage) values others → ∀ name,
    lock.Answers stage lock.Same (inWorld l.1 (callMethod value name values l.2))
      (inWorld r.1 (callMethod other name others r.2))
  binary : ∀ {stage l r value other second opposed}, lock.Around stage l r →
    lock.Same stage value other → lock.Same stage second opposed → ∀ op limit,
    lock.Answers stage lock.Same (inWorld l.1 (binary op limit value second l.2))
      (inWorld r.1 (binary op limit other opposed r.2))
  items : ∀ {stage l r ref opposed}, lock.Around stage l r →
    lock.Same stage (.list ref) (.list opposed) →
    lock.Answers stage (fun stage => List.Forall₂ (lock.Same stage))
      (inWorld l.1 (given (TrackedList.iterate ref l.2)))
      (inWorld r.1 (given (TrackedList.iterate opposed r.2)))
  entries : ∀ {stage l r ref opposed}, lock.Around stage l r →
    lock.Same stage (.map ref) (.map opposed) →
    lock.Answers stage
      (fun stage => List.Forall₂ fun entry other =>
        entry.1 = other.1 ∧ lock.Same stage entry.2 other.2)
      (inWorld l.1 (given (TrackedMap.iterate ref l.2)))
      (inWorld r.1 (given (TrackedMap.iterate opposed r.2)))
  lookup : ∀ {stage l r name found known}, lock.Around stage l r → lock.Met stage name found known →
    lock.Answers stage (fun stage => Option.Rel (lock.Same stage))
      (answerFor left name found l.1 l.2) (answerFor right name known r.1 r.2)
  call : ∀ {stage l r name values others}, lock.Around stage l r → lock.Answered name →
    name ≠ "child" → List.Forall₂ (lock.Same stage) values others →
    lock.Answers stage (fun stage => Option.Rel (lock.Same stage))
      (left.call name values l.1 l.2) (right.call name others r.1 r.2)
  child : ∀ {stage l r}, lock.Around stage l r → lock.Answered "child" → ∀ className id,
    lock.Answers stage (fun _ => Eq) (left.renderChild className id l.1 l.2)
      (right.renderChild className id r.1 r.2)

/-- Surroundings that correspond whatever one of the runs does alone. -/
structure Undisturbed (lock : Lockstep σ τ) (left : Scope σ) (right : Scope τ) : Prop where
  moveLeft : ∀ {stage before after opposite}, lock.Around stage before opposite →
    left.Move before after → lock.Around stage after opposite
  moveRight : ∀ {stage opposite before after}, lock.Around stage opposite before →
    right.Move before after → lock.Around stage opposite after

end Lockstep

end Render

end ReactiveView
