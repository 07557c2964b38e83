/-
**Expressions print nothing and count nothing.**

Only texts and output tags add to the output of a part, and only loops count. Whatever an expression looks
up, calls or makes, and whatever it asks of the scope, the output so far and the number of loop runs are
what they were, also where it fails.

* `Eval.Idle` — a step that prints nothing and counts nothing.
* `Eval.idle` — all steps of an expression are idle.
-/

import ReactiveView.Proofs.Render.Mirror
import ReactiveView.Proofs.Render.Steps

namespace ReactiveView.Render

variable {σ α β : Type}

/-- The output of the current part, its size, and how many loop runs have begun. -/
def Pass.books (pass : Pass σ) : List Piece × Nat × Nat := (pass.pieces, pass.size, pass.iterations)

namespace Eval

/-- A step that prints nothing and counts nothing. -/
def Idle (step : Eval σ α) : Prop := ∀ pass, (step pass).2.books = pass.books

theorem Idle.bind {step : Eval σ α} {next : α → Eval σ β} (idle : Idle step)
    (after : ∀ value, Idle (next value)) : Idle (step >>= next) := by
  intro pass
  rw [bind_apply]
  have here := idle pass
  generalize step pass = reached at here ⊢
  obtain ⟨error | value, middle⟩ := reached
  · exact here
  · exact (after value middle).trans here

theorem idle_lookup (scope : Scope σ) (config : Config) (name : String) :
    Idle (lookup scope config name) := by
  intro pass
  rw [Lockstep.lookup_apply]
  have asked : Idle (asking (answerFor scope name (findLocal pass.frames name))) := fun _ => rfl
  exact asked.bind (fun _ _ => rfl) pass

theorem idle_child (scope : Scope σ) (className id : String) : Idle (child scope className id) := by
  intro pass
  rw [child_apply]
  split
  · have asked : Idle (asking (scope.renderChild className id)) := fun _ => rfl
    exact asked.bind (fun _ _ => rfl) pass
  · rfl

theorem idle_helper (scope : Scope σ) (name : String) (arguments : List Value) :
    Idle (helper scope name arguments) := by
  have asked : Idle (asking (scope.call name arguments)) := fun _ => rfl
  refine asked.bind fun found => ?_
  cases found <;> exact fun _ => rfl

/-- **All steps of an expression are idle.** -/
theorem idle (scope : Scope σ) (config : Config) : ExprLaw scope config fun step => Idle step where
  pure _ _ := rfl
  bind idle after := idle.bind after
  refuse _ _ := rfl
  textOf _ _ := rfl
  newList _ _ := rfl
  field _ _ _ := rfl
  index _ _ _ := rfl
  method _ _ _ _ := rfl
  unary _ _ _ := rfl
  binary _ _ _ _ := rfl
  lookup name := idle_lookup scope config name
  child className id := idle_child scope className id
  helper name arguments := idle_helper scope name arguments

end Eval

end ReactiveView.Render
