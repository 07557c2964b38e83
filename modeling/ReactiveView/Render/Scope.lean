/-
**What a template sees of the world around it.**

A scope answers three questions: the value of a name that is no local, the result of a helper, and
the rendering of a child component. Answering may change the world and the store.

* `Scope.ofVariables` — the scope of a plain map: no helpers and no children.
-/

import ReactiveView.Error
import ReactiveView.Tracked.Store

namespace ReactiveView

/-- The rendering of a child inside its parent. -/
structure ChildRender where
  html : String
  /-- The child and every component that it rendered inside itself. -/
  rendered : List String

/-- An answer, and the world and the store after it. -/
abbrev Answer (σ α : Type) := Except Error α × σ × Store

/-- The surroundings of a template, whose state is in `σ`. -/
structure Scope (σ : Type) where
  /-- The value of a name; none if it is undefined. -/
  lookup : String → σ → Store → Answer σ (Option Value)
  /-- The result of a helper; none if there is no such helper. -/
  call : String → List Value → σ → Store → Answer σ (Option Value)
  /-- The rendering of the child of a class and an id. -/
  renderChild : String → String → σ → Store → Answer σ ChildRender

/-- The scope of some variables. -/
def Scope.ofVariables (values : OrderedMap String Value) : Scope Unit where
  lookup name world store := (.ok (values.get? name), world, store)
  call _ _ world store := (.ok none, world, store)
  renderChild className _ world store := (.error (.unknownChildClass "" className), world, store)

end ReactiveView
