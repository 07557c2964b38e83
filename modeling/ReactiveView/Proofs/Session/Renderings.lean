/-
**Renderings, and the renderings inside of them.**

A component that was taken out of its place is rendered in some world. On its way it makes calls for
children, and each call that gets so far renders a component inside of it, in the same way.

* `Rendering` — a component that was taken out, and what it finds.
* `Rendering.calls`, `Rendering.inner?` — its calls for children, and what these render.
* `Rendering.course` — how a rendering goes.
* `Rendering.Answers` — what a call for a child does: it finds the child, and renders it in its place.
* `Rendering.induct` — induction over the renderings inside of a rendering.
-/

import ReactiveView.Proofs.Session.Places

namespace ReactiveView

/-- **One rendering**: how many may be inside of it, the component, which was taken out of its place,
what counts as changed, and the world and the store it finds. -/
structure Rendering where
  nesting : Nat
  component : Instance
  dirty : Dirty
  world : World
  store : Store

/-- The rendering of a component that stands in its place. -/
def Rendering.inPlace (nesting : Nat) (component : Instance) (dirty : Dirty) (world : World)
    (store : Store) : Rendering :=
  ⟨nesting, component, dirty, world.takeOut component.id, store⟩

namespace Rendering

variable (rendering : Rendering)

def outcome : Except Error Rendered × Instance × World × Store :=
  World.renderNested rendering.nesting rendering.component rendering.dirty rendering.world
    rendering.store

def result : Except Error Rendered := rendering.outcome.1

/-- The component afterwards. -/
def rendered : Instance := rendering.outcome.2.1

/-- The world afterwards; the component is not back in its place. -/
def after : World := rendering.outcome.2.2.1

/-- The world once the component is back in its place, if the place is still there. -/
def settled : World := (rendering.after.putBack rendering.rendered rendering.outcome.2.2.2).1

/-- What the template of a component sees, with so many components inside of it. -/
def scope (nesting : Nat) (component : Instance) : Scope RenderState :=
  World.scopeOf (World.renderChild (World.renderNested nesting) component.definition) component

/-- **The calls for children that a rendering makes**, in order. -/
def calls : List (Scope.Call RenderState) :=
  match rendering.nesting, rendering.component.definition.template rendering.component.variant with
  | nesting + 1, .ok template =>
    Render.calls template rendering.dirty rendering.component.view
      (scope nesting rendering.component) rendering.world.config
      ⟨rendering.component.container, rendering.world⟩ rendering.store
  | _, _ => []

/-- The rendering to which a call for a child leads, if it finds the child. -/
def inner? (call : Scope.Call RenderState) : Option Rendering :=
  match rendering.nesting with
  | 0 => none
  | nesting + 1 =>
    match World.childFor rendering.component.definition call.className call.id call.world.world
      call.store with
    | (.ok component, world, store) => some (.inPlace nesting component .all world store)
    | (.error _, _, _) => none

/-- **How a rendering goes.** -/
inductive Course (rendering : Rendering) : Prop
  /-- It does not begin. -/
  | refused {error : Error} (result : rendering.result = .error error)
    (rendered : rendering.rendered = rendering.component) (after : rendering.after = rendering.world)
    (calls : rendering.calls = [])
  /-- It comes to an end before all parts are rendered. -/
  | failed {nesting : Nat} {template : Template} {error : Error} {own : Container} {reached : World}
    {stored : Store} (depth : rendering.nesting = nesting + 1)
    (known : rendering.component.definition.template rendering.component.variant = .ok template)
    (path : (scope nesting rendering.component).Path
      (⟨rendering.component.container, rendering.world⟩, rendering.store) rendering.calls
      (⟨own, reached⟩, stored))
    (result : rendering.result = .error error)
    (rendered : rendering.rendered = { rendering.component with container := own })
    (after : rendering.after = reached)
  /-- All parts are rendered, and the children that are no longer shown are destroyed. -/
  | done {nesting : Nat} {template : Template} {slots : Rendered} {view : ClientView}
    {own : Container} {reached : World} {stored : Store} (depth : rendering.nesting = nesting + 1)
    (known : rendering.component.definition.template rendering.component.variant = .ok template)
    (path : (scope nesting rendering.component).Path
      (⟨rendering.component.container, rendering.world⟩, rendering.store) rendering.calls
      (⟨own, reached⟩, stored))
    (ran : Render.render template rendering.dirty rendering.component.view
      (scope nesting rendering.component) rendering.world.config
      ⟨rendering.component.container, rendering.world⟩ rendering.store =
        (.ok slots, view, ⟨own, reached⟩, stored))
    {shown : List Shown}
    (answered : List.Forall₂ (scope nesting rendering.component).Answers rendering.calls shown)
    (named : Render.childrenOf slots.slots = shown.map Shown.id)
    (within : slots.renderedChildren = shown.flatMap Shown.rendered)
    (result : rendering.result = .ok slots)
    (rendered : rendering.rendered = { rendering.component with view, container := own })
    (after : rendering.after = (reached.destroyAll
      (rendering.component.view.liveChildren.diff view.liveChildren).names stored).1)

theorem course : Course rendering := by
  obtain ⟨nesting, component, dirty, world, store⟩ := rendering
  cases nesting with
  | zero => exact .refused rfl rfl rfl rfl
  | succ nesting =>
    cases known : component.definition.template component.variant with
    | error error =>
      refine @Course.refused _ error ?_ ?_ ?_ ?_
      all_goals simp only [result, rendered, after, outcome, calls, World.renderNested,
        World.renderWith, known]
    | ok template =>
      have path := Render.path_of_render template dirty component.view (scope nesting component)
        world.config ⟨component.container, world⟩ store
      have noted : (Rendering.mk (nesting + 1) component dirty world store).calls =
          Render.calls template dirty component.view (scope nesting component) world.config
            ⟨component.container, world⟩ store := by simp only [calls, known]
      rw [← noted] at path
      rcases ran : Render.render template dirty component.view (scope nesting component) world.config
        ⟨component.container, world⟩ store with ⟨error | slots, view, ⟨own, reached⟩, stored⟩
      · rw [ran] at path
        have kept : view = component.view := by
          rcases Render.render_eq template dirty component.view (scope nesting component)
            world.config ⟨component.container, world⟩ store with
            ⟨_, _, _, same⟩ | ⟨_, _, _, ok, _⟩
          · rw [ran] at same
            exact same
          · rw [ran] at ok
            cases ok
        subst kept
        have whole : (Rendering.mk (nesting + 1) component dirty world store).outcome =
            (.error error, { component with container := own }, reached, stored) := by
          unfold scope at ran
          simp only [outcome, World.renderNested, World.renderWith, known, ran]
        exact .failed rfl known path (congrArg Prod.fst whole)
          (congrArg (fun outcome => outcome.2.1) whole)
          (congrArg (fun outcome => outcome.2.2.1) whole)
      · rw [ran] at path
        have whole : (Rendering.mk (nesting + 1) component dirty world store).outcome =
            (.ok slots, { component with view, container := own },
              reached.destroyAll (component.view.liveChildren.diff view.liveChildren).names
                stored) := by
          unfold scope at ran
          simp only [outcome, World.renderNested, World.renderWith, known, ran]
        obtain ⟨shown, answered, named, within⟩ := Render.answers_of_render template dirty
          component.view (scope nesting component) world.config ⟨component.container, world⟩ store ran
        rw [← noted] at answered
        exact .done rfl known path ran answered named within (congrArg Prod.fst whole)
          (congrArg (fun outcome => outcome.2.1) whole)
          (congrArg (fun outcome => outcome.2.2.1) whole)

/-- A component is rendered as what it is. -/
theorem rendered_face : rendering.rendered.id = rendering.component.id ∧
    rendering.rendered.definition = rendering.component.definition ∧
    rendering.rendered.variant = rendering.component.variant := by
  cases rendering.course with
  | refused _ same => exact same ▸ ⟨rfl, rfl, rfl⟩
  | failed _ _ _ _ same => exact same ▸ ⟨rfl, rfl, rfl⟩
  | done _ _ _ _ _ _ _ _ same => exact same ▸ ⟨rfl, rfl, rfl⟩

/-- The component is put back if its place is still there, and dropped otherwise. -/
theorem settled_cases :
    (rendering.after.mounted.get? rendering.component.id = some none ∧
      rendering.settled = rendering.after.put rendering.rendered) ∨
    (rendering.after.mounted.get? rendering.component.id ≠ some none ∧
      rendering.settled = rendering.after) := by
  unfold settled World.putBack
  rw [rendering.rendered_face.1]
  split
  · next kept => exact Or.inl ⟨kept, rfl⟩
  · next lost => exact Or.inr ⟨lost, rfl⟩

/-! ### Inside of a rendering -/

/-- **What a call for a child comes to**: the child is found, mounted if need be, and rendered in its
place. -/
inductive Answers (rendering : Rendering) (call : Scope.Call RenderState)
    (answer : Except Error ChildRender) (after : World) : Prop
  | unfound {error : Error} (unmet : rendering.inner? call = none) (answer : answer = .error error)
    (found : World.Found rendering.component.definition call.className call.id call.world.world after)
  | rendered {inner : Rendering} {world : World} (leads : rendering.inner? call = some inner)
    (found : World.Found rendering.component.definition call.className call.id call.world.world world)
    (stands : world.mounted.get? call.id = some (some inner.component))
    (taken : inner.world = world.takeOut inner.component.id) (all : inner.dirty = .all)
    (answer : answer = inner.result.map fun rendered =>
      ⟨inner.rendered.view.html, call.id :: rendered.renderedChildren⟩)
    (settled : after = inner.settled)

theorem answers {nesting : Nat} (depth : rendering.nesting = nesting + 1)
    (call : Scope.Call RenderState) :
    let (answer, after, _) := (scope nesting rendering.component).renderChild call.className call.id
      call.world call.store
    rendering.Answers call answer after.world := by
  obtain ⟨depth', component, dirty, world, store⟩ := rendering
  cases depth
  obtain ⟨found, stands⟩ := World.found_childFor component.definition call.className call.id
    call.world.world call.store
  rcases answer : World.childFor component.definition call.className call.id call.world.world
    call.store with ⟨error | child, reached, stored⟩
  all_goals rw [answer] at found stands
  · have unmet : (Rendering.mk (nesting + 1) component dirty world store).inner? call = none := by
      simp only [inner?, answer]
    simp only [scope, World.scopeOf, World.renderChild_eq, answer]
    exact .unfound unmet rfl found
  · have leads : (Rendering.mk (nesting + 1) component dirty world store).inner? call =
        some (.inPlace nesting child .all reached stored) := by simp only [inner?, answer]
    simp only [scope, World.scopeOf, World.renderChild_eq, answer]
    exact .rendered leads found (stands child rfl) rfl rfl rfl rfl

theorem nesting_of_inner {rendering inner : Rendering} {call : Scope.Call RenderState}
    (leads : rendering.inner? call = some inner) : rendering.nesting = inner.nesting + 1 := by
  unfold inner? at leads
  split at leads
  · cases leads
  · next depth =>
    split at leads
    · cases leads
      exact depth
    · cases leads

/-- **Induction over the renderings inside of a rendering.** -/
@[elab_as_elim]
theorem induct {motive : Rendering → Prop}
    (step : ∀ rendering : Rendering,
      (∀ call inner, rendering.inner? call = some inner → motive inner) → motive rendering)
    (rendering : Rendering) : motive rendering := by
  generalize depth : rendering.nesting = nesting
  induction nesting generalizing rendering with
  | zero =>
    refine step rendering fun call inner leads => ?_
    rw [nesting_of_inner leads] at depth
    cases depth
  | succ nesting ih =>
    refine step rendering fun call inner leads => ih inner ?_
    rw [nesting_of_inner leads] at depth
    exact Nat.succ.inj depth

end Rendering

end ReactiveView
