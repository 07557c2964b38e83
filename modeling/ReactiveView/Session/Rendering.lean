/-
**Rendering a component within its session.**

A template sees the variables of its component, then those of the session, then identity values,
and last the helpers, which may be read without arguments. A child is rendered inside its parent,
all of it and mounted first if it is not mounted yet; a component cannot be shown inside itself.

* `World.render` — renders a component that was taken out of its place.
* `World.renderInPlace` — takes a component out, renders it and puts it back.
-/

import ReactiveView.Render.Basic
import ReactiveView.Session.World

namespace ReactiveView

/-- How deep components may be rendered inside each other. -/
def renderDepthLimit : Nat := 4096

/-- What the rendering of a component changes besides the store. -/
structure RenderState where
  /-- The container of the component. -/
  own : Container
  world : World

namespace RenderState

/-- The variables that the component reaches. -/
def reached (state : RenderState) : Variables := ⟨state.own, state.world.shared⟩

/-- The state with other variables. -/
def withVariables (state : RenderState) (reached : Variables) : RenderState :=
  ⟨reached.own, { state.world with shared := reached.shared }⟩

/-- The result of a helper; none if the class has no such helper. -/
def callHelper (definition : ComponentDef) (owner : Owner) (name : String)
    (arguments : List Value) (state : RenderState) (store : Store) :
    Answer RenderState (Option Value) :=
  match state.reached.callHelper definition owner state.world.identity name arguments store with
  | some (result, reached, store) => (result.map some, state.withVariables reached, store)
  | none => (.ok none, state, store)

/-- The value of a name; none if nothing has this name. -/
def lookup (definition : ComponentDef) (owner : Owner) (name : String) (state : RenderState)
    (store : Store) : Answer RenderState (Option Value) :=
  match state.reached.read? definition owner name store with
  | some (result, reached, store) => (result.map some, state.withVariables reached, store)
  | none =>
    match state.world.identity.get? name with
    | some value => (.ok (some value), state, store)
    | none => callHelper definition owner name [] state store

end RenderState

namespace World

/-- How a component that was taken out is rendered: the result, and the component afterwards. -/
abbrev Renderer :=
  Instance → Dirty → World → Store → Except Error Rendered × Instance × World × Store

/-- Takes a component out of its place, renders it and puts it back. -/
def renderInPlace (render : Renderer) (component : Instance) (dirty : Dirty) (world : World)
    (store : Store) : Except Error Rendered × ClientView × World × Store :=
  let (result, component, world, store) := render component dirty (world.takeOut component.id) store
  let (world, store) := world.putBack component store
  (result, component.view, world, store)

/-- Renders the child of a class and an id inside of another component. -/
def renderChild (render : Renderer) (parent : ComponentDef) (className id : String) (world : World)
    (store : Store) : Answer World ChildRender :=
  match parent.child className with
  | .error error => (.error error, world, store)
  | .ok definition =>
    let (_, world, store) :=
      if world.contains id then (.ok (), world, store) else world.mount id definition store
    match world.instance? id with
    | .error error => (.error error, world, store)
    | .ok component =>
      if component.definition.className ≠ definition.className then
        (.error (.duplicateComponent id), world, store)
      else
        let (result, view, world, store) := world.renderInPlace render component .all store
        (result.map fun rendered => ⟨view.html, id :: rendered.renderedChildren⟩, world, store)

/-- What the template of a component sees, given how its children are rendered. -/
def scopeOf (renderChild : String → String → World → Store → Answer World ChildRender)
    (component : Instance) : Scope RenderState where
  lookup := RenderState.lookup component.definition component.owner
  call := RenderState.callHelper component.definition component.owner
  renderChild className id state store :=
    let (result, world, store) := renderChild className id state.world store
    (result, { state with world }, store)

/-- Renders a component that was taken out, and destroys the children that it no longer shows. -/
def renderWith (renderChild : String → String → World → Store → Answer World ChildRender) :
    Renderer :=
  fun component dirty world store =>
    match component.definition.template component.variant with
    | .error error => (.error error, component, world, store)
    | .ok template =>
      let (result, view, state, store) :=
        Render.render template dirty component.view (scopeOf renderChild component) world.config
          ⟨component.container, world⟩ store
      let rendered := { component with view, container := state.own }
      match result with
      | .error error => (.error error, rendered, state.world, store)
      | .ok slots =>
        let gone := component.view.liveChildren.diff view.liveChildren
        let (world, store) := state.world.destroyAll gone.names store
        (.ok slots, rendered, world, store)

/-- Renders a component that was taken out, with at most `nesting` components inside each other. -/
def renderNested : Nat → Renderer
  | 0 => fun component _ world store =>
    (.error (.recursiveRender component.id), component, world, store)
  | nesting + 1 => fun component =>
    renderWith (renderChild (renderNested nesting) component.definition) component

/-- Renders a component of the world. -/
def render (world : World) (component : Instance) (dirty : Dirty) (store : Store) :
    Except Error Rendered × World × Store :=
  let (result, _, world, store) :=
    world.renderInPlace (renderNested renderDepthLimit) component dirty store
  (result, world, store)

end World

end ReactiveView
