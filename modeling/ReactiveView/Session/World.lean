/-
**Everything that one connection owns.**

The mounted components stand in the order in which they came. A component that is being rendered
is taken out of its place, and the place is kept; if it is destroyed meanwhile, there is no place
to put it back, and its container ends when the rendering does.

* `World.mount` — a new component; its id must be free.
* `World.destroyAll` — components and all that they show, each announced once, parents first.
* `World.takeOut`, `World.putBack` — around the rendering of a component.
-/

import ReactiveView.Component.Variables
import ReactiveView.Config
import ReactiveView.Message.Envelope
import ReactiveView.Render.ClientView

namespace ReactiveView

/-- One mounted component. -/
structure Instance where
  id : String
  definition : ComponentDef
  container : Container
  /-- What the client has of it. -/
  view : ClientView
  /-- The variant of the template that is rendered. -/
  variant : String

namespace Instance

/-- The component as its own code knows it. -/
def owner (component : Instance) : Owner := ⟨component.id, component.definition.className⟩

/-- A component before anything happened to it. -/
def new (id : String) (definition : ComponentDef) (store : Store) : Instance × Store :=
  let (container, store) := Container.new store
  (⟨id, definition, container, ClientView.empty, definition.defaultVariant⟩, store)

/-- The variables of the session that the class declares and that are marked. -/
def sharedChanges (component : Instance) (shared : NameSet) : List String :=
  component.definition.declared.shared.keys.filter shared.contains

/--
The names for which the component must be rendered again. If there is any, the component as a
whole and its helpers count as changed too.
-/
def dirty (component : Instance) (shared : NameSet) (store : Store) : NameSet :=
  let changed := (component.container.changes store).insertAll (component.sharedChanges shared)
  if changed.isEmpty then changed
  else (changed.insert Template.componentName).insertAll component.definition.declared.helpers.keys

end Instance

/-- Everything that one connection owns. -/
structure World where
  /-- The components under their ids, in the order they came; none while one is being rendered. -/
  mounted : OrderedMap String (Option Instance)
  shared : Container
  /-- Values that every template and all code can read. -/
  identity : OrderedMap String Value
  config : Config
  /-- What is to be sent, oldest first. -/
  outgoing : List Envelope

namespace World

/-- A connection on which nothing happened. -/
def new (config : Config) (store : Store) : World × Store :=
  let (shared, store) := Container.new store
  (⟨OrderedMap.empty, shared, OrderedMap.empty, config, []⟩, store)

/-- Whether a component with the given id is mounted. -/
def contains (world : World) (id : String) : Bool := world.mounted.contains id

/-- The ids of the mounted components. -/
def ids (world : World) : List String := world.mounted.keys

/-- The component with the given id; one that is being rendered cannot be reached. -/
def instance? (world : World) (id : String) : Except Error Instance :=
  match world.mounted.get? id with
  | none => .error (.unknownComponent id)
  | some none => .error (.recursiveRender id)
  | some (some component) => .ok component

/-- Has something sent to a component. -/
def emit (world : World) (id : String) (payload : Outbound) : World :=
  { world with outgoing := world.outgoing ++ [⟨id, payload⟩] }

/-- Puts a component in its place, or after all others. -/
def put (world : World) (component : Instance) : World :=
  { world with mounted := world.mounted.insert component.id (some component) }

/-- Mounts a new component. -/
def mount (world : World) (id : String) (definition : ComponentDef) (store : Store) :
    Except Error Unit × World × Store :=
  if world.contains id then (.error (.duplicateComponent id), world, store)
  else
    let (component, store) := Instance.new id definition store
    (.ok (), (world.put component).emit id (.status .subscribed), store)

/-- Takes a component out and keeps its place. -/
def takeOut (world : World) (id : String) : World :=
  { world with mounted := world.mounted.insert id none }

/-- Puts a component back; if its place is gone or taken, it ends. -/
def putBack (world : World) (component : Instance) (store : Store) : World × Store :=
  match world.mounted.get? component.id with
  | some none => (world.put component, store)
  | _ => (world, component.container.drop store)

/-- The children that what stands in a place shows. -/
def shownIn (place : Option Instance) : List String :=
  match place with
  | some component => component.view.liveChildren.names
  | none => []

/-- Ends what stands in a place: the children it shows, and the store after it. -/
def endOf (place : Option Instance) (store : Store) : List String × Store :=
  match place with
  | some component => (shownIn place, component.container.drop store)
  | none => (shownIn place, store)

theorem endOf_fst (place : Option Instance) (store : Store) :
    (endOf place store).1 = shownIn place := by
  cases place <;> rfl

/-- Gives up the place of a component and tells the client. -/
def remove (world : World) (id : String) : World :=
  { world with mounted := world.mounted.erase id }.emit id (.status .destroyed)

/-- How many components there are, each with the children it shows. -/
def extent (world : World) : Nat :=
  world.mounted.weigh fun place => (shownIn place).length + 1

theorem extent_remove {world : World} {id : String} {place : Option Instance}
    (found : world.mounted.get? id = some place) :
    (world.remove id).extent + ((shownIn place).length + 1) = world.extent :=
  OrderedMap.weigh_erase found _

/-- Destroys components and everything that they show. -/
def destroyAll (world : World) (ids : List String) (store : Store) : World × Store :=
  match ids with
  | [] => (world, store)
  | id :: rest =>
    match _found : world.mounted.get? id with
    | none => world.destroyAll rest store
    | some place =>
      (world.remove id).destroyAll ((endOf place store).1 ++ rest) (endOf place store).2
termination_by world.extent + ids.length
decreasing_by
  · simp
  · have less := extent_remove _found
    simp only [endOf_fst, List.length_append, List.length_cons]
    omega

/-- Forgets all marks. -/
def resetChanges (world : World) (store : Store) : Store :=
  world.mounted.values.foldl (fun store place =>
    match place with
    | some component => component.container.resetChanges store
    | none => store) (world.shared.resetChanges store)

/-- The variables that a component reaches. -/
def variablesOf (world : World) (component : Instance) : Variables :=
  ⟨component.container, world.shared⟩

end World

end ReactiveView
