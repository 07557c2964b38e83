/-
**One cycle: what is asked is done, and what changed is rendered.**

A cycle forgets all marks, executes what is asked, finds out which components are affected,
renders them in the order in which they were mounted, and forgets all marks again. A failure is
shown in place of the component it belongs to; what is asked after the first failure is dropped,
and the other components are rendered all the same. A component that was rendered inside another
one in this cycle is not rendered again.

* `Cycle.run` — one cycle, from the request to the first failure.
* `Cycle.affected` — which components are rendered, and for which names.
-/

import ReactiveView.Diagnostic
import ReactiveView.Message.Inbound
import ReactiveView.Session.Rendering

namespace ReactiveView

/-- The phases of a cycle. -/
inductive Phase where
  | idle
  | resetChangesets
  | executeSubMessages
  | computeAffected
  | renderAffected
deriving DecidableEq

namespace Phase

/-- The name under which a phase is shown. -/
def name : Phase → String
  | idle => "idle"
  | resetChangesets => "reset_changesets"
  | executeSubMessages => "execute_sub_messages"
  | computeAffected => "compute_affected"
  | renderAffected => "render_affected"

/-- All phases, in the order in which a cycle comes to them first. -/
def all : List Phase :=
  [idle, resetChangesets, executeSubMessages, computeAffected, renderAffected]

end Phase

/-- What starts a cycle. -/
inductive Request where
  | messages (messages : List SubMessage)
  /-- Code from outside that runs as an action of a component. -/
  | external (id : String) (code : ActionCode)
  /-- A component was mounted and has not been rendered yet. -/
  | mounted (id : String)

/-- The name of the action as which code from outside runs. -/
def externalAction : String := "external_update"

/-- How far a cycle has come. -/
structure Cycle where
  world : World
  store : Store
  /-- The first failure. -/
  failure : Option Error
  /-- The components that failed. -/
  failed : List String

namespace Cycle

/-- A cycle before anything is done; all marks are forgotten. -/
def start (world : World) (store : Store) : Cycle := ⟨world, world.resetChanges store, none, []⟩

/-- Shows an error in place of a component; the client no longer has the markup of it. -/
def fail (cycle : Cycle) (id : String) (error : Error) : Cycle :=
  let (className, world) :=
    match cycle.world.instance? id with
    | .ok component =>
      (component.definition.className,
        cycle.world.put { component with view := component.view.invalidate })
    | .error _ => ("", cycle.world)
  let html := Diagnostic.html className error world.config.diagnostics
  { cycle with
    world := world.emit id (.error html)
    failure := cycle.failure.or (some error)
    failed := id :: cycle.failed }

/-! ### Execution -/

/-- Runs the code of an action of a mounted component; its failure is one of the action `name`. -/
def runCode (world : World) (component : Instance) (name : String) (code : ActionCode)
    (store : Store) : Except Error Unit × World × Store :=
  let answering :=
    ActionQuestion.answer component.definition component.owner world.identity
  let (result, state, store) :=
    (code component.owner).run answering ⟨world.variablesOf component, component.variant⟩ store
  let changed :=
    { component with container := state.reached.own, variant := state.variant }
  (result.mapError (.action component.definition.className name),
    { world with shared := state.reached.shared }.put changed, store)

/-- Assigns a variable of a mounted component from JSON. -/
def assign (world : World) (component : Instance) (name : String) (value : Json) (store : Store) :
    Except Error Unit × World × Store :=
  if !component.definition.declares name then
    (.error (component.definition.unknownVariable name), world, store)
  else
    let (value, store) := Value.ofJson store value
    let (result, reached, store) :=
      (world.variablesOf component).write component.definition name value store
    (result,
      { world with shared := reached.shared }.put { component with container := reached.own },
      store)

/-- Does what one sub-message asks. -/
def execute (world : World) (message : SubMessage) (store : Store) :
    Except Error Unit × World × Store :=
  match world.instance? message.component with
  | .error error => (.error error, world, store)
  | .ok component =>
    match message with
    | .action _ name params =>
      match component.definition.action? name with
      | none => (.error (.unknownAction component.definition.className name), world, store)
      | some action => runCode world component name (action.code params) store
    | .assign _ name value => assign world component name value store

/-- Runs code from outside as an action of a component. -/
def executeExternal (world : World) (id : String) (code : ActionCode) (store : Store) :
    Except Error Unit × World × Store :=
  match world.instance? id with
  | .error error => (.error error, world, store)
  | .ok component => runCode world component externalAction code store

/-- The cycle after something was done for a component. -/
def after (cycle : Cycle) (id : String) (done : Except Error Unit × World × Store) : Cycle :=
  let (result, world, store) := done
  let cycle := { cycle with world, store }
  match result with
  | .ok _ => cycle
  | .error error => cycle.fail id error

/-- Does what sub-messages ask, up to the first failure. -/
def executeAll (cycle : Cycle) : List SubMessage → Cycle
  | [] => cycle
  | message :: rest =>
    let cycle := cycle.after message.component (execute cycle.world message cycle.store)
    if cycle.failure.isSome then cycle else cycle.executeAll rest

/-- Does what a request asks. -/
def perform (cycle : Cycle) : Request → Cycle
  | .messages messages => cycle.executeAll messages
  | .external id code => cycle.after id (executeExternal cycle.world id code cycle.store)
  | .mounted _ => cycle

/-! ### Rendering -/

/-- The component that a request has just mounted. -/
def newcomer? : Request → Option String
  | .mounted id => some id
  | _ => none

/-- For which names a component must be rendered; none if it is left alone. -/
def dirtyOf (cycle : Cycle) (newcomer : Option String) (id : String) (place : Option Instance) :
    Option Dirty :=
  if newcomer = some id then some .all
  else if cycle.failed.contains id then none
  else
    match place with
    | none => none
    | some component =>
      let dirty := component.dirty (cycle.world.shared.changes cycle.store) cycle.store
      if dirty.isEmpty then none else some (.names dirty)

/-- The components that must be rendered, in the order in which they were mounted. -/
def affected (cycle : Cycle) (newcomer : Option String) : List (String × Dirty) :=
  cycle.world.mounted.entries.filterMap fun entry =>
    (cycle.dirtyOf newcomer entry.1 entry.2).map fun dirty => (entry.1, dirty)

/-- Renders one component; `inlined` are those rendered inside others so far. -/
def renderOne (cycle : Cycle) (inlined : List String) (component : Instance) (dirty : Dirty) :
    Cycle × List String :=
  let (result, world, store) := cycle.world.render component dirty cycle.store
  let cycle := { cycle with world, store }
  match result with
  | .error error => (cycle.fail component.id error, inlined)
  | .ok rendered =>
    let inlined := inlined ++ rendered.renderedChildren
    if rendered.isEmpty then (cycle, inlined)
    else ({ cycle with world := world.emit component.id (.render rendered.markup) }, inlined)

/-- Renders components that are still there and were not rendered inside others. -/
def renderAll (cycle : Cycle) (inlined : List String) : List (String × Dirty) → Cycle
  | [] => cycle
  | (id, dirty) :: rest =>
    if inlined.contains id then cycle.renderAll inlined rest
    else
      match cycle.world.instance? id with
      | .error _ => cycle.renderAll inlined rest
      | .ok component =>
        let (cycle, inlined) := cycle.renderOne inlined component dirty
        cycle.renderAll inlined rest

/-- One cycle. -/
def run (world : World) (request : Request) (store : Store) : Cycle :=
  let executed := (start world store).perform request
  let rendered := executed.renderAll [] (executed.affected (newcomer? request))
  { rendered with store := rendered.world.resetChanges rendered.store }

end Cycle

end ReactiveView
