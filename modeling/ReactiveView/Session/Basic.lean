/-
**Sessions: the state of one connection and its entry points.**

A session takes one request after the other. Each entry point gives a result, what is sent to the
client meanwhile, and the session afterwards. After the end of the connection, every request is an
error.

* `Session.mount`, `Session.unmount` — components come and go.
* `Session.handle`, `Session.handleText`, `Session.externalUpdate` — one cycle each.
* `Session.get`, `Session.html` — what a component holds and what the client shows of it.
-/

import ReactiveView.Session.Cycle

namespace ReactiveView

/-- The state of one connection. -/
structure Session where
  world : World
  /-- All tracked values. -/
  store : Store
  closed : Bool

namespace Session

/-- What an entry point gives: its result, what is sent, and the session afterwards. -/
structure Outcome (α : Type) where
  result : Except Error α
  sent : List Envelope
  session : Session

/-- A session on which nothing happened. -/
def new (config : Config) : Session :=
  let (world, store) := World.new config Store.empty
  ⟨world, store, false⟩

/-- The settings. -/
def config (session : Session) : Config := session.world.config

/-- Gives every template and all code a value to read. -/
def setIdentity (session : Session) (name : String) (value : Value) : Session :=
  { session with
    world := { session.world with identity := session.world.identity.insert name value } }

/-- Ends an entry point: everything that is to be sent is sent. -/
def flush {α : Type} (session : Session) (result : Except Error α) : Outcome α :=
  ⟨result, session.world.outgoing, { session with world := { session.world with outgoing := [] } }⟩

/-- An error that leaves the session as it is and sends nothing. -/
def refuse {α : Type} (session : Session) (error : Error) : Outcome α := ⟨.error error, [], session⟩

/-- The result of a cycle: its first failure, if there was one. -/
def resultOf (cycle : Cycle) : Except Error Unit :=
  match cycle.failure with
  | some error => .error error
  | none => .ok ()

/-- Runs one cycle. -/
def run (session : Session) (request : Request) : Outcome Unit :=
  if session.closed then session.refuse .closed
  else
    let cycle := Cycle.run session.world request session.store
    { session with world := cycle.world, store := cycle.store }.flush (resultOf cycle)

/-- Adds a component and renders all of it. -/
def mount (session : Session) (id : String) (definition : ComponentDef) : Outcome Unit :=
  if session.closed then session.refuse .closed
  else
    match session.world.mount id definition session.store with
    | (.error error, _, _) => session.refuse error
    | (.ok _, world, store) => { session with world, store }.run (.mounted id)

/-- Removes a component and everything that it shows. -/
def unmount (session : Session) (id : String) : Outcome Unit :=
  if session.closed then session.refuse .closed
  else
    match session.world.instance? id with
    | .error error => session.refuse error
    | .ok _ =>
      let (world, store) := session.world.destroyAll [id] session.store
      { session with world, store }.flush (.ok ())

/-- Does what some sub-messages ask. -/
def handle (session : Session) (messages : List SubMessage) : Outcome Unit :=
  session.run (.messages messages)

/-- Does what a batch asks that is given as text. -/
def handleText (session : Session) (text : String) : Outcome Unit :=
  if session.closed then session.refuse .closed
  else
    match SubMessage.batchOfText text with
    | .error error => session.refuse error
    | .ok messages => session.handle messages

/-- Changes a component from outside of a message. -/
def externalUpdate (session : Session) (id : String) (code : ActionCode) : Outcome Unit :=
  session.run (.external id code)

/-- Ends the connection: every container is emptied and every component is gone. -/
def disconnect (session : Session) : Session :=
  if session.closed then session
  else
    let store := session.world.mounted.values.foldl (fun store place => (World.endOf place store).2)
      session.store
    let (shared, store) := session.world.shared.cleanup store
    ⟨{ session.world with mounted := OrderedMap.empty, shared, outgoing := [] }, store, true⟩

/-- The ids of the mounted components, in the order in which they are rendered. -/
def componentIds (session : Session) : List String := session.world.ids

/-- Whether a component with the given id is mounted. -/
def contains (session : Session) (id : String) : Bool := session.world.contains id

/-- The value of a variable of a component, given its default if it has none yet. -/
def get (session : Session) (id name : String) : Except Error Value × Session :=
  match session.world.instance? id with
  | .error error => (.error error, session)
  | .ok component =>
    let (result, reached, store) :=
      (session.world.variablesOf component).read component.definition component.owner name
        session.store
    let world :=
      { session.world with shared := reached.shared }.put
        { component with container := reached.own }
    (result, { session with world, store })

/-- The markup that the client shows for a component. -/
def html (session : Session) (id : String) : Except Error String :=
  (session.world.instance? id).map fun component => component.view.html

/-- The variant of the template that a component renders. -/
def variant (session : Session) (id : String) : Except Error String :=
  (session.world.instance? id).map Instance.variant

end Session

end ReactiveView
