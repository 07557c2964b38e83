/-
**Runs of a session, entry after entry.**

Whatever is asked of a session is an entry. An entry leaves all components as they are seen, or takes
some away, or runs one cycle: some code runs, failures are shown, and then components are rendered in
turns.

* `Entry`, `Session.enter`, `Session.reached` — what may be asked, and where it leads.
* `World.Stands` — components are seen as they were: only variables and variants may have changed.
* `Turn`, `Cycle.turns` — the renderings of a cycle that are not inside of others.
* `Session.entered` — what an entry does to the places and what it sends.
-/

import ReactiveView.Proofs.Session.Renderings
import ReactiveView.Session.Basic

namespace ReactiveView

/-- What may be asked of a session. -/
inductive Entry where
  | mount (id : String) (definition : ComponentDef)
  | unmount (id : String)
  | handle (messages : List SubMessage)
  | handleText (text : String)
  | external (id : String) (code : ActionCode)
  | setIdentity (name : String) (value : Value)
  | get (id name : String)
  /-- Values are made and changed by code outside of the session. -/
  | outside (change : Store → Store)
  | disconnect

namespace Session

/-- What comes of an entry. -/
def enter (session : Session) : Entry → Outcome Unit
  | .mount id definition => session.mount id definition
  | .unmount id => session.unmount id
  | .handle messages => session.handle messages
  | .handleText text => session.handleText text
  | .external id code => session.externalUpdate id code
  | .setIdentity name value => ⟨.ok (), [], session.setIdentity name value⟩
  | .get id name =>
    let (result, after) := session.get id name
    ⟨result.map fun _ => (), [], after⟩
  | .outside change => ⟨.ok (), [], { session with store := change session.store }⟩
  | .disconnect => ⟨.ok (), [], session.disconnect⟩

/-- **The session that some entries lead to**, the last of them first. -/
def reached (config : Config) : List Entry → Session
  | [] => .new config
  | entry :: earlier => ((reached config earlier).enter entry).session

/-- What the last of some entries sends. -/
def sent (config : Config) : List Entry → List Envelope
  | [] => []
  | entry :: earlier => ((reached config earlier).enter entry).sent

/-- **All that some entries send**, the last of them first; what is sent last comes last. -/
def history (config : Config) : List Entry → List Envelope
  | [] => []
  | entry :: earlier => history config earlier ++ sent config (entry :: earlier)

/-- The cycle that an entry runs, if it runs one: where it starts, and what it is asked. -/
def cycle? (session : Session) : Entry → Option (World × Request × Store)
  | .mount id definition =>
    if session.closed then none
    else
      match session.world.mount id definition session.store with
      | (.error _, _, _) => none
      | (.ok _, world, store) => some (world, .mounted id, store)
  | .handle messages =>
    if session.closed then none else some (session.world, .messages messages, session.store)
  | .handleText text =>
    if session.closed then none
    else
      match SubMessage.batchOfText text with
      | .error _ => none
      | .ok messages => some (session.world, .messages messages, session.store)
  | .external id code =>
    if session.closed then none else some (session.world, .external id code, session.store)
  | _ => none

end Session

/-! ### Components that are seen as before -/

/-- What others see of a component: not its variables, and not the variant it will be rendered in. -/
def Instance.face (component : Instance) : String × ComponentDef × ClientView :=
  (component.id, component.definition, component.view)

namespace World

variable {world middle after : World} {id : String}

/-- **Everything is seen as before**, and nothing is sent. -/
structure Stands (before after : World) : Prop where
  places : ∀ id, (after.mounted.get? id).map (Option.map Instance.face) =
    (before.mounted.get? id).map (Option.map Instance.face)
  ids : after.ids = before.ids
  outgoing : after.outgoing = before.outgoing
  config : after.config = before.config

theorem Stands.refl (world : World) : world.Stands world := ⟨fun _ => rfl, rfl, rfl, rfl⟩

theorem Stands.symm (stands : world.Stands after) : after.Stands world :=
  ⟨fun id => (stands.places id).symm, stands.ids.symm, stands.outgoing.symm, stands.config.symm⟩

/-- A component that is seen afterwards was seen before. -/
theorem Stands.exists_of_get? (stands : world.Stands after) {component : Instance}
    (there : after.mounted.get? id = some (some component)) :
    ∃ old, world.mounted.get? id = some (some old) ∧ old.face = component.face := by
  have same := stands.places id
  rw [there] at same
  rcases found : world.mounted.get? id with _ | _ | old
  · rw [found] at same
    cases same
  · rw [found] at same
    cases same
  · rw [found] at same
    exact ⟨old, rfl, (Option.some.inj (Option.some.inj same)).symm⟩

theorem Stands.contains (stands : world.Stands after) (id : String) :
    after.contains id = world.contains id := by
  have same := congrArg Option.isSome (stands.places id)
  rwa [Option.isSome_map, Option.isSome_map] at same

theorem Stands.filed (stands : world.Stands after) (filed : world.Filed) : after.Filed := by
  intro id component there
  obtain ⟨old, found, same⟩ := stands.exists_of_get? there
  exact (congrArg Prod.fst same).symm.trans (filed found)

/-- A component changes behind its face. -/
theorem stands_put {component old : Instance} {shared : Container}
    (there : world.mounted.get? component.id = some (some old)) (same : component.face = old.face) :
    world.Stands ({ world with shared }.put component) where
  places id := by
    change ((world.mounted.insert component.id (some component)).get? id).map _ = _
    rw [get?_insert_eq]
    split
    · next here =>
      rw [here, there]
      exact congrArg (fun face => some (some face)) same
    · rfl
  ids := (ids_put _ component).trans (if_pos (contains_iff.mpr ⟨_, there⟩))
  outgoing := rfl
  config := rfl

end World

/-! ### What is done for components -/

namespace Cycle

variable {world after : World} {component : Instance}

theorem stands_runCode (there : world.mounted.get? component.id = some (some component))
    (name : String) (code : ActionCode) (store : Store) :
    world.Stands (runCode world component name code store).2.1 :=
  World.stands_put there rfl

theorem stands_assign (there : world.mounted.get? component.id = some (some component))
    (name : String) (value : Json) (store : Store) :
    world.Stands (assign world component name value store).2.1 := by
  unfold assign
  split
  · exact .refl world
  · exact World.stands_put there rfl

/-- What a message asks is done behind the faces of the components. -/
theorem stands_execute (filed : world.Filed) (message : SubMessage) (store : Store) :
    world.Stands (execute world message store).2.1 := by
  unfold execute
  split
  · exact .refl world
  · next component known =>
    have there := World.instance?_eq_ok_iff.mp known
    rw [← filed there] at there
    split
    · split
      · exact .refl world
      · exact stands_runCode there ..
    · exact stands_assign there ..

theorem stands_executeExternal (filed : world.Filed) (id : String) (code : ActionCode)
    (store : Store) : world.Stands (executeExternal world id code store).2.1 := by
  unfold executeExternal
  split
  · exact .refl world
  · next component known =>
    have there := World.instance?_eq_ok_iff.mp known
    rw [← filed there] at there
    exact stands_runCode there ..

/-- The world in which a failure of a component is shown: the client has its markup no longer. -/
def invalidated (world : World) (id : String) : World :=
  match world.instance? id with
  | .ok component => world.put { component with view := component.view.invalidate }
  | .error _ => world

/-- **What a failure does**: it is shown, and the first one is kept. -/
theorem exists_fail_eq (cycle : Cycle) (id : String) (error : Error) :
    ∃ className, cycle.fail id error =
      { cycle with
        world := (invalidated cycle.world id).emit id
          (.error (Diagnostic.html className error cycle.world.config.diagnostics))
        failure := cycle.failure.or (some error)
        failed := id :: cycle.failed } := by
  unfold fail invalidated
  cases cycle.world.instance? id <;> exact ⟨_, rfl⟩

theorem world_fail (cycle : Cycle) (id : String) (error : Error) :
    ∃ html, (cycle.fail id error).world = (invalidated cycle.world id).emit id (.error html) := by
  obtain ⟨className, same⟩ := exists_fail_eq cycle id error
  exact ⟨_, congrArg Cycle.world same⟩

section

variable {motive : Cycle → Prop} (filed : ∀ cycle, motive cycle → cycle.world.Filed)
  (stands : ∀ (cycle : Cycle) (world : World) (store : Store), cycle.world.Stands world →
    motive cycle → motive { cycle with world, store })
  (fail : ∀ cycle id error, motive cycle → motive (fail cycle id error))

include stands fail

theorem after_induct {cycle : Cycle} (holds : motive cycle) (id : String)
    {done : Except Error Unit × World × Store} (behind : cycle.world.Stands done.2.1) :
    motive (cycle.after id done) := by
  obtain ⟨result, world, store⟩ := done
  have changed := stands cycle world store behind holds
  cases result with
  | ok value => exact changed
  | error error => exact fail _ id error changed

include filed

/-- **What is asked is done behind the faces of the components**, and failures are shown. -/
theorem perform_induct {cycle : Cycle} (holds : motive cycle) (request : Request) :
    motive (cycle.perform request) := by
  cases request with
  | messages messages =>
    change motive (cycle.executeAll messages)
    induction messages generalizing cycle with
    | nil => exact holds
    | cons message rest ih =>
      have next := after_induct stands fail holds message.component
        (stands_execute (filed cycle holds) message cycle.store)
      unfold executeAll
      dsimp only
      split
      · exact next
      · exact ih next
  | external id code =>
    exact after_induct stands fail holds id
      (stands_executeExternal (filed cycle holds) id code cycle.store)
  | mounted id => exact holds

end

end Cycle

/-! ### Turns -/

/-- One rendering of a cycle that is not inside of another one. -/
structure Turn where
  /-- The cycle before it. -/
  cycle : Cycle
  component : Instance
  dirty : Dirty

/-- The rendering itself. -/
def Turn.rendering (turn : Turn) : Rendering :=
  .inPlace renderDepthLimit turn.component turn.dirty turn.cycle.world turn.cycle.store

namespace Cycle

/-- **The turns of a cycle**, in the order in which it takes them. -/
def turns (cycle : Cycle) (inlined : List String) : List (String × Dirty) → List Turn
  | [] => []
  | (id, dirty) :: rest =>
    if inlined.contains id then cycle.turns inlined rest
    else
      match cycle.world.instance? id with
      | .error _ => cycle.turns inlined rest
      | .ok component =>
        let (next, inlined) := cycle.renderOne inlined component dirty
        ⟨cycle, component, dirty⟩ :: next.turns inlined rest

/-- The turns of a whole cycle. -/
def turnsOf (world : World) (request : Request) (store : Store) : List Turn :=
  let executed := (start world store).perform request
  executed.turns [] (executed.affected (newcomer? request))

/-- What was rendered inside others so far does not matter for a turn. -/
theorem renderOne_fst (cycle : Cycle) (inlined : List String) (component : Instance)
    (dirty : Dirty) :
    (cycle.renderOne inlined component dirty).1 = (cycle.renderOne [] component dirty).1 := by
  unfold renderOne
  dsimp only
  cases (cycle.world.render component dirty cycle.store).1 with
  | error error => rfl
  | ok rendered =>
    dsimp only
    split <;> rfl

/-- What comes of one turn: a failure is shown, or new markup is sent, if there is any. -/
theorem exists_renderOne_eq (turn : Turn) (inlined : List String) :
    ∃ store, turn.cycle.renderOne inlined turn.component turn.dirty =
      match turn.rendering.result with
      | .error error =>
        (fail { turn.cycle with world := turn.rendering.settled, store } turn.component.id error,
          inlined)
      | .ok rendered =>
        ({ turn.cycle with
            world := if rendered.isEmpty then turn.rendering.settled
              else turn.rendering.settled.emit turn.component.id (.render rendered.markup)
            store }, inlined ++ rendered.renderedChildren) := by
  have same : turn.cycle.world.render turn.component turn.dirty turn.cycle.store =
      (turn.rendering.result, turn.rendering.settled,
        (turn.rendering.after.putBack turn.rendering.rendered turn.rendering.outcome.2.2.2).2) := rfl
  unfold renderOne
  rw [same]
  dsimp only
  cases turn.rendering.result with
  | error error => exact ⟨_, rfl⟩
  | ok rendered =>
    dsimp only
    split <;> exact ⟨_, rfl⟩

theorem world_renderOne (cycle : Cycle) (inlined : List String) (component : Instance)
    (dirty : Dirty) :
    match (Turn.rendering ⟨cycle, component, dirty⟩).result with
    | .error _ => (cycle.renderOne inlined component dirty).2 = inlined ∧
      ∃ html, (cycle.renderOne inlined component dirty).1.world =
        (invalidated (Turn.rendering ⟨cycle, component, dirty⟩).settled component.id).emit
          component.id (.error html)
    | .ok rendered => (cycle.renderOne inlined component dirty).2 =
        inlined ++ rendered.renderedChildren ∧
      (cycle.renderOne inlined component dirty).1.world =
        if rendered.isEmpty then (Turn.rendering ⟨cycle, component, dirty⟩).settled
        else (Turn.rendering ⟨cycle, component, dirty⟩).settled.emit component.id
          (.render rendered.markup) := by
  obtain ⟨store, same⟩ := exists_renderOne_eq ⟨cycle, component, dirty⟩ inlined
  dsimp only at same
  rw [same]
  cases (Turn.rendering ⟨cycle, component, dirty⟩).result with
  | error error => exact ⟨rfl, world_fail _ component.id error⟩
  | ok rendered => exact ⟨rfl, rfl⟩

end Cycle

/-- The world after a turn, by what came of its rendering. -/
theorem Turn.world_renderOne (turn : Turn) (inlined : List String) :
    match turn.rendering.result with
    | .error _ => (turn.cycle.renderOne inlined turn.component turn.dirty).2 = inlined ∧
      ∃ html, (turn.cycle.renderOne inlined turn.component turn.dirty).1.world =
        (Cycle.invalidated turn.rendering.settled turn.component.id).emit turn.component.id
          (.error html)
    | .ok rendered => (turn.cycle.renderOne inlined turn.component turn.dirty).2 =
        inlined ++ rendered.renderedChildren ∧
      (turn.cycle.renderOne inlined turn.component turn.dirty).1.world =
        if rendered.isEmpty then turn.rendering.settled
        else turn.rendering.settled.emit turn.component.id (.render rendered.markup) :=
  Cycle.world_renderOne turn.cycle inlined turn.component turn.dirty

/-! ### Entries -/

namespace Session

/-- The turns that an entry takes. -/
def turns (session : Session) (entry : Entry) : List Turn :=
  match session.cycle? entry with
  | some (world, request, store) => Cycle.turnsOf world request store
  | none => []

/-- Where the cycle of an entry starts: in the world as it is, or with one more component. -/
inductive Starts (session : Session) : Entry → World → Prop
  | here {entry : Entry} : Starts session entry session.world
  | mounted {component : Instance} (free : session.world.contains component.id = false)
    (view : component.view = ClientView.empty) :
    Starts session (.mount component.id component.definition)
      ((session.world.put component).emit component.id (.status .subscribed))

/-- **What an entry does** to the places, and what it sends. -/
inductive Entered (session : Session) (entry : Entry) : List Envelope → World → Prop
  | stands {after : World} (stands : session.world.Stands after) (idle : session.cycle? entry = none) :
    Entered session entry [] after
  | disconnected {after : World} (idle : session.cycle? entry = none)
    (gone : ∀ id, after.mounted.get? id = none) (outgoing : after.outgoing = []) :
    Entered session entry [] after
  | unmounted (ids : List String) (idle : session.cycle? entry = none) :
    Entered session entry (session.world.destroyAll ids session.store).1.outgoing
      { (session.world.destroyAll ids session.store).1 with outgoing := [] }
  | ran {world : World} {request : Request} {store : Store}
    (runs : session.cycle? entry = some (world, request, store)) (starts : session.Starts entry world) :
    Entered session entry (Cycle.run world request store).world.outgoing
      { (Cycle.run world request store).world with outgoing := [] }

theorem entered (session : Session) (filed : session.world.Filed) (entry : Entry) :
    session.Entered entry (session.enter entry).sent (session.enter entry).session.world := by
  -- an entry that ends before anything is done
  have refused (idle : session.cycle? entry = none) : session.Entered entry [] session.world :=
    .stands (.refl session.world) idle
  cases entry with
  | mount id definition =>
    simp only [enter, mount, cycle?] at refused ⊢
    split
    · next closed => exact refused (by rw [if_pos closed])
    · next opened =>
      rw [if_neg opened] at refused
      rcases mounting : session.world.mount id definition session.store with
        ⟨error | value, world, store⟩
      · rw [mounting] at refused
        exact refused rfl
      · have runs : session.cycle? (.mount id definition) = some (world, .mounted id, store) := by
          simp only [cycle?, if_neg opened, mounting]
        dsimp only [run]
        rw [if_neg opened]
        refine .ran runs ?_
        unfold World.mount at mounting
        split at mounting
        · cases mounting
        · next free =>
          cases mounting
          have unheld : session.world.contains id = false := by simpa using free
          exact @Starts.mounted session (Instance.new id definition session.store).1 unheld rfl
  | unmount id =>
    simp only [enter, unmount] at refused ⊢
    split
    · exact refused rfl
    · split
      · exact refused rfl
      · exact .unmounted [id] rfl
  | handle messages =>
    simp only [enter, handle, run, cycle?] at refused ⊢
    split
    · next closed => exact refused (if_pos closed)
    · next opened => exact .ran (by simp only [cycle?, if_neg opened]) .here
  | handleText text =>
    simp only [enter, handleText, handle, run, cycle?] at refused ⊢
    split
    · next closed => exact refused (if_pos closed)
    · next opened =>
      rw [if_neg opened] at refused
      cases read : SubMessage.batchOfText text with
      | error error =>
        rw [read] at refused
        exact refused rfl
      | ok messages => exact .ran (by simp only [cycle?, if_neg opened, read]) .here
  | external id code =>
    simp only [enter, externalUpdate, run, cycle?] at refused ⊢
    split
    · next closed => exact refused (if_pos closed)
    · next opened => exact .ran (by simp only [cycle?, if_neg opened]) .here
  | setIdentity name value => exact .stands ⟨fun _ => rfl, rfl, rfl, rfl⟩ rfl
  | get id name =>
    simp only [enter, get]
    split
    · exact refused rfl
    · next component known =>
      have there := World.instance?_eq_ok_iff.mp known
      rw [← filed there] at there
      exact .stands (World.stands_put there rfl) rfl
  | outside change => exact refused rfl
  | disconnect =>
    simp only [enter, disconnect]
    split
    · exact refused rfl
    · exact .disconnected rfl (fun _ => rfl) rfl

end Session

end ReactiveView
