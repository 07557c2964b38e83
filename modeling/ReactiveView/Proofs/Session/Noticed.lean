/-
**What is changed while a cycle runs is rendered by it.**

A cycle begins by forgetting all marks, so it takes no notice of what was changed before it. From then on
marks only come, until all components that are concerned have had their turns: a write that is carried out by
the code of a batch or of an update, to a value that a variable watches, is followed by the rendering of every
component that has the variable.

* `Session.forget`, `Session.enter_forget` — what was marked before a cycle does not matter to it.
* `Request.operations` — the operations that the code of a request carries out.
* `Cycle.exists_marks_perform` — what they mark is marked when everything is done that was asked.
* `Cycle.notices_renderAll` — a component that is to be rendered has its turn, or is rendered inside of another
  one, or is destroyed.
* `Session.noticed` — both: what was changed before a cycle is forgotten, what is changed in it is rendered.
* `Session.not_noticed_of_pushed` — a value that is changed between two cycles is rendered by neither.
-/

import ReactiveView.Proofs.Component.Remembering
import ReactiveView.Proofs.Render.Evaluated
import ReactiveView.Proofs.Session.Declared
import ReactiveView.Proofs.Session.Discipline
import ReactiveView.Proofs.Session.FirstFault
import ReactiveView.Proofs.Session.NeverStale
import ReactiveView.Proofs.Session.Subscriptions

namespace ReactiveView

/-! ### Marks are forgotten -/

namespace Container

variable (container other : Container) (store : Store)

/-- Marks that were forgotten are forgotten once more in vain. -/
theorem resetChanges_resetChanges :
    container.resetChanges (container.resetChanges store) = container.resetChanges store := by
  simp only [resetChanges, Store.modifyChangeset, Store.mk.injEq, true_and, and_true]
  refine Array.ext (by simp) fun index _ _ => ?_
  simp only [Array.getElem_modify]
  split
  · exact Option.map_map ..
  · rfl

/-- It does not matter which marks are forgotten first. -/
theorem resetChanges_comm : container.resetChanges (other.resetChanges store) =
    other.resetChanges (container.resetChanges store) := by
  simp only [resetChanges, Store.modifyChangeset, Store.mk.injEq, true_and, and_true]
  refine Array.ext (by simp) fun index _ _ => ?_
  simp only [Array.getElem_modify]
  split <;> split <;> simp

end Container

namespace World

variable {world : World} {store : Store}

/-- The containers of a session that stand in their places, its own in front. -/
def containers (world : World) : List Container :=
  world.shared :: world.mounted.values.filterMap (Option.map Instance.container)

theorem resetChanges_eq (world : World) (store : Store) : world.resetChanges store =
    world.containers.foldl (fun store container => container.resetChanges store) store := by
  unfold resetChanges containers
  rw [List.foldl_cons]
  generalize world.shared.resetChanges store = begun
  induction world.mounted.values generalizing begun with
  | nil => rfl
  | cons place rest ih =>
    cases place with
    | none => exact ih begun
    | some component => exact ih _

/-- **Marks that were forgotten are forgotten once more in vain.** -/
theorem resetChanges_resetChanges (world : World) (store : Store) :
    world.resetChanges (world.resetChanges store) = world.resetChanges store := by
  rw [resetChanges_eq, resetChanges_eq]
  generalize world.containers = containers
  -- a container has nothing to forget after its marks were forgotten, whatever others forget then
  have forgotten (containers : List Container) {container : Container} {store : Store}
      (empty : container.resetChanges store = store) : container.resetChanges
        (containers.foldl (fun store container => container.resetChanges store) store) =
          containers.foldl (fun store container => container.resetChanges store) store := by
    induction containers generalizing store with
    | nil => exact empty
    | cons other rest ih => exact ih (by rw [Container.resetChanges_comm, empty])
  have each (container : Container) (member : container ∈ containers) : container.resetChanges
      (containers.foldl (fun store container => container.resetChanges store) store) =
        containers.foldl (fun store container => container.resetChanges store) store := by
    obtain ⟨front, back, rfl⟩ := List.append_of_mem member
    rw [List.foldl_append, List.foldl_cons]
    exact forgotten back (Container.resetChanges_resetChanges ..)
  generalize containers.foldl _ store = reset at each
  induction containers with
  | nil => rfl
  | cons first rest ih =>
    rw [List.foldl_cons, each first List.mem_cons_self]
    exact ih fun container member => each container (List.mem_cons_of_mem _ member)

end World

/-- What a batch or an update asks for. -/
def Entry.request? : Entry → Option Request
  | .handle messages => some (.messages messages)
  | .handleText text => (SubMessage.batchOfText text).toOption.map .messages
  | .external id code => some (.external id code)
  | _ => none

namespace Session

variable {session : Session} {entry : Entry} {world : World} {request : Request} {store : Store}

/-- The session after all marks were forgotten; what values hold stays. -/
def forget (session : Session) : Session :=
  { session with store := session.world.resetChanges session.store }

/-- A cycle begins by forgetting all marks. -/
theorem run_resetChanges (world : World) (request : Request) (store : Store) :
    Cycle.run world request (world.resetChanges store) = Cycle.run world request store := by
  have started : Cycle.start world (world.resetChanges store) = Cycle.start world store := by
    unfold Cycle.start
    rw [World.resetChanges_resetChanges]
  simp only [Cycle.run, started]

/-- Only the cycle of a component that comes starts in another world. -/
theorem cycle?_of_here (here : ∀ id definition, entry ≠ .mount id definition) (session : Session) :
    session.cycle? entry = if session.closed then none
      else entry.request?.map fun request => (session.world, request, session.store) := by
  cases entry with
  | mount id definition => exact absurd rfl (here id definition)
  | handleText text =>
    unfold cycle? Entry.request?
    dsimp only
    cases SubMessage.batchOfText text <;> rfl
  | handle | external => rfl
  | _ => exact (ite_self none).symm

/-- A batch or an update starts where the session is. -/
theorem here_of_runs (runs : session.cycle? entry = some (world, request, store))
    (here : ∀ id definition, entry ≠ .mount id definition) :
    world = session.world ∧ store = session.store := by
  rw [cycle?_of_here here] at runs
  split at runs
  · cases runs
  · obtain ⟨_, _, same⟩ := Option.map_eq_some_iff.mp runs
    cases same
    exact ⟨rfl, rfl⟩

/-- **What was marked before a batch or an update does not matter to it.** -/
theorem enter_forget (runs : session.cycle? entry = some (world, request, store))
    (here : ∀ id definition, entry ≠ .mount id definition) :
    session.forget.enter entry = session.enter entry := by
  obtain ⟨rfl, rfl⟩ := here_of_runs runs here
  have forgets : session.forget.cycle? entry =
      some (session.world, request, session.world.resetChanges session.store) := by
    rw [cycle?_of_here here] at runs ⊢
    split at runs
    · cases runs
    · next opened =>
      obtain ⟨asked, asks, same⟩ := Option.map_eq_some_iff.mp runs
      cases same
      rw [show session.forget.closed = session.closed from rfl, if_neg opened, asks]
      rfl
  rw [enter_of_runs forgets, enter_of_runs runs, run_resetChanges]
  rfl

end Session

/-! ### What code does -/

namespace World

variable {world middle after : World} {component : Instance} {store stored last : Store}

theorem Drifts.refl (world : World) (store : Store) : world.Drifts store world store :=
  ⟨.refl world, rfl, fun _ => rfl, id⟩

theorem Stands.trans (first : world.Stands middle) (second : middle.Stands after) :
    world.Stands after where
  places id := (second.places id).trans (first.places id)
  ids := second.ids.trans first.ids
  outgoing := second.outgoing.trans first.outgoing
  config := second.config.trans first.config

theorem Drifts.trans (first : world.Drifts store middle stored)
    (second : middle.Drifts stored after last) : world.Drifts store after last where
  stands := first.stands.trans second.stands
  identity := second.identity.trans first.identity
  changesets site := (second.changesets site).trans (first.changesets site)
  marks marked := second.marks (first.marks marked)

/-- **The variables of a component go on**, and its variant may be another one. -/
theorem drifts_during (there : world.mounted.get? component.id = some (some component))
    {state : ActionState}
    (continues : Variables.Continues (world.variablesOf component, store) (state.reached, stored)) :
    world.Drifts store (world.during component state) stored where
  stands := stands_put there rfl
  identity := rfl
  changesets site := by
    unfold during
    rw [container?_update]
    split
    · next shared =>
      rw [shared]
      exact congrArg some continues.shared
    · split
      · next own =>
        rw [own, container?_of_mounted there]
        exact congrArg some continues.own
      · rfl
  marks := fun marked => continues.remembers marked

end World

namespace Cycle

variable {world : World} {component : Instance} {store : Store}

theorem drifts_runCode (there : world.mounted.get? component.id = some (some component))
    (name : String) (code : ActionCode) (store : Store) : world.Drifts store
      (runCode world component name code store).2.1 (runCode world component name code store).2.2 :=
  World.drifts_during there (ActionQuestion.continues_run (code component.owner)
    ⟨world.variablesOf component, component.variant⟩ store)

theorem drifts_assign (there : world.mounted.get? component.id = some (some component))
    (name : String) (value : Json) (store : Store) : world.Drifts store
      (assign world component name value store).2.1 (assign world component name value store).2.2 := by
  unfold assign
  split
  · exact .refl world store
  · have made : store.Remembers (Value.ofJson store value).2 :=
      .of_changesets (store.reads_ofJson value).changesets
    have written := Variables.continues_write component.definition (world.variablesOf component)
      (Value.ofJson store value).2 name (Value.ofJson store value).1
    exact @World.drifts_during world component store _ there ⟨_, component.variant⟩
      (.trans (.still made) written)

/-- What a message asks is done behind the faces of the components, and marks only come. -/
theorem drifts_execute (filed : world.Filed) (message : SubMessage) (store : Store) :
    world.Drifts store (execute world message store).2.1 (execute world message store).2.2 := by
  unfold execute
  split
  · exact .refl world store
  · next component known =>
    have there := World.instance?_eq_ok_iff.mp known
    rw [← filed there] at there
    split
    · split
      · exact .refl world store
      · exact drifts_runCode there ..
    · exact drifts_assign there ..

theorem drifts_executeExternal (filed : world.Filed) (id : String) (code : ActionCode)
    (store : Store) : world.Drifts store (executeExternal world id code store).2.1
      (executeExternal world id code store).2.2 := by
  unfold executeExternal
  split
  · exact .refl world store
  · next component known =>
    have there := World.instance?_eq_ok_iff.mp known
    rw [← filed there] at there
    exact drifts_runCode there ..

end Cycle

/-! ### What a request writes to -/

/-- The operations that some code of a component carries out, each with the store that it finds. -/
def World.operations (world : World) (component : Instance) (code : ActionCode) (store : Store) :
    List (Operation × Store) :=
  (code component.owner).operations
    (ActionQuestion.answer component.definition component.owner world.identity) (world.begin component)
    store

/-- The operations of the code that a message runs. -/
def SubMessage.operations (world : World) (store : Store) : SubMessage → List (Operation × Store)
  | .assign .. => []
  | .action id name params =>
    match world.instance? id with
    | .error _ => []
    | .ok component =>
      match component.definition.action? name with
      | some chosen => world.operations component (chosen.code params) store
      | none => []

/-- The operations of the code that messages run, one after the other, up to the first failure. -/
def Cycle.operationsAll (world : World) (store : Store) : List SubMessage → List (Operation × Store)
  | [] => []
  | message :: rest =>
    message.operations world store ++
      match execute world message store with
      | (.ok _, world, store) => operationsAll world store rest
      | (.error _, _, _) => []

/-- **The operations that the code of a request carries out**, each with the store that it finds. -/
def Request.operations (world : World) (store : Store) : Request → List (Operation × Store)
  | .messages asked => Cycle.operationsAll world store asked
  | .mounted _ => []
  | .external id code =>
    match world.instance? id with
    | .ok component => world.operations component code store
    | .error _ => []

namespace World

variable {world after : World} {component : Instance} {store stored found : Store}
  {operation : Operation}

/-- What an operation of some code marks is marked when the code has run. -/
theorem remembers_runCode (name : String) {code : ActionCode}
    (carried : (operation, found) ∈ world.operations component code store) :
    (operation.run found).2.Remembers (Cycle.runCode world component name code store).2.2 :=
  Program.remembers_operations
    (fun question state store => (ActionQuestion.continues_answer question state store).remembers) carried

/-- **What a message marks on its way** is marked when it was executed. -/
theorem remembers_execute {message : SubMessage}
    (carried : (operation, found) ∈ message.operations world store) :
    (operation.run found).2.Remembers (Cycle.execute world message store).2.2 := by
  cases message with
  | assign => cases carried
  | action id name params =>
    unfold SubMessage.operations at carried
    unfold Cycle.execute SubMessage.component
    dsimp only at carried ⊢
    cases known : world.instance? id with
    | error error =>
      rw [known] at carried
      cases carried
    | ok component =>
      rw [known] at carried
      dsimp only at carried ⊢
      cases chosen : component.definition.action? name with
      | none =>
        rw [chosen] at carried
        cases carried
      | some action =>
        rw [chosen] at carried
        exact remembers_runCode name carried

/-- What code from outside marks on its way is marked when it has run. -/
theorem remembers_executeExternal {id : String} {code : ActionCode}
    (carried : (operation, found) ∈ (Request.external id code).operations world store) :
    (operation.run found).2.Remembers (Cycle.executeExternal world id code store).2.2 := by
  simp only [Request.operations] at carried
  unfold Cycle.executeExternal
  cases known : world.instance? id with
  | error error =>
    rw [known] at carried
    cases carried
  | ok component =>
    rw [known] at carried
    exact remembers_runCode externalAction carried

/-- **Messages that are executed with success leave marked what they have marked on their way.** -/
theorem Executes.marks {messages : List SubMessage} (filed : world.Filed)
    (executes : world.Executes store messages after stored) : world.Drifts store after stored ∧
      ∀ operation found, (operation, found) ∈ Cycle.operationsAll world store messages →
        (operation.run found).2.Remembers stored := by
  induction executes with
  | nil => exact ⟨.refl _ _, fun _ _ carried => by cases carried⟩
  | @cons world middle after store reached final message rest done others ih =>
    have first := Cycle.drifts_execute filed message store
    rw [done] at first
    obtain ⟨drifts, later⟩ := ih (first.stands.filed filed)
    refine ⟨first.trans drifts, fun operation found carried => ?_⟩
    unfold Cycle.operationsAll at carried
    rw [done] at carried
    rcases List.mem_append.mp carried with here | there
    · have marked := remembers_execute here
      rw [done] at marked
      exact marked.trans fun _ _ => drifts.marks
    · exact later operation found there

end World

namespace Cycle

variable {world : World} {store : Store} {request : Request}

/-- If a cycle ends without a failure, there was none before its turns. -/
theorem fine_of_renderAll {cycle : Cycle} {inlined : List String} {affected : List (String × Dirty)}
    (fine : (cycle.renderAll inlined affected).failure = none) : cycle.failure = none := by
  cases failed : cycle.failure with
  | none => rfl
  | some error =>
    rw [failure_renderAll failed] at fine
    cases fine

/-- **What the operations of a request mark is marked when all was done that it asks**, if the cycle ends
without a failure: code is run behind the faces of the components, and none of them has failed. -/
theorem exists_marks_perform (filed : world.Filed) (fine : (run world request store).failure = none)
    (asked : ∀ id, request ≠ .mounted id) : ∃ after stored,
      (start world store).perform request = ⟨after, stored, none, []⟩ ∧
      world.Drifts (world.resetChanges store) after stored ∧
      ∀ operation found, (operation, found) ∈ request.operations world (world.resetChanges store) →
        (operation.run found).2.Remembers stored := by
  have sound : ((start world store).perform request).failure = none := fine_of_renderAll fine
  cases request with
  | mounted id => exact absurd rfl (asked id)
  | messages messages =>
    rcases world.executes_or_fault (world.resetChanges store) messages with
      ⟨after, stored, executes⟩ | ⟨earlier, message, later, after, stored, error, rfl, executes, fault⟩
    · have all := @executeAll_append (start world store) _ _ _ rfl executes []
      rw [List.append_nil] at all
      exact ⟨after, stored, all, executes.marks filed⟩
    · have fails := @executeAll_of_fault (start world store) _ _ _ _ _ rfl executes fault later
      change ((start world store).executeAll _).failure = none at sound
      rw [fails, failure_fail] at sound
      cases sound
  | external id code =>
    have drifts := drifts_executeExternal filed id code (world.resetChanges store)
    have marks (operation : Operation) (found : Store) (carried : (operation, found) ∈
        (Request.external id code).operations world (world.resetChanges store)) :=
      World.remembers_executeExternal carried
    change ((start world store).after id
      (executeExternal world id code (world.resetChanges store))).failure = none at sound
    change ∃ after stored, (start world store).after id
      (executeExternal world id code (world.resetChanges store)) = _ ∧ _
    rcases done : executeExternal world id code (world.resetChanges store) with
      ⟨error | value, after, stored⟩ <;> rw [done] at drifts marks sound
    · change (fail ⟨after, stored, none, []⟩ id error).failure = none at sound
      rw [failure_fail] at sound
      cases sound
    · exact ⟨after, stored, rfl, drifts, marks⟩

end Cycle

/-! ### Turns -/

/-- A component that was there and is there no longer was destroyed. -/
theorem Follows.mem_of_gone {ids after : List String} {history : List Envelope} {id : String}
    (follows : Follows ids history after) (there : id ∈ ids) (gone : id ∉ after) :
    .news .destroyed id ∈ history := by
  induction follows with
  | refl ids => exact absurd there gone
  | came _ _ ih => exact List.mem_cons_of_mem _ (ih (List.mem_append_left _ there) gone)
  | @went ids _ _ other _ _ ih =>
    by_cases same : id = other
    · exact same ▸ List.mem_cons_self
    · exact List.mem_cons_of_mem _ (ih (List.mem_filter.mpr ⟨there, by simpa using same⟩) gone)
  | other _ _ ih => exact List.mem_cons_of_mem _ (ih there gone)

/-- **A component stands in its place**, unless the client is told that it was destroyed. -/
def World.Stood (world : World) (id : String) : Prop :=
  (∃ component, world.mounted.get? id = some (some component)) ∨
    .news .destroyed id ∈ world.outgoing

/-- On its way a world loses no component in silence. -/
theorem World.Goes.stood {world after : World} {events : List Event} {id : String}
    (goes : Goes Lingers world events after) (stood : world.Stood id) : after.Stood id := by
  obtain ⟨news, sent, follows⟩ := goes.follows
  rcases stood with ⟨component, there⟩ | told
  · by_cases gone : id ∈ after.ids
    · rw [mem_ids_iff, contains_eq, Option.isSome_iff_exists] at gone
      obtain ⟨_ | stands, found⟩ := gone
      · cases there.symm.trans ((goes.mono alike_of_lingers).empty found).1
      · exact Or.inl ⟨stands, found⟩
    · have held : id ∈ world.ids := mem_ids_iff.mpr (contains_iff.mpr ⟨_, there⟩)
      exact Or.inr (sent ▸ List.mem_append_right _ (follows.mem_of_gone held gone))
  · exact Or.inr (sent ▸ List.mem_append_left _ told)

/-- **A turn renders a component for a name**: each part of the template that depends on the name brings new
markup, and the markup is sent. -/
structure Turn.Renews (turn : Turn) (id name : String) (sent : List Envelope) : Prop where
  component : turn.component.id = id
  changed : turn.dirty.contains name = true
  brings : ∃ rendered, turn.rendering.result = .ok rendered ∧
    ∀ (template : Template) (position : Nat) (part : DynamicPart),
    turn.component.definition.template turn.component.variant = .ok template →
    template.parts[position]? = some (.dynamic part) → name ∈ part.dependencies →
    (∃ html, rendered.markup[position]? = some (some html)) ∧
      ⟨id, .render rendered.markup⟩ ∈ sent

/-- What is sent stays sent. -/
theorem Turn.Renews.mono {turn : Turn} {id name : String} {sent more : List Envelope}
    (renews : turn.Renews id name sent) (kept : sent ⊆ more) : turn.Renews id name more where
  component := renews.component
  changed := renews.changed
  brings := by
    obtain ⟨rendered, ok, brings⟩ := renews.brings
    refine ⟨rendered, ok, fun template position part known there member => ?_⟩
    obtain ⟨html, told⟩ := brings template position part known there member
    exact ⟨html, kept told⟩

/-- **It is noticed that a variable of a component has changed**, in some turns of which something is sent. -/
inductive Noticed (turns : List Turn) (sent : List Envelope) (id name : String) : Prop
  /-- The component has a turn. -/
  | itself {turn : Turn} (taken : turn ∈ turns) (renews : turn.Renews id name sent)
  /-- All of it is rendered inside of another component, as a part of the markup of this one. -/
  | inside {turn : Turn} {rendered : Rendered} (taken : turn ∈ turns)
    (ok : turn.rendering.result = .ok rendered) (inlined : id ∈ rendered.renderedChildren)
    (told : ⟨turn.component.id, .render rendered.markup⟩ ∈ sent)
  | destroyed (told : .news .destroyed id ∈ sent)

namespace Noticed

variable {turns more : List Turn} {sent : List Envelope} {id name : String}

theorem mono (noticed : Noticed turns sent id name) (wider : turns ⊆ more) :
    Noticed more sent id name := by
  cases noticed with
  | itself taken renews => exact .itself (wider taken) renews
  | inside taken ok inlined told => exact .inside (wider taken) ok inlined told
  | destroyed told => exact .destroyed told

end Noticed

namespace Turn

variable {turn : Turn} {rendered : Rendered}

/-- A part that depends on a name brings new markup in a turn for that name. -/
theorem exists_markup_of_mem (ok : turn.rendering.result = .ok rendered) {name : String}
    (changed : turn.dirty.contains name = true) {template : Template} {position : Nat}
    {part : DynamicPart}
    (known : turn.component.definition.template turn.component.variant = .ok template)
    (there : template.parts[position]? = some (.dynamic part)) (member : name ∈ part.dependencies) :
    ∃ html, rendered.markup[position]? = some (some html) := by
  obtain ⟨_, other, _, _, same, ran⟩ := Rendering.exists_render_of_ok ok
  cases known.symm.trans same
  obtain ⟨html, brought, _⟩ := Render.markup_of_affected (congrArg Prod.fst ran) there
    (Render.isAffected_of_mem member changed _ _)
  exact ⟨html, brought⟩

end Turn

namespace Cycle

variable {cycle : Cycle} {id : String} {dirty : Dirty}

/-- What is sent in a cycle stays sent. -/
theorem outgoing_subset_renderAll (filed : cycle.world.Filed) (inlined : List String)
    (affected : List (String × Dirty)) :
    cycle.world.outgoing ⊆ (cycle.renderAll inlined affected).world.outgoing := by
  obtain ⟨news, sent, _⟩ := (goes_renderAll filed inlined affected).follows
  exact sent ▸ List.subset_append_left _ _

/-- A turn that fails is a failure of the cycle. -/
theorem isOk_of_fine {turn : Turn} (inlined : List String)
    (fine : (turn.cycle.renderOne inlined turn.component turn.dirty).1.failure = none) :
    ∃ rendered, turn.rendering.result = .ok rendered := by
  obtain ⟨store, same⟩ := exists_renderOne_eq turn inlined
  rw [same] at fine
  cases result : turn.rendering.result with
  | ok rendered => exact ⟨rendered, rfl⟩
  | error error =>
    rw [result, failure_fail, Option.or_eq_none_iff] at fine
    cases fine.2

/-- **What a turn sends that succeeds.** -/
theorem mem_outgoing_of_ok {turn : Turn} (inlined : List String) {rendered : Rendered}
    (ok : turn.rendering.result = .ok rendered) (filled : rendered.isEmpty = false) :
    ⟨turn.component.id, .render rendered.markup⟩ ∈
      (turn.cycle.renderOne inlined turn.component turn.dirty).1.world.outgoing := by
  have ends := turn.world_renderOne inlined
  rw [ok] at ends
  rw [ends.2, filled, if_neg Bool.false_ne_true]
  exact List.mem_append_right _ (List.mem_singleton_self _)

/-- **A turn for a component renders it** for the names that have changed. -/
theorem renews_of_ok {turn : Turn} (inlined : List String) {rendered : Rendered}
    (ok : turn.rendering.result = .ok rendered) {name : String}
    (changed : turn.dirty.contains name = true) : turn.Renews turn.component.id name
      (turn.cycle.renderOne inlined turn.component turn.dirty).1.world.outgoing where
  component := rfl
  changed := changed
  brings := ⟨rendered, ok, fun template position part known there member => by
    obtain ⟨html, brought⟩ := turn.exists_markup_of_mem ok changed known there member
    refine ⟨⟨html, brought⟩, mem_outgoing_of_ok inlined ok ?_⟩
    -- there is new markup, so something is sent
    rw [← Bool.not_eq_true]
    intro empty
    rw [Rendered.markup, List.getElem?_map] at brought
    obtain ⟨slot, found, same⟩ := Option.map_eq_some_iff.mp brought
    have bare := List.all_eq_true.mp empty slot (List.mem_of_getElem? found)
    rw [same] at bare
    cases bare⟩

/-- What is rendered inside of a component is sent with it. -/
theorem told_of_inlined {turn : Turn} (inlined : List String) {rendered : Rendered}
    (ok : turn.rendering.result = .ok rendered) (member : id ∈ rendered.renderedChildren) :
    ⟨turn.component.id, .render rendered.markup⟩ ∈
      (turn.cycle.renderOne inlined turn.component turn.dirty).1.world.outgoing := by
  refine mem_outgoing_of_ok inlined ok ?_
  rw [← Bool.not_eq_true]
  intro empty
  obtain ⟨_, _, _, _, _, ran⟩ := Rendering.exists_render_of_ok ok
  rw [Render.renderedChildren_of_isEmpty ran empty] at member
  cases member

/--
**A component that is to be rendered for a name has its turn**, unless it is rendered inside of another one
before, or destroyed: if the cycle ends without a failure, it is noticed that the name has changed.
-/
theorem notices_renderAll {inlined : List String} {affected : List (String × Dirty)}
    (filed : cycle.world.Filed) (fine : (cycle.renderAll inlined affected).failure = none)
    (stood : cycle.world.Stood id) (owed : (id, dirty) ∈ affected) {name : String}
    (changed : dirty.contains name = true) : id ∈ inlined ∨
      Noticed (cycle.turns inlined affected) (cycle.renderAll inlined affected).world.outgoing id
        name := by
  induction affected generalizing cycle inlined with
  | nil => cases owed
  | cons first rest ih =>
    obtain ⟨other, names⟩ := first
    unfold renderAll at fine ⊢
    unfold turns
    by_cases carried : inlined.contains other = true
    · rw [if_pos carried] at fine
      rw [if_pos carried, if_pos carried]
      rcases List.mem_cons.mp owed with same | later
      · cases same
        exact Or.inl (by simpa using carried)
      · exact ih filed fine stood later
    · rw [if_neg carried] at fine
      rw [if_neg carried, if_neg carried]
      cases found : cycle.world.instance? other with
      | error error =>
        rw [found] at fine
        dsimp only at fine ⊢
        rcases List.mem_cons.mp owed with same | later
        · cases same
          rcases stood with ⟨component, there⟩ | told
          · rw [World.instance?_eq_ok_iff.mpr there] at found
            cases found
          · exact Or.inr (.destroyed (outgoing_subset_renderAll filed inlined rest told))
        · exact ih filed fine stood later
      | ok component =>
        rw [found] at fine
        dsimp only at fine ⊢
        have goes := goes_renderOne filed inlined found names
        have named : component.id = other := filed (World.instance?_eq_ok_iff.mp found)
        have next : (cycle.renderOne inlined component names).1.world.Filed :=
          (goes.mono World.alike_of_lingers).filed filed
        have ends := (Turn.mk cycle component names).world_renderOne inlined
        obtain ⟨rendered, ok⟩ := @isOk_of_fine ⟨cycle, component, names⟩ inlined (fine_of_renderAll fine)
        have kept := outgoing_subset_renderAll next
          (cycle.renderOne inlined component names).2 rest
        rw [ok] at ends
        rcases List.mem_cons.mp owed with same | later
        · cases same
          have renews := @renews_of_ok ⟨cycle, component, dirty⟩ inlined _ ok name changed
          exact Or.inr (.itself List.mem_cons_self (named ▸ renews.mono kept))
        · rcases ih next fine (goes.stood stood) later with within | noticed
          · rw [ends.1] at within
            rcases List.mem_append.mp within with before | here
            · exact Or.inl before
            · exact Or.inr (.inside List.mem_cons_self ok here
                (kept (@told_of_inlined id ⟨cycle, component, names⟩ inlined _ ok here)))
          · exact Or.inr (noticed.mono fun _ => List.mem_cons_of_mem _)

end Cycle

/-! ### What is written to a variable -/

instance Store.decidableWatches {store : Store} {changeset : ChangesetId} {name : String} {ref : Ref} :
    Decidable (store.Watches changeset name ref) :=
  decidable_of_iff (store.isThere changeset = true ∧ ∃ binding ∈ store.bindings ref,
    binding.name = name ∧ store.observers[binding.observer]? = some (some changeset))
    (and_congr_right fun _ => ⟨fun ⟨binding, member, same, marks⟩ =>
      ⟨binding.observer, same ▸ member, marks⟩, fun ⟨_, member, marks⟩ => ⟨_, member, rfl, marks⟩⟩)

/-- **A node is bound to a variable**: a write to the node marks the variable. -/
def World.Binds (world : World) (store : Store) (site : Site) (name : String) (node : Ref) : Prop :=
  ∃ container, world.container? site = some container ∧ store.Watches container.changeset name node

/-- A variable stays marked to which a node is bound that some code has written to. -/
theorem World.Drifts.marks_of_binds {world after : World} {store stored found : Store} {site : Site}
    {name : String} {node : Ref} {operation : Operation} (drifts : world.Drifts store after stored)
    (binds : world.Binds found site name node) (writes : operation.target? found = some node)
    (remembers : (operation.run found).2.Remembers stored) : after.Marks stored site name := by
  obtain ⟨container, placed, watches⟩ := binds
  obtain ⟨next, becomes, same⟩ := drifts.container? placed
  obtain ⟨content, written⟩ := Operation.exists_mutate_of_target writes
  refine ⟨next, becomes, ?_⟩
  rw [Container.changes, same]
  refine remembers ?_
  rw [written]
  exact Store.mem_marked_mutate_iff.mpr (Or.inr watches)

namespace Cycle

/-- A component that is pending is to be rendered, if no component has failed. -/
theorem mem_affected_of_pending {cycle : Cycle} {id name : String} (sound : cycle.failed = [])
    (pending : cycle.world.Pending cycle.store id name) : ∃ dirty : Dirty,
      (id, dirty) ∈ cycle.affected none ∧ dirty.contains name = true := by
  obtain ⟨component, there, member⟩ := pending
  refine ⟨.names _, (mem_affected_iff there).mpr ?_, NameSet.contains_iff.mpr member⟩
  have filled : (component.dirty (cycle.world.shared.changes cycle.store) cycle.store).isEmpty =
      false := by
    rw [← Bool.not_eq_true]
    intro empty
    have none : (component.dirty (cycle.world.shared.changes cycle.store) cycle.store).names = [] :=
      List.isEmpty_iff.mp empty
    exact List.ne_nil_of_mem (show name ∈ NameSet.names _ from member) none
  simp [dirtyOf, sound, filled]

/-- **What code writes in a cycle is noticed** by every component that has the variable. -/
theorem notices_run {world : World} {request : Request} {store found : Store}
    {operation : Operation} {node : Ref} {id name : String} {component : Instance}
    (filed : world.Filed) (fine : (run world request store).failure = none)
    (carried : (operation, found) ∈ request.operations world (world.resetChanges store))
    (writes : operation.target? found = some node)
    (there : world.mounted.get? id = some (some component))
    (declared : component.definition.declares name = true)
    (binds : world.Binds found (component.definition.site id name) name node) :
    Noticed (turnsOf world request store) (run world request store).world.outgoing id name := by
  have asked (newcomer : String) : request ≠ .mounted newcomer := fun same => by
    subst same
    cases carried
  have nobody : newcomer? request = none := by
    cases request with
    | mounted newcomer => exact absurd rfl (asked newcomer)
    | _ => rfl
  obtain ⟨after, stored, performed, drifts, remembers⟩ := exists_marks_perform filed fine asked
  obtain ⟨next, placed, face⟩ := drifts.stands.symm.exists_of_get? there
  have definition := (Instance.parts_of_face face).2.1
  have marks := drifts.marks_of_binds binds writes (remembers operation found carried)
  rw [← definition] at declared marks
  have pending := World.pending_of_marks placed declared marks
  unfold run at fine ⊢
  unfold turnsOf
  dsimp only at fine ⊢
  rw [performed, nobody] at fine ⊢
  obtain ⟨dirty, owed, changed⟩ := @mem_affected_of_pending ⟨after, stored, none, []⟩ id name rfl pending
  rcases notices_renderAll (drifts.stands.filed filed) fine (Or.inl ⟨next, placed⟩) owed changed with
    none | noticed
  · cases none
  · exact noticed

end Cycle

/-- Whether some part of what a component is rendered to depends on a name. -/
def Instance.dependsOn (component : Instance) (name : String) : Bool :=
  match component.definition.template component.variant with
  | .ok template => template.parts.any fun part =>
    match part with
    | .dynamic part => decide (name ∈ part.dependencies)
    | .fixed _ => false
  | .error _ => false

namespace Session

variable {session : Session} {entry : Entry} {world : World} {request : Request} {store : Store}

/-- **The operations that code carries out in the cycle of an entry**, each with the store that it finds. -/
def operations (session : Session) (entry : Entry) : List (Operation × Store) :=
  match session.cycle? entry with
  | some (world, request, store) => request.operations world (world.resetChanges store)
  | none => []

/--
**What is changed in a cycle is rendered, what is changed before it is not.** A batch or an update does what it
would do if all marks were forgotten before, although what values hold stays; but when its code writes to a
node that is bound to a variable, and it succeeds, every component that has the variable notices it.
-/
theorem noticed (config : Config) (earlier : List Entry) {entry : Entry}
    (cycles : (reached config earlier).cycle? entry ≠ none)
    (here : ∀ id definition, entry ≠ .mount id definition) :
    let session := reached config earlier
    (session.forget.enter entry = session.enter entry ∧
      session.store.Retains session.forget.store ∧
      ∀ site name, ¬ session.world.Marks session.forget.store site name) ∧
    ((session.enter entry).result = .ok () → ∀ operation found node,
      (operation, found) ∈ session.operations entry → operation.target? found = some node →
      ∀ id component name, session.world.mounted.get? id = some (some component) →
        component.definition.declares name = true →
        session.world.Binds found (component.definition.site id name) name node →
        Noticed (session.turns entry) (session.enter entry).sent id name) := by
  intro session
  obtain ⟨⟨world, request, store⟩, runs⟩ := Option.ne_none_iff_exists'.mp cycles
  obtain ⟨rfl, rfl⟩ := here_of_runs runs here
  refine ⟨⟨enter_forget runs here, session.world.retains_resetChanges _, ?_⟩, ?_⟩
  · rintro site name ⟨container, found, marked⟩
    exact World.not_mem_changes_resetChanges found name marked
  · intro ok operation found node carried writes id component name there declared binds
    have fine : (Cycle.run session.world request session.store).failure = none := by
      rw [enter_of_runs runs] at ok
      change resultOf _ = _ at ok
      unfold resultOf at ok
      split at ok
      · cases ok
      · assumption
    rw [operations, runs] at carried
    rw [turns, runs, enter_of_runs runs]
    exact Cycle.notices_run (covered_reached config earlier).1 fine carried writes there declared binds

theorem eq_ok_of_isOk {result : Except Error Unit} (ok : result.isOk = true) : result = .ok () := by
  cases result with
  | ok => rfl
  | error => cases ok

/-- Whether code writes in the cycle of an entry to a node that is bound to a variable. -/
def isWritten (session : Session) (entry : Entry) (id name : String) : Bool :=
  (session.world.mounted.get? id).join.any fun component =>
    component.definition.declares name && (session.operations entry).any fun written =>
      (written.1.target? written.2).any fun node =>
        (session.world.container? (component.definition.site id name)).any fun container =>
          decide (written.2.Watches container.changeset name node)

theorem exists_of_isWritten {id name : String} (written : session.isWritten entry id name = true) :
    ∃ operation found node component, (operation, found) ∈ session.operations entry ∧
      operation.target? found = some node ∧
      session.world.mounted.get? id = some (some component) ∧
      component.definition.declares name = true ∧
      session.world.Binds found (component.definition.site id name) name node := by
  unfold isWritten at written
  simp only [Option.any_eq_true, List.any_eq_true, Bool.and_eq_true, decide_eq_true_eq] at written
  obtain ⟨component, there, declared, ⟨operation, found⟩, carried, node, writes, container, placed,
    watches⟩ := written
  exact ⟨operation, found, node, component, carried, writes, Option.join_eq_some_iff.mp there, declared,
    container, placed, watches⟩

/-- An item is added to the list in a basket. -/
def growth : Entry := .external "b" ReactiveView.growing

/-- A basket that is given a list notices that the list gets an item. -/
theorem noticed_of_growing : ∃ basket : ComponentDef,
    let session := reached Config.default [.external "b" renewing, .mount "b" basket]
    session.cycle? growth ≠ none ∧ (session.enter growth).result = .ok () ∧
      session.isWritten growth "b" "items" = true ∧
      Noticed (session.turns growth) (session.enter growth).sent "b" "items" := by
  have checked : ComponentDef.isBuiltTo
      (Draft.basket "<% for i in items %><li><%= i %></li><% end %>").build (fun basket =>
        let session := reached Config.default [.external "b" renewing, .mount "b" basket]
        (session.cycle? growth).isSome && (session.enter growth).result.isOk &&
        session.isWritten growth "b" "items") = true := by
    decide +kernel
  obtain ⟨basket, _, passes⟩ := ComponentDef.exists_of_isBuiltTo checked
  simp only [Bool.and_eq_true] at passes
  obtain ⟨⟨runs, ended⟩, written⟩ := passes
  have cycles := Option.isSome_iff_ne_none.mp runs
  have ok := eq_ok_of_isOk ended
  obtain ⟨operation, found, node, component, carried, writes, there, declared, binds⟩ :=
    exists_of_isWritten written
  exact ⟨basket, cycles, ok, written, (noticed Config.default _ cycles nofun).2 ok operation found
    node carried writes "b" component "items" there declared binds⟩

/-- **What is changed between two cycles is not noticed**: a list is read out of the variable that holds it and
gets an item outside of the session, and then a batch takes no turn for what shows the variable. -/
theorem not_noticed_of_pushed : ¬ ∀ (config : Config) (earlier : List Entry) (id name : String)
    (node : Ref) (operation : Operation) (entry : Entry) (component : Instance),
    ((reached config earlier).get id name).1.toOption.bind Value.ref? = some node →
    operation.target? (reached config (.get id name :: earlier)).store = some node →
    let session := reached config
      (.outside (fun store => (operation.run store).2) :: .get id name :: earlier)
    session.cycle? entry ≠ none → (∀ id definition, entry ≠ .mount id definition) →
    (session.enter entry).result = .ok () →
    session.world.mounted.get? id = some (some component) →
    component.definition.declares name = true → component.dependsOn name = true →
    Noticed (session.turns entry) (session.enter entry).sent id name := by
  intro claimed
  have checked : ComponentDef.isBuiltTo
      (Draft.basket "<% for i in items %><li><%= i %></li><% end %>").build (fun basket =>
        let earlier := [.external "b" renewing, .mount "b" basket]
        (((reached Config.default earlier).get "b" "items").1.toOption.bind Value.ref?).any fun items =>
          let session := reached Config.default
            (.outside (fun store => ((Operation.listPush items (.int 1)).run store).2) ::
              .get "b" "items" :: earlier)
          (session.cycle? (.handle [])).isSome && (session.enter (.handle [])).result.isOk &&
          (session.turns (.handle [])).isEmpty && (session.enter (.handle [])).sent.isEmpty &&
          (session.world.mounted.get? "b").join.any fun component =>
            component.definition.declares "items" && component.dependsOn "items") = true := by
    decide +kernel
  obtain ⟨basket, _, passes⟩ := ComponentDef.exists_of_isBuiltTo checked
  simp only [Option.any_eq_true, Bool.and_eq_true, List.isEmpty_iff] at passes
  obtain ⟨items, read, ⟨⟨⟨runs, ended⟩, turns⟩, sent⟩, component, there, declared, depends⟩ := passes
  have noticed := claimed Config.default _ "b" "items" items (.listPush items (.int 1)) (.handle [])
    component read rfl (Option.isSome_iff_ne_none.mp runs) (fun _ _ same => by cases same)
    (eq_ok_of_isOk ended) (Option.join_eq_some_iff.mp there) declared depends
  rw [turns, sent] at noticed
  cases noticed with
  | itself taken => cases taken
  | inside taken => cases taken
  | destroyed told => cases told

end Session

end ReactiveView
