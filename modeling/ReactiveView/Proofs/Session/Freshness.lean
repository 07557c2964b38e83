/-
**What the client has is true after every cycle.**

Where all pictures are true, a cycle first runs code, which is careful; then only what is pending may be
untrue. Errors that it shows take the pictures of their components away. What is pending is rendered, and
all pictures are true again.

* `SubMessage.Careful`, `Cycle.CarefulAll`, `Request.Careful` — all code that a request runs is careful.
* `Cycle.Working` — what holds while a cycle executes what it is asked.
* `World.Settled.run` — what is settled before a cycle is settled after it.
-/

import ReactiveView.Proofs.Session.Careful
import ReactiveView.Proofs.Session.Settled

namespace ReactiveView

/-! ### Values made from JSON -/

section

variable {store : Store}

/-- A list whose items do not contain themselves does not, either. -/
theorem Value.finite_newList {items : List Value} (parts : ∀ value ∈ items, value.Finite store) :
    (store.newList items).1.Finite (store.newList items).2 := by
  intro ref handle
  cases handle
  exact Store.finite_newNode _ parts

theorem Value.finite_newMap {entries : OrderedMap String Value}
    (parts : ∀ value ∈ entries.values, value.Finite store) :
    (store.newMap entries).1.Finite (store.newMap entries).2 := by
  intro ref handle
  cases handle
  exact Store.finite_newNode _ parts

/-- Values of a map that was made of a list are among those of the list. -/
theorem OrderedMap.mem_of_mem_values_ofList {entries : List (String × Value)} {value : Value}
    (member : value ∈ (OrderedMap.ofList entries).values) : value ∈ entries.map Prod.snd := by
  obtain ⟨name, found⟩ := (OrderedMap.mem_values_iff _ value).mp member
  exact List.mem_map.mpr ⟨(name, value), OrderedMap.mem_of_get?_ofList found, rfl⟩

end

namespace Value

mutual

/-- **A value made from JSON does not contain itself.** -/
theorem finite_ofJson (store : Store) : ∀ json : Json,
    (ofJson store json).1.Finite (ofJson store json).2
  | .null | .bool _ | .float _ | .string _ => nofun
  | .int number => by
    intro ref handle
    simp only [ofJson, ofWhole] at handle
    split at handle <;> cases handle
  | .array items => finite_newList (finite_ofJsonItems store items)
  | .object members => finite_newMap fun value member =>
    finite_ofJsonMembers store members value (OrderedMap.mem_of_mem_values_ofList member)

theorem finite_ofJsonItems (store : Store) : ∀ items : List Json,
    ∀ value ∈ (ofJsonItems store items).1, value.Finite (ofJsonItems store items).2
  | [] => fun _ member => nomatch member
  | item :: rest => fun value member => by
    rcases List.mem_cons.mp member with rfl | later
    · exact (finite_ofJson store item).extend (Store.reads_ofJsonItems _ rest).toGrows.extends
    · exact finite_ofJsonItems _ rest value later

theorem finite_ofJsonMembers (store : Store) : ∀ members : List (String × Json),
    ∀ value ∈ (ofJsonMembers store members).1.map Prod.snd,
      value.Finite (ofJsonMembers store members).2
  | [] => fun _ member => nomatch member
  | (_, item) :: rest => fun value member => by
    rcases List.mem_cons.mp member with rfl | later
    · exact (finite_ofJson store item).extend (Store.reads_ofJsonMembers _ rest).toGrows.extends
    · exact finite_ofJsonMembers _ rest value later

end

end Value

/-! ### What a request runs -/

/-- Some code of a component is careful, where it is to run. -/
def World.Careful (rule : WriteRule) (world : World) (component : Instance) (code : ActionCode)
    (store : Store) : Prop :=
  (code component.owner).Careful rule world component .nothing (world.begin component) store

/-- The code that a message runs is careful. -/
def SubMessage.Careful (rule : WriteRule) (world : World) (store : Store) : SubMessage → Prop
  | .action id name params => ∀ component action,
    world.mounted.get? id = some (some component) → component.definition.action? name = some action →
      world.Careful rule component (action.code params) store
  | .assign .. => True

/-- The code that messages run is careful, one after the other, up to the first failure. -/
def Cycle.CarefulAll (rule : WriteRule) (cycle : Cycle) : List SubMessage → Prop
  | [] => True
  | message :: rest => message.Careful rule cycle.world cycle.store ∧
    let next := cycle.after message.component (execute cycle.world message cycle.store)
    (next.failure = none → next.CarefulAll rule rest)

/-- **All code that a request runs is careful.** -/
def Request.Careful (rule : WriteRule) (cycle : Cycle) : Request → Prop
  | .messages asked => cycle.CarefulAll rule asked
  | .external id code => ∀ component, cycle.world.mounted.get? id = some (some component) →
    cycle.world.Careful rule component code cycle.store
  | .mounted _ => True

namespace World

variable {world : World} {component : Instance} {store : Store} {read : ReadOut}

/-- A component that has changed nothing yet. -/
theorem Fresh.enter (fresh : world.Fresh store read)
    (there : world.mounted.get? component.id = some (some component)) :
    (world.update component (world.variablesOf component)).Fresh store read := by
  obtain ⟨ledger, books, pictured⟩ := fresh
  have drifts : world.Drifts store (world.update component (world.variablesOf component)) store :=
    ⟨stands_put there rfl, rfl, fun site => by rw [update_variablesOf_places there], id⟩
  exact ⟨ledger, books.enter there, (pictured.enter there).imp fun _ _ => drifts.pending⟩

theorem Fresh.forget (fresh : world.Fresh store read) : world.Fresh store .nothing := by
  obtain ⟨ledger, books, pictured⟩ := fresh
  exact ⟨ledger, books.forget, pictured⟩

theorem Fresh.steady (fresh : world.Fresh store read) {id : String}
    (there : world.mounted.get? id = some (some component)) : component.definition.Steady := by
  obtain ⟨_, _, pictured⟩ := fresh
  exact pictured.steady there

theorem Fresh.filed (fresh : world.Fresh store read) : world.Filed := by
  obtain ⟨_, _, pictured⟩ := fresh
  exact pictured.filed

/-- **Careful code runs.** -/
theorem Fresh.runCode (fresh : world.Fresh store .nothing)
    (there : world.mounted.get? component.id = some (some component)) (name : String)
    {code : ActionCode} (careful : world.Careful World.Permits component code store) :
    (Cycle.runCode world component name code store).2.1.Fresh
      (Cycle.runCode world component name code store).2.2 .nothing := by
  have entered : (world.during component (world.begin component)).Fresh store .nothing :=
    fresh.enter there
  have ran := Fresh.run (fresh.steady there) (code component.owner) entered careful
  have begins : world.begin component = ⟨world.variablesOf component, component.variant⟩ := rfl
  rw [begins] at ran
  unfold Cycle.runCode
  dsimp only
  rcases running : (code component.owner).run (ActionQuestion.answer component.definition
    component.owner world.identity) ⟨world.variablesOf component, component.variant⟩ store with
    ⟨result, state, stored⟩
  rw [running] at ran
  obtain ⟨_, fresh⟩ := ran
  exact fresh.forget

/-- **A variable is assigned from JSON.** -/
theorem Fresh.assigns (fresh : world.Fresh store .nothing)
    (there : world.mounted.get? component.id = some (some component)) (name : String) (json : Json) :
    (Cycle.assign world component name json store).2.1.Fresh
      (Cycle.assign world component name json store).2.2 .nothing := by
  unfold Cycle.assign
  split
  · exact fresh
  · next known =>
    have declared : component.definition.declares name = true := by simpa using known
    have reads := store.reads_ofJson json
    have made := (fresh.enter there).onStore (fun _ booked => booked.keeps_reads reads)
      reads.toGrows.extends fun member => by simpa only [Store.marked, reads.changesets] using member
    exact made.assign declared (Value.finite_ofJson store json)

end World

/-! ### Execution -/

namespace Cycle

variable {cycle : Cycle} {world : World} {store : Store} {id : String}

/-- The client is shown an error instead of a component: what is pending stays pending for others. -/
theorem pending_fail {other name : String} (filed : cycle.world.Filed) (error : Error)
    (ne : other ≠ id) (pending : cycle.world.Pending cycle.store other name) :
    (cycle.fail id error).world.Pending cycle.store other name := by
  obtain ⟨component, there, dirty⟩ := pending
  refine ⟨component, (get?_fail_of_ne filed ne error).trans there, ?_⟩
  have shared : (cycle.fail id error).world.shared = cycle.world.shared :=
    Option.some.inj (container?_fail cycle id error none filed)
  rwa [shared]

/-- **What holds while a cycle executes what it is asked**: what the client has is true except for what
is pending, and it counts as having nothing of the components that failed. -/
structure Working (cycle : Cycle) : Prop where
  fresh : cycle.world.Fresh cycle.store .nothing
  failed : ∀ {id component}, id ∈ cycle.failed →
    cycle.world.mounted.get? id = some (some component) → component.view.staticSent = false

/-- A failure is shown. -/
theorem Working.fail (working : cycle.Working) (id : String) (error : Error) :
    (cycle.fail id error).Working := by
  obtain ⟨ledger, books, pictured⟩ := working.fresh
  have filed : cycle.world.Filed := pictured.filed
  obtain ⟨className, same⟩ := exists_fail_eq cycle id error
  have stored : (cycle.fail id error).store = cycle.store := by rw [same]
  have failed : (cycle.fail id error).failed = id :: cycle.failed := by rw [same]
  have mounted : (cycle.fail id error).world.mounted = (invalidated cycle.world id).mounted := by
    rw [same]
    rfl
  constructor
  · rw [stored]
    exact ⟨ledger, books.of_places fun site => container?_fail cycle id error site filed,
      (pictured_fail pictured id error).imp fun _ _ excepted =>
        pending_fail filed error excepted.1 excepted.2⟩
  · intro other component member there
    rw [mounted] at there
    obtain ⟨old, found, ⟨_, rfl⟩ | ⟨ne, rfl⟩⟩ := exists_of_invalidated filed there
    · rfl
    · rw [failed] at member
      exact working.failed ((List.mem_cons.mp member).resolve_left ne) found

/-- Something was done for a component, behind the faces of all. -/
theorem Working.after (working : cycle.Working) (id : String)
    {done : Except Error Unit × World × Store} (stands : cycle.world.Stands done.2.1)
    (fresh : done.2.1.Fresh done.2.2 .nothing) : (cycle.after id done).Working := by
  obtain ⟨result, world, store⟩ := done
  have changed : ({ cycle with world, store } : Cycle).Working := by
    refine ⟨fresh, fun member there => ?_⟩
    obtain ⟨old, found, same⟩ := stands.exists_of_get? there
    rw [← (Instance.parts_of_face same).2.2]
    exact working.failed member found
  cases result with
  | ok value => exact changed
  | error error => exact changed.fail id error

theorem fresh_execute (fresh : world.Fresh store .nothing) (message : SubMessage)
    (careful : message.Careful World.Permits world store) :
    (execute world message store).2.1.Fresh (execute world message store).2.2 .nothing := by
  unfold execute
  cases known : world.instance? message.component with
  | error error => exact fresh
  | ok component =>
    have there := World.instance?_eq_ok_iff.mp known
    have named := fresh.filed there
    cases message with
    | action id name params =>
      dsimp only
      cases found : component.definition.action? name with
      | none => exact fresh
      | some action =>
        exact fresh.runCode (named.symm ▸ there) name (careful component action there found)
    | assign id name value => exact fresh.assigns (named.symm ▸ there) name value

theorem fresh_executeExternal (fresh : world.Fresh store .nothing) (id : String) {code : ActionCode}
    (careful : ∀ component, world.mounted.get? id = some (some component) →
      world.Careful World.Permits component code store) :
    (executeExternal world id code store).2.1.Fresh (executeExternal world id code store).2.2
      .nothing := by
  unfold executeExternal
  cases known : world.instance? id with
  | error error => exact fresh
  | ok component =>
    have there := World.instance?_eq_ok_iff.mp known
    exact fresh.runCode (fresh.filed there ▸ there) externalAction (careful component there)

theorem Working.executeAll (working : cycle.Working) {messages : List SubMessage}
    (careful : cycle.CarefulAll World.Permits messages) : (cycle.executeAll messages).Working := by
  induction messages generalizing cycle with
  | nil => exact working
  | cons message rest ih =>
    obtain ⟨here, later⟩ := careful
    have next := working.after message.component
      (stands_execute working.fresh.filed message cycle.store)
      (fresh_execute working.fresh message here)
    unfold Cycle.executeAll
    dsimp only at later ⊢
    split
    · exact next
    · next sound => exact ih next (later (by simpa using sound))

/-- **While a request is carried out**, all code is careful. -/
theorem Working.perform (working : cycle.Working) {request : Request}
    (careful : request.Careful World.Permits cycle) : (cycle.perform request).Working := by
  cases request with
  | messages messages => exact working.executeAll careful
  | external id code =>
    exact working.after id (stands_executeExternal working.fresh.filed id code cycle.store)
      (fresh_executeExternal working.fresh id careful)
  | mounted id => exact working

end Cycle

namespace World.Settled

variable {world : World} {store : Store} {request : Request}

/-- What a cycle has executed is to be rendered. -/
theorem renewing (settled : world.Settled store)
    (careful : request.Careful World.Permits (.start world store)) :
    let executed := (Cycle.start world store).perform request
    executed.Renewing (executed.affected (Cycle.newcomer? request)) :=
  have working : (Cycle.start world store).Working := ⟨settled.reset.fresh, nofun⟩
  have executed := working.perform careful
  Cycle.renewing_affected _ executed.fresh executed.failed

/-- **What is settled before a cycle is settled after it.** -/
theorem run (settled : world.Settled store)
    (careful : request.Careful World.Permits (.start world store)) :
    (Cycle.run world request store).world.Settled (Cycle.run world request store).store := by
  obtain ⟨⟨ledger, books⟩, pictured, _, _⟩ := (settled.renewing careful).renderAll
  have rendered : World.Settled _ _ := ⟨ledger, books, pictured.imp fun _ _ owed => by
    obtain ⟨_, member, _⟩ := owed
    cases member⟩
  exact rendered.reset

end World.Settled

end ReactiveView
