/-
**The stages of an entry.**

An entry does not lead to its end at once: its cycle forgets all marks, does what each message asks, and
takes its turns. What holds of a session is to hold at every stage of this, and not only at the end. A
property that every step of a cycle keeps, given what has happened until then, holds at every stage.

* `Stage` — how far a cycle has come, and what has happened until then.
* `Cycle.stages`, `Session.stages` — the stages of a cycle and of an entry.
* `Cycle.Keeps` — a property that every step of a cycle keeps.
* `Cycle.Keeps.stages` — it holds at every stage.
-/

import ReactiveView.Proofs.Session.History

namespace ReactiveView

/-- **How far a cycle has come**, and what has happened to components until then. -/
structure Stage where
  happened : List Event
  cycle : Cycle

namespace Cycle

/-- The stages at which messages have been executed, up to the first that fails. -/
def executions (happened : List Event) (cycle : Cycle) : List SubMessage → List Stage
  | [] => []
  | message :: rest =>
    let next := cycle.after message.component (execute cycle.world message cycle.store)
    ⟨happened, next⟩ :: if next.failure.isSome then [] else next.executions happened rest

/-- The stages at which something has been done that a request asks. -/
def performances (happened : List Event) (cycle : Cycle) : Request → List Stage
  | .messages messages => cycle.executions happened messages
  | request => [⟨happened, cycle.perform request⟩]

/-- The stages at which turns begin, and the one at which all turns are over. -/
def turnings (happened : List Event) (cycle : Cycle) (inlined : List String) :
    List (String × Dirty) → List Stage
  | [] => [⟨happened, cycle⟩]
  | (id, dirty) :: rest =>
    if inlined.contains id then cycle.turnings happened inlined rest
    else
      match cycle.world.instance? id with
      | .error _ => cycle.turnings happened inlined rest
      | .ok component =>
        let (next, inlined) := cycle.renderOne inlined component dirty
        ⟨happened, cycle⟩ ::
          next.turnings (happened ++ (Turn.mk cycle component dirty).events) inlined rest

/-- **The stages of a cycle**, which starts when something has happened. -/
def stages (happened : List Event) (world : World) (request : Request) (store : Store) :
    List Stage :=
  let started := start world store
  let executed := started.perform request
  ⟨happened, started⟩ :: (started.performances happened request ++
    executed.turnings happened [] (executed.affected (newcomer? request)) ++
    [⟨happened ++ (turnsOf world request store).flatMap Turn.events, run world request store⟩])

/-- **What every step of a cycle keeps**, given what has happened until then. -/
structure Keeps (motive : List Event → Cycle → Prop) : Prop where
  execute : ∀ {happened : List Event} {cycle : Cycle} (message : SubMessage), motive happened cycle →
    motive happened (cycle.after message.component (execute cycle.world message cycle.store))
  external : ∀ {happened : List Event} {cycle : Cycle} (id : String) (code : ActionCode),
    motive happened cycle →
    motive happened (cycle.after id (executeExternal cycle.world id code cycle.store))
  renderOne : ∀ {happened : List Event} {cycle : Cycle} (inlined : List String) {id : String}
    {component : Instance} (dirty : Dirty), cycle.world.instance? id = .ok component →
    motive happened cycle → motive (happened ++ (Turn.mk cycle component dirty).events)
      (cycle.renderOne inlined component dirty).1
  reset : ∀ {happened : List Event} {cycle : Cycle}, motive happened cycle →
    motive happened { cycle with store := cycle.world.resetChanges cycle.store }

namespace Keeps

variable {motive : List Event → Cycle → Prop} (keeps : Keeps motive) {happened : List Event}
  {cycle : Cycle}

include keeps

theorem executeAll (messages : List SubMessage) (holds : motive happened cycle) :
    motive happened (cycle.executeAll messages) := by
  induction messages generalizing cycle with
  | nil => exact holds
  | cons message rest ih =>
    have next := keeps.execute message holds
    unfold Cycle.executeAll
    dsimp only
    split
    · exact next
    · exact ih next

theorem executions (messages : List SubMessage) (holds : motive happened cycle) :
    ∀ stage ∈ cycle.executions happened messages, motive stage.happened stage.cycle := by
  induction messages generalizing cycle with
  | nil => exact fun stage member => by cases member
  | cons message rest ih =>
    have next := keeps.execute message holds
    intro stage member
    rcases List.mem_cons.mp member with rfl | later
    · exact next
    · split at later
      · cases later
      · exact ih next stage later

theorem perform (request : Request) (holds : motive happened cycle) :
    motive happened (cycle.perform request) := by
  cases request with
  | messages messages => exact keeps.executeAll messages holds
  | external id code => exact keeps.external id code holds
  | mounted id => exact holds

theorem performances (request : Request) (holds : motive happened cycle) :
    ∀ stage ∈ cycle.performances happened request, motive stage.happened stage.cycle := by
  cases request with
  | messages messages => exact keeps.executions messages holds
  | external id code =>
    rintro stage member
    cases List.mem_singleton.mp member
    exact keeps.external id code holds
  | mounted id =>
    rintro stage member
    cases List.mem_singleton.mp member
    exact holds

theorem turnings (inlined : List String) (affected : List (String × Dirty))
    (holds : motive happened cycle) :
    (∀ stage ∈ cycle.turnings happened inlined affected, motive stage.happened stage.cycle) ∧
      motive (happened ++ (cycle.turns inlined affected).flatMap Turn.events)
        (cycle.renderAll inlined affected) := by
  induction affected generalizing happened cycle inlined with
  | nil =>
    refine ⟨fun stage member => ?_, ?_⟩
    · cases List.mem_singleton.mp member
      exact holds
    · exact (List.append_nil happened).symm ▸ holds
  | cons first rest ih =>
    obtain ⟨id, dirty⟩ := first
    unfold Cycle.turnings Cycle.turns Cycle.renderAll
    split
    · exact ih inlined holds
    · cases known : cycle.world.instance? id with
      | error error => exact ih inlined holds
      | ok component =>
        have next := keeps.renderOne inlined dirty known holds
        dsimp only
        generalize cycle.renderOne inlined component dirty = rendered at next ⊢
        obtain ⟨stages, last⟩ := ih rendered.2 next
        refine ⟨fun stage member => ?_, ?_⟩
        · rcases List.mem_cons.mp member with rfl | later
          · exact holds
          · exact stages stage later
        · rw [List.flatMap_cons, ← List.append_assoc]
          exact last

/-- What is kept holds when a cycle is over. -/
theorem run {world : World} {store : Store} (holds : motive happened (start world store))
    (request : Request) : motive (happened ++ (turnsOf world request store).flatMap Turn.events)
      (run world request store) :=
  keeps.reset (keeps.turnings [] _ (keeps.perform request holds)).2

/-- **What is kept holds at every stage of a cycle.** -/
theorem stages {world : World} {store : Store} (holds : motive happened (start world store))
    (request : Request) :
    ∀ stage ∈ stages happened world request store, motive stage.happened stage.cycle := by
  intro stage member
  rcases List.mem_cons.mp member with rfl | member
  · exact holds
  rcases List.mem_append.mp member with member | member
  · rcases List.mem_append.mp member with member | member
    · exact keeps.performances request holds stage member
    · exact (keeps.turnings [] _ (keeps.perform request holds)).1 stage member
  · cases List.mem_singleton.mp member
    exact keeps.run holds request

end Keeps

end Cycle

namespace Session

/-- **The stages of an entry** of a session in which something has happened; there are none if no cycle
runs. -/
def stages (happened : List Event) (session : Session) (entry : Entry) : List Stage :=
  match session.cycle? entry with
  | some (world, request, store) => Cycle.stages (happened ++ session.asked entry) world request store
  | none => []

end Session

end ReactiveView
