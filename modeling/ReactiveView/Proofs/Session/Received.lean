/-
**Of which components the client has got markup.**

A component of which markup was the last thing that was sent counts as being with the client: since it
came it was rendered with success, and it has not failed since then.

* `Envelope.last?` — what was sent last of a component.
* `Received` — the client got markup of a component, and nothing else of it since then.
* `World.Serves` — the view of a component says so, too.
* `World.Serves.run` — after every cycle.
-/

import ReactiveView.Proofs.Session.Freshness

namespace ReactiveView

/-- What was sent last of a component. -/
def Envelope.last? (id : String) (history : List Envelope) : Option Outbound :=
  (history.reverse.find? fun envelope => envelope.component == id).map Envelope.payload

/-- **The client got markup of a component**, and since then it was not told that the component failed,
came or went. -/
def Received (id : String) (history : List Envelope) : Prop :=
  ∃ slots, Envelope.last? id history = some (.render slots)

namespace Envelope

variable {id : String} {history : List Envelope}

theorem last?_append_self (history : List Envelope) (id : String) (payload : Outbound) :
    last? id (history ++ [⟨id, payload⟩]) = some payload := by
  simp [last?]

/-- What is sent of others does not matter for a component. -/
theorem last?_append_of_ne {more : List Envelope} (others : ∀ envelope ∈ more, envelope.component ≠ id) :
    last? id (history ++ more) = last? id history := by
  have none : more.reverse.find? (fun envelope => envelope.component == id) = .none :=
    List.find?_eq_none.mpr fun envelope member => by
      simpa using others envelope (List.mem_reverse.mp member)
  rw [last?, List.reverse_append, List.find?_append, none, Option.none_or]
  rfl

end Envelope

namespace World

variable {history : List Envelope} {world after : World} {component : Instance} {store stored : Store}

/-- **The view of a component says so if the client has got markup of it.** -/
def Serves (history : List Envelope) (world : World) : Prop := ∀ id component,
  world.mounted.get? id = some (some component) → Received id (history ++ world.outgoing) →
    component.view.staticSent = true

/-- Components are seen as before. -/
theorem Serves.stands (serves : world.Serves history) (stands : world.Stands after) :
    after.Serves history := by
  intro id component there received
  obtain ⟨old, found, same⟩ := stands.exists_of_get? there
  rw [← (Instance.parts_of_face same).2.2]
  exact serves _ _ found (stands.outgoing ▸ received)

/-- Something is sent of a component, and the view of this component says so. -/
theorem Serves.emit (serves : world.Serves history) {id : String} {payload : Outbound}
    (others : ∀ {other component}, other ≠ id →
      after.mounted.get? other = some (some component) →
      ∃ old, world.mounted.get? other = some (some old) ∧ old.view = component.view)
    (own : ∀ {component slots}, after.mounted.get? id = some (some component) →
      payload = .render slots → component.view.staticSent = true)
    (outgoing : after.outgoing = world.outgoing ++ [⟨id, payload⟩]) : after.Serves history := by
  intro other component there received
  rw [outgoing, ← List.append_assoc] at received
  obtain ⟨slots, last⟩ := received
  by_cases same : other = id
  · subst same
    rw [Envelope.last?_append_self] at last
    exact own there (Option.some.inj last)
  · rw [Envelope.last?_append_of_ne fun envelope member => by
      rw [List.mem_singleton.mp member]
      exact fun here => same here.symm] at last
    obtain ⟨old, found, view⟩ := others same there
    rw [← view]
    exact serves _ _ found ⟨slots, last⟩

/-- Nothing is sent, and no view is lost. -/
theorem Serves.keep (serves : world.Serves history)
    (views : ∀ {other component}, after.mounted.get? other = some (some component) →
      component.view.staticSent = true ∨
        ∃ old, world.mounted.get? other = some (some old) ∧ old.view = component.view)
    (outgoing : after.outgoing = world.outgoing) : after.Serves history := by
  intro other component there received
  rcases views there with sent | ⟨old, found, view⟩
  · exact sent
  · rw [← view]
    exact serves _ _ found (outgoing ▸ received)

/-- **Components go**: of those that stay nothing is sent. -/
theorem Serves.destroyAll (serves : world.Serves history) (ids : List String) (store : Store) :
    (world.destroyAll ids store).1.Serves history := by
  obtain ⟨gone, ended⟩ := exists_ended world ids store
  intro id component there received
  have stays : id ∉ gone := fun member => by
    rw [ended.places, if_pos member] at there
    cases there
  rw [ended.places, if_neg stays] at there
  refine serves _ _ there ?_
  obtain ⟨slots, last⟩ := received
  rw [ended.outgoing, ← List.append_assoc, Envelope.last?_append_of_ne fun envelope member => by
    obtain ⟨other, lost, rfl⟩ := List.mem_map.mp member
    exact fun same => stays (same ▸ lost)] at last
  exact ⟨slots, last⟩

/-- What is to be sent has been sent. -/
theorem Serves.flush (serves : world.Serves history) :
    ({ world with outgoing := [] } : World).Serves (history ++ world.outgoing) := by
  intro id component there received
  rw [List.append_nil] at received
  exact serves _ _ there received

end World

namespace Cycle

variable {history : List Envelope} {cycle : Cycle} {rest : List (String × Dirty)}

/-- A failure is shown. -/
theorem serves_fail (filed : cycle.world.Filed) (serves : cycle.world.Serves history) (id : String)
    (error : Error) : (cycle.fail id error).world.Serves history := by
  obtain ⟨html, failed⟩ := world_fail cycle id error
  have outgoing : (cycle.fail id error).world.outgoing =
      cycle.world.outgoing ++ [⟨id, .error html⟩] := by
    rw [failed, World.emit, outgoing_invalidated]
  refine World.Serves.emit serves (fun {other component} ne there => ?_) ?_ outgoing
  · rw [get?_fail_of_ne filed ne] at there
    exact ⟨component, there, rfl⟩
  · intro _ _ _ render
    cases render

theorem filed_fail (filed : cycle.world.Filed) (id : String) (error : Error) :
    (cycle.fail id error).world.Filed := by
  obtain ⟨html, failed⟩ := world_fail cycle id error
  rw [failed]
  exact ((goes_failure filed id html).mono World.alike_of_lingers).filed filed

/-- Code runs behind the faces of the components, and failures are shown. -/
theorem serves_perform (filed : cycle.world.Filed) (serves : cycle.world.Serves history)
    (request : Request) : (cycle.perform request).world.Serves history :=
  (perform_induct (motive := fun cycle => cycle.world.Filed ∧ World.Serves history cycle.world)
    (fun _ holds => holds.1)
    (fun _ _ _ stands holds => ⟨stands.filed holds.1, World.Serves.stands holds.2 stands⟩)
    (fun _ id error holds => ⟨filed_fail holds.1 id error, serves_fail holds.1 holds.2 id error⟩)
    ⟨filed, serves⟩ request).2

/-- **A turn**: a component that was rendered is with the client. -/
theorem Renewing.serves_renderOne {id : String} {dirty : Dirty} {component : Instance}
    (renewing : cycle.Renewing ((id, dirty) :: rest)) (serves : cycle.world.Serves history)
    (there : cycle.world.mounted.get? id = some (some component)) :
    (cycle.renderOne [] component dirty).1.world.Serves history := by
  obtain rfl : component.id = id := renewing.pictured.filed there
  have renders : cycle.world.Renders component dirty cycle.store _ _ _ :=
    World.renders_render (renewing.pictured.steady there).toSolitary (renewing.pictured.alone there) dirty
      cycle.store
  unfold Cycle.renderOne
  generalize cycle.world.render component dirty cycle.store = answer at renders ⊢
  obtain ⟨result, world, store⟩ := answer
  dsimp only at renders ⊢
  have kept : world.Serves history := by
    refine serves.keep (fun {other held} found => ?_) renders.outgoing
    by_cases same : other = component.id
    · subst same
      exact (renders.own found).2.1.symm.imp_right fun view => ⟨component, there, view.symm⟩
    · exact Or.inr ⟨held, renders.get?_of_ne same ▸ found, rfl⟩
  cases result with
  | error error =>
    have filed : world.Filed := by
      intro other held found
      by_cases same : other = component.id
      · subst same
        exact (renders.own found).1
      · exact renewing.pictured.filed (renders.get?_of_ne same ▸ found)
    exact @serves_fail history { cycle with world, store } filed kept component.id error
  | ok rendered =>
    dsimp only
    cases rendered.isEmpty with
    | true => exact kept
    | false =>
      have sent : (world.emit component.id (.render rendered.markup)).Serves history :=
        kept.emit (fun _ found => ⟨_, found, rfl⟩) (fun found _ => (renders.own found).2.2 rfl) rfl
      exact sent

theorem Renewing.serves_renderAll (renewing : cycle.Renewing rest)
    (serves : cycle.world.Serves history) : (cycle.renderAll [] rest).world.Serves history := by
  induction rest generalizing cycle with
  | nil => exact serves
  | cons entry rest ih =>
    obtain ⟨id, dirty⟩ := entry
    unfold Cycle.renderAll
    rw [if_neg (by simp)]
    cases known : cycle.world.instance? id with
    | error error =>
      refine ih (renewing.skip fun component there => ?_) serves
      rw [World.instance?_eq_ok_iff.mpr there] at known
      cases known
    | ok component =>
      have there := World.instance?_eq_ok_iff.mp known
      obtain ⟨next, none⟩ := renewing.renderOne there
      have served : (cycle.renderOne [] component dirty).1.world.Serves history :=
        renewing.serves_renderOne serves there
      dsimp only
      generalize cycle.renderOne [] component dirty = turn at next none served ⊢
      obtain ⟨cycle, inlined⟩ := turn
      subst none
      exact ih next served

end Cycle

/-- **After every cycle the views say so** of which components the client has got markup. -/
theorem World.Serves.run {history : List Envelope} {world : World} {store : Store} {request : Request}
    (serves : world.Serves history) (settled : world.Settled store)
    (careful : request.Careful World.Permits (.start world store)) :
    (Cycle.run world request store).world.Serves history := by
  have filed : world.Filed := by
    obtain ⟨_, _, pictured⟩ := settled
    exact pictured.filed
  exact (settled.renewing careful).serves_renderAll
    (@Cycle.serves_perform history (Cycle.start world store) filed serves request)

end ReactiveView
