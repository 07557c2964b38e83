/-
**Identity values stay as they are.**

They are set between two cycles. Code and templates read them only, so everything that is rendered in a cycle
sees those with which it has begun, however deep it is rendered inside of other components.

* `Rendering.identity_kept` — the template of a rendering runs with the same identity values to its end.
* `Rendering.identity_of_mem` — and so does everything that is rendered inside.
* `Cycle.keeps_identity` — no step of a cycle changes them.
* `Session.identity_of_mem_eventsOf` — all renderings of an entry see those of the session.
-/

import ReactiveView.Proofs.Session.Stages

namespace ReactiveView

namespace World

variable {world after : World} {component : Instance}

theorem Found.identity {parent : ComponentDef} {className id : String}
    (found : Found parent className id world after) : after.identity = world.identity := by
  cases found with
  | there => rfl
  | mounted => rfl

end World

/-! ### Renderings -/

namespace Rendering

variable {rendering inner : Rendering} {call : Scope.Call RenderState}

/-- When a rendering is over, identity values are those that its template has left. -/
theorem identity_settled (rendering : Rendering) :
    rendering.settled.identity = rendering.reached.identity := by
  obtain ⟨_, ended⟩ := rendering.exists_ended
  rcases rendering.settled_cases with ⟨_, same⟩ | ⟨_, same⟩
  all_goals
    rw [same]
    exact ended.identity

/-- A template changes no identity values with anything it asks for, if none is changed inside. -/
theorem identity_of_move {nesting : Nat} (depth : rendering.nesting = nesting + 1)
    (inside : ∀ call inner, rendering.inner? call = some inner →
      inner.settled.identity = inner.world.identity) {before after : RenderState × Store}
    (move : (scope nesting rendering.component).Move before after) :
    after.1.world.identity = before.1.world.identity := by
  cases move with
  | lookup name state store => exact (RenderState.rests_lookup ..).identity
  | call name arguments state store => exact (RenderState.rests_callHelper ..).identity
  | grow state grows => rfl
  | child className id state store =>
    have answers := rendering.answers depth ⟨className, id, state, store⟩
    dsimp only at answers
    cases answers with
    | unfound _ _ found => exact found.identity
    | rendered leads found _ taken _ _ settled =>
      have kept := inside _ _ leads
      rw [taken] at kept
      exact (congrArg World.identity settled).trans (kept.trans found.identity)

/-- **A template runs with the same identity values to its end**, and calls for children with them. -/
theorem identity_kept (rendering : Rendering) :
    rendering.reached.identity = rendering.world.identity ∧
      ∀ call ∈ rendering.calls, call.world.world.identity = rendering.world.identity := by
  induction rendering using induct with
  | step rendering within =>
    rcases rendering.exists_path with ⟨none, still⟩ | ⟨nesting, own, stored, depth, path⟩
    · rw [still, none]
      exact ⟨rfl, nofun⟩
    · exact path.kept (motive := fun around => around.1.world.identity = rendering.world.identity)
        (fun move same => (identity_of_move depth (fun call inner leads =>
          inner.identity_settled.trans (within call inner leads).1) move).trans same) rfl

/-- A child is rendered with the identity values of its parent. -/
theorem identity_of_inner (called : call ∈ rendering.calls) (leads : rendering.inner? call = some inner) :
    inner.world.identity = rendering.world.identity := by
  have answers := rendering.answers (nesting_of_inner leads) call
  dsimp only at answers
  cases answers with
  | unfound unmet =>
    rw [unmet] at leads
    cases leads
  | rendered leads' found _ taken =>
    cases leads.symm.trans leads'
    rw [taken]
    exact found.identity.trans (rendering.identity_kept.2 call called)

/-- A rendering that is over is the last one of its events. -/
theorem renders_mem_ends {place shown : Option (String × Nat)} :
    .renders inner shown ∈ rendering.ends place ↔ inner = rendering ∧ shown = place := by
  simp [ends]

/-- **Everything that is rendered inside of a component is rendered with the same identity values.** -/
theorem identity_of_mem {place shown : Option (String × Nat)}
    (member : .renders inner shown ∈ rendering.events place) :
    inner.world.identity = rendering.world.identity := by
  induction rendering using induct generalizing place with
  | step rendering within =>
    rcases List.mem_append.mp member with inside | last
    · rw [inside_eq] at inside
      obtain ⟨⟨call, index⟩, listed, here⟩ := List.mem_flatMap.mp inside
      have called := List.mem_of_getElem? (List.mem_zipIdx_iff_getElem?.mp listed)
      rcases List.mem_append.mp here with mounts | here
      · unfold mountsOf at mounts
        split at mounts
        · cases List.mem_singleton.mp mounts
        · cases mounts
      · split at here
        · next other leads => exact (within call other leads here).trans (identity_of_inner called leads)
        · cases here
    · rw [(renders_mem_ends.mp last).1]

end Rendering

/-! ### Cycles -/

namespace Cycle

variable {world : World} {cycle : Cycle}

theorem identity_invalidated (world : World) (id : String) :
    (invalidated world id).identity = world.identity := by
  unfold invalidated
  split <;> rfl

theorem identity_fail (cycle : Cycle) (id : String) (error : Error) :
    (cycle.fail id error).world.identity = cycle.world.identity := by
  obtain ⟨html, same⟩ := world_fail cycle id error
  rw [same]
  exact identity_invalidated cycle.world id

theorem identity_after (cycle : Cycle) (id : String) (done : Except Error Unit × World × Store) :
    (cycle.after id done).world.identity = done.2.1.identity := by
  obtain ⟨result, world, store⟩ := done
  cases result with
  | ok value => rfl
  | error error => exact identity_fail _ id error

theorem identity_execute (world : World) (message : SubMessage) (store : Store) :
    (execute world message store).2.1.identity = world.identity := by
  unfold execute
  split
  · rfl
  · split
    · split <;> rfl
    · unfold assign
      split <;> rfl

theorem identity_executeExternal (world : World) (id : String) (code : ActionCode) (store : Store) :
    (executeExternal world id code store).2.1.identity = world.identity := by
  unfold executeExternal
  split <;> rfl

theorem identity_renderOne (cycle : Cycle) (inlined : List String) (component : Instance)
    (dirty : Dirty) : (cycle.renderOne inlined component dirty).1.world.identity =
      cycle.world.identity := by
  have settled : (Turn.rendering ⟨cycle, component, dirty⟩).settled.identity = cycle.world.identity :=
    (Rendering.identity_settled _).trans (Rendering.identity_kept _).1
  have ends := world_renderOne cycle inlined component dirty
  split at ends
  · obtain ⟨_, _, same⟩ := ends
    rw [same]
    exact (identity_invalidated ..).trans settled
  · rw [ends.2]
    split
    · exact settled
    · exact settled

/-- **No step of a cycle changes identity values.** -/
theorem keeps_identity (identity : OrderedMap String Value) :
    Keeps fun _ cycle => cycle.world.identity = identity where
  execute _ same := (identity_after ..).trans ((identity_execute ..).trans same)
  external _ _ same := (identity_after ..).trans ((identity_executeExternal ..).trans same)
  renderOne _ _ _ _ _ same := (identity_renderOne ..).trans same
  reset same := same

/-- **All turns begin with the same identity values.** -/
theorem identity_of_mem_turns {inlined : List String} {affected : List (String × Dirty)} {turn : Turn}
    (taken : turn ∈ cycle.turns inlined affected) :
    turn.cycle.world.identity = cycle.world.identity := by
  induction affected generalizing cycle inlined with
  | nil => cases taken
  | cons first rest ih =>
    obtain ⟨id, dirty⟩ := first
    unfold turns at taken
    split at taken
    · exact ih taken
    · split at taken
      · exact ih taken
      · rcases List.mem_cons.mp taken with rfl | later
        · rfl
        · exact (ih later).trans (identity_renderOne ..)

end Cycle

/-! ### Entries -/

namespace Session

variable {session : Session} {entry : Entry} {world : World} {request : Request} {store : Store}

theorem identity_of_runs (runs : session.cycle? entry = some (world, request, store)) :
    world.identity = session.world.identity := by
  unfold cycle? at runs
  split at runs
  · split at runs
    · cases runs
    · split at runs
      · cases runs
      · next mounting =>
        cases runs
        unfold World.mount at mounting
        split at mounting
        · cases mounting
        · cases mounting
          rfl
  all_goals
    repeat' split at runs
    all_goals cases runs
    all_goals rfl

/-- A turn begins with the identity values of the session. -/
theorem identity_of_mem_turns {turn : Turn} (taken : turn ∈ session.turns entry) :
    turn.cycle.world.identity = session.world.identity := by
  unfold turns at taken
  split at taken
  · next world request store runs =>
    have performs := @Cycle.Keeps.perform _ (Cycle.keeps_identity world.identity) []
      (.start world store) request rfl
    exact (Cycle.identity_of_mem_turns taken).trans (performs.trans (identity_of_runs runs))
  · cases taken

/-- **All renderings of an entry see the identity values of the session.** -/
theorem identity_of_mem_eventsOf {rendering : Rendering} {place : Option (String × Nat)}
    (member : .renders rendering place ∈ session.eventsOf entry) :
    rendering.world.identity = session.world.identity := by
  rcases List.mem_append.mp member with asks | happens
  · unfold asked at asks
    split at asks
    all_goals
      try split at asks
      all_goals simp at asks
  · obtain ⟨turn, taken, there⟩ := List.mem_flatMap.mp happens
    exact (Rendering.identity_of_mem there).trans (identity_of_mem_turns taken)

/-- An entry that runs a cycle leaves the identity values of the session. -/
theorem identity_enter (runs : session.cycle? entry = some (world, request, store)) :
    (session.enter entry).session.world.identity = session.world.identity := by
  rw [enter_of_runs runs]
  exact (@Cycle.Keeps.run _ (Cycle.keeps_identity world.identity) [] world store rfl request).trans
    (identity_of_runs runs)

end Session

end ReactiveView
