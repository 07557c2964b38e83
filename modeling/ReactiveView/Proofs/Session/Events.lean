/-
**What happens to components, event by event.**

Components are mounted, rendered and destroyed, most of them on the way of others. All that happens in
a rendering is written down in order, and every world goes from one event to the next: between two of
them nothing changes that others see of a component.

* `Event` — something that happens to components.
* `Rendering.inside`, `Rendering.events` — what happens in a rendering.
* `World.Alike` — nothing happens to the components.
* `World.Goes` — where some events lead.
* `Rendering.goes_settled` — a rendering in its place goes through its events.
-/

import ReactiveView.Proofs.Session.Passage

namespace ReactiveView

/-- **Something that happens to components.** -/
inductive Event where
  | mounts (id : String)
  /-- A component was rendered; perhaps as a part of another one that shows it there. -/
  | renders (rendering : Rendering) (place : Option (String × Nat))
  /-- Some components are destroyed, because a rendering shows them no longer or by request. -/
  | destroys (origin : Option Rendering) (ids : List String) (before after : World)

/-! ### The events of a rendering -/

instance (parent : ComponentDef) (className id : String) (world : World) :
    Decidable (World.Mounts parent className id world) :=
  decidable_of_iff ((parent.child className).isOk = true ∧ world.contains id = false) <| by
    unfold World.Mounts
    cases parent.child className <;> simp [Except.isOk, Except.toBool]

namespace Rendering

variable (rendering : Rendering)

/-- The world when the template has run, before anything is destroyed for it. -/
def reached : World :=
  match rendering.nesting, rendering.component.definition.template rendering.component.variant with
  | nesting + 1, .ok template =>
    (Render.render template rendering.dirty rendering.component.view
      (scope nesting rendering.component) rendering.world.config
      ⟨rendering.component.container, rendering.world⟩ rendering.store).2.2.1.world
  | _, _ => rendering.world

/-- The children that the component shows no longer. -/
def dropped : List String :=
  (rendering.component.view.liveChildren.diff rendering.rendered.view.liveChildren).names

/-- Whether the component keeps its place while it is rendered. -/
def stays : Bool :=
  match rendering.after.mounted.get? rendering.component.id with
  | some none => true
  | _ => false

/-- The part that ends with a call for a child. -/
def partOf (slots : List Slot) (index : Nat) : Option Nat :=
  (List.range slots.length).find? fun part =>
    (Render.childrenOf (slots.take (part + 1))).length == index + 1

/-- Where the child of a call is shown: in a part of the component, if this keeps its place. -/
def placeOf (index : Nat) : Option (String × Nat) :=
  match rendering.result with
  | .ok rendered =>
    if rendering.stays then
      (partOf rendered.slots index).map fun part => (rendering.component.id, part)
    else none
  | .error _ => none

/-- Whether a call mounts its child. -/
def mountsOf (call : Scope.Call RenderState) : List Event :=
  if World.Mounts rendering.component.definition call.className call.id call.world.world then
    [.mounts call.id]
  else []

/-- What happens last in a rendering. -/
def ends (place : Option (String × Nat)) : List Event :=
  [.destroys (some rendering) rendering.dropped rendering.reached rendering.after,
    .renders rendering place]

/-- What happens inside of a rendering, down to some depth. -/
def insideTo : Nat → Rendering → List Event
  | 0, _ => []
  | depth + 1, rendering => rendering.calls.zipIdx.flatMap fun (call, index) =>
    rendering.mountsOf call ++
      match rendering.inner? call with
      | some inner => insideTo depth inner ++ inner.ends (rendering.placeOf index)
      | none => []

/-- **What happens inside of a rendering**, in order. -/
def inside : List Event := insideTo rendering.nesting rendering

/-- **What happens in a rendering**, in order. -/
def events (place : Option (String × Nat)) : List Event := rendering.inside ++ rendering.ends place

/-- What happens for a call for a child. -/
def eventsOf (called : Scope.Call RenderState × Nat) : List Event :=
  rendering.mountsOf called.1 ++
    match rendering.inner? called.1 with
    | some inner => inner.events (rendering.placeOf called.2)
    | none => []

variable {rendering}

theorem inside_eq : rendering.inside = rendering.calls.zipIdx.flatMap rendering.eventsOf := by
  unfold inside
  cases depth : rendering.nesting with
  | zero =>
    have none : rendering.calls = [] := by simp only [calls, depth]
    rw [none]
    rfl
  | succ nesting =>
    refine congrArg (List.flatMap · _) (funext fun called => ?_)
    obtain ⟨call, index⟩ := called
    unfold eventsOf
    dsimp only
    cases leads : rendering.inner? call with
    | none => rfl
    | some inner =>
      have same : nesting = inner.nesting :=
        Nat.succ.inj (depth.symm.trans (nesting_of_inner leads))
      rw [same]
      rfl

theorem stays_iff :
    rendering.stays = true ↔ rendering.after.mounted.get? rendering.component.id = some none := by
  unfold stays
  split
  · next kept => simp only [kept]
  · next lost => exact ⟨fun impossible => (by cases impossible), fun kept => absurd kept lost⟩

/-- A child is shown as a part of a component that keeps its place, if its rendering succeeds. -/
theorem placeOf_eq_some_iff {index part : Nat} {id : String} :
    rendering.placeOf index = some (id, part) ↔ id = rendering.component.id ∧
      rendering.stays = true ∧
      ∃ rendered, rendering.result = .ok rendered ∧ partOf rendered.slots index = some part := by
  unfold placeOf
  cases rendering.result with
  | error error => simp
  | ok rendered => cases rendering.stays <;> simp [eq_comm, and_comm]

/-! ### When the template has run -/

theorem reached_of_error {error : Error} (failed : rendering.result = .error error) :
    rendering.reached = rendering.after := by
  obtain ⟨nesting, component, dirty, world, store⟩ := rendering
  cases nesting with
  | zero => rfl
  | succ nesting =>
    simp only [result, after, outcome, reached, World.renderNested, World.renderWith, scope] at failed ⊢
    cases known : component.definition.template component.variant with
    | error error => rfl
    | ok template =>
      rw [known] at failed
      dsimp only at failed ⊢
      generalize Render.render template _ _ _ _ _ _ = ran at failed ⊢
      obtain ⟨error | slots, view, state, stored⟩ := ran
      · rfl
      · cases failed

theorem dropped_of_error {error : Error} (failed : rendering.result = .error error) :
    rendering.dropped = [] := by
  rw [dropped, view_of_error failed, List.eq_nil_iff_forall_not_mem]
  intro id member
  obtain ⟨shown, unshown⟩ := NameSet.mem_diff.mp member
  exact unshown shown

/-- **After its template has run, a rendering destroys what it shows no longer.** -/
theorem exists_after_eq (rendering : Rendering) :
    ∃ store, rendering.after = (rendering.reached.destroyAll rendering.dropped store).1 := by
  cases result : rendering.result with
  | error error =>
    rw [reached_of_error result, dropped_of_error result]
    exact ⟨rendering.store, by rw [World.destroyAll]⟩
  | ok rendered =>
    cases rendering.course with
    | refused error =>
      rw [result] at error
      cases error
    | failed _ _ _ error =>
      rw [result] at error
      cases error
    | @done _ _ _ _ _ _ stored depth known _ ran _ _ _ _ _ same moved =>
      refine ⟨stored, ?_⟩
      simp only [moved, reached, dropped, depth, known, ran, same]

/-- The way of a rendering, up to where its template has run. -/
theorem exists_path (rendering : Rendering) :
    (rendering.calls = [] ∧ rendering.reached = rendering.world) ∨
    ∃ nesting own stored, rendering.nesting = nesting + 1 ∧
      (scope nesting rendering.component).Path
        (⟨rendering.component.container, rendering.world⟩, rendering.store) rendering.calls
        (⟨own, rendering.reached⟩, stored) := by
  cases rendering.course with
  | refused error _ still none =>
    exact Or.inl ⟨none, (reached_of_error error).trans still⟩
  | failed depth _ path error _ after =>
    rw [← after, ← reached_of_error error] at path
    exact Or.inr ⟨_, _, _, depth, path⟩
  | @done _ _ _ _ _ reached _ depth known path ran =>
    have same : rendering.reached = reached := by simp only [Rendering.reached, depth, known, ran]
    rw [← same] at path
    exact Or.inr ⟨_, _, _, depth, path⟩

end Rendering

/-! ### Nothing happens -/

/-- What remains of a component when it fails: the client may have nothing of it any more. -/
def Instance.likeness (component : Instance) : String × ComponentDef × ClientView :=
  (component.id, component.definition, component.view.invalidate)

namespace World

variable {world middle after : World} {id : String}

/-- **Nothing happens to the components**: each of them is there as before, but the client may have
nothing of it. -/
structure Alike (before after : World) : Prop where
  places : ∀ id, (after.mounted.get? id).map (Option.map Instance.likeness) =
    (before.mounted.get? id).map (Option.map Instance.likeness)
  ids : after.ids = before.ids

theorem alike_of_rests (before after : World) (rests : before.Rests after) : before.Alike after where
  places id := by rw [rests.mounted]
  ids := congrArg OrderedMap.keys rests.mounted

namespace Alike

variable (alike : world.Alike after)

include alike

theorem exists_of_get? {component : Instance}
    (there : after.mounted.get? id = some (some component)) :
    ∃ old, world.mounted.get? id = some (some old) ∧ old.likeness = component.likeness := by
  have same := alike.places id
  rw [there] at same
  rcases found : world.mounted.get? id with _ | _ | old
  · rw [found] at same
    cases same
  · rw [found] at same
    cases same
  · rw [found] at same
    exact ⟨old, rfl, (Option.some.inj (Option.some.inj same)).symm⟩

theorem contains (id : String) : after.contains id = world.contains id := by
  have same := congrArg Option.isSome (alike.places id)
  rwa [Option.isSome_map, Option.isSome_map] at same

theorem empty (kept : after.mounted.get? id = some none) : world.mounted.get? id = some none := by
  have same := alike.places id
  rw [kept] at same
  rcases found : world.mounted.get? id with _ | _ | old
  · rw [found] at same
    cases same
  · rfl
  · rw [found] at same
    cases same

theorem filed (filed : world.Filed) : after.Filed := by
  intro id component there
  obtain ⟨old, found, same⟩ := alike.exists_of_get? there
  exact (congrArg Prod.fst same).symm.trans (filed found)

end Alike

/-! ### Where events lead -/

/-- **A world goes from event to event**, and is still in between. -/
inductive Goes (still : World → World → Prop) : World → List Event → World → Prop
  | still {before after : World} (rests : still before after) : Goes still before [] after
  | mounts {world : World} {component : Instance} (free : world.contains component.id = false)
    (view : component.view = ClientView.empty) : Goes still world [.mounts component.id]
      ((world.put component).emit component.id (.status .subscribed))
  | destroys (world : World) (ids : List String) (store : Store) : Goes still world
      [.destroys none ids world (world.destroyAll ids store).1] (world.destroyAll ids store).1
  /-- Where a component is shown as a part of another one, this one is being rendered. -/
  | renders {world : World} {rendering : Rendering} {place : Option (String × Nat)}
    (stands : world.mounted.get? rendering.component.id = some (some rendering.component))
    (taken : rendering.world = world.takeOut rendering.component.id)
    (inside : Goes still rendering.world rendering.inside rendering.reached)
    (parent : ∀ id part, place = some (id, part) →
      rendering.settled.mounted.get? id = some none) :
    Goes still world (rendering.events place) rendering.settled
  | trans {before middle after : World} {first second : List Event}
    (early : Goes still before first middle) (late : Goes still middle second after) :
    Goes still before (first ++ second) after

namespace Goes

variable {still other : World → World → Prop} {events : List Event}

theorem mono (goes : Goes still world events after)
    (weaken : ∀ before after, still before after → other before after) :
    Goes other world events after := by
  induction goes with
  | still rests => exact .still (weaken _ _ rests)
  | mounts free view => exact .mounts free view
  | destroys world ids store => exact .destroys world ids store
  | renders stands taken _ parent ih => exact .renders stands taken ih parent
  | trans _ _ first second => exact first.trans second

/-- Nothing more happens. -/
theorem andThen (goes : Goes still world events middle) (rest : Goes still middle [] after) :
    Goes still world events after := by
  rw [← List.append_nil events]
  exact goes.trans rest

end Goes

end World

/-! ### What is left when a rendering is over -/

namespace Event

/-- Whether a component comes or is rendered. -/
def tells (id : String) : Event → Bool
  | .mounts other => other == id
  | .renders rendering _ => rendering.component.id == id
  | .destroys .. => false

end Event

/-- What stands in a place after a destruction stood there before. -/
theorem World.get?_of_destroyAll {world : World} {ids : List String} {store : Store} {id : String}
    {place : Option Instance}
    (there : (world.destroyAll ids store).1.mounted.get? id = some place) :
    world.mounted.get? id = some place := by
  obtain ⟨gone, ended⟩ := exists_ended world ids store
  rw [ended.places] at there
  split at there
  · cases there
  · exact there

namespace Rendering

variable {rendering : Rendering} {id : String}

theorem exists_ended (rendering : Rendering) :
    ∃ gone, World.Ended rendering.dropped rendering.reached gone rendering.after := by
  obtain ⟨store, same⟩ := rendering.exists_after_eq
  rw [same]
  exact World.exists_ended rendering.reached rendering.dropped store

/-- What stands in a place once the component is back. -/
theorem get?_settled (rendering : Rendering) (id : String) : rendering.settled.mounted.get? id =
    if id = rendering.component.id ∧ rendering.stays = true then some (some rendering.rendered)
    else rendering.after.mounted.get? id := by
  rcases rendering.settled_places id with ⟨rfl, kept, back⟩ | ⟨lost, same⟩
  · rw [if_pos ⟨rfl, stays_iff.mpr kept⟩, back]
  · have ne : ¬ (id = rendering.component.id ∧ rendering.stays = true) := fun own =>
      lost own.1 (own.1 ▸ stays_iff.mp own.2)
    rw [if_neg ne, same]

theorem ids_settled (rendering : Rendering) : rendering.settled.ids = rendering.after.ids := by
  rcases rendering.settled_cases with ⟨kept, same⟩ | ⟨_, same⟩
  · rw [← rendering.rendered_face.1] at kept
    rw [same, World.ids_put, if_pos (World.contains_iff.mpr ⟨_, kept⟩)]
  · rw [same]

theorem contains_settled (rendering : Rendering) (id : String) :
    rendering.settled.contains id = rendering.after.contains id := by
  rw [Bool.eq_iff_iff, ← World.mem_ids_iff, ← World.mem_ids_iff, ids_settled]

theorem outgoing_settled (rendering : Rendering) :
    rendering.settled.outgoing = rendering.after.outgoing := by
  rcases rendering.settled_cases with ⟨_, same⟩ | ⟨_, same⟩
  all_goals
    rw [same]
    try rfl

theorem config_settled (rendering : Rendering) :
    rendering.settled.config = rendering.after.config := by
  rcases rendering.settled_cases with ⟨_, same⟩ | ⟨_, same⟩
  all_goals
    rw [same]
    try rfl

/-- What stands in a place after a rendering is its component, or stood there when the template had
run. -/
theorem cases_of_settled {place : Option Instance}
    (there : rendering.settled.mounted.get? id = some place) :
    (id = rendering.component.id ∧ rendering.stays = true ∧ place = some rendering.rendered) ∨
      rendering.reached.mounted.get? id = some place := by
  obtain ⟨store, same⟩ := rendering.exists_after_eq
  rw [get?_settled] at there
  split at there
  · next own => exact Or.inl ⟨own.1, own.2, (Option.some.inj there).symm⟩
  · exact Or.inr (World.get?_of_destroyAll (same ▸ there))

theorem filed_settled (filed : rendering.reached.Filed) : rendering.settled.Filed := by
  intro id component there
  rcases cases_of_settled there with ⟨own, _, same⟩ | before
  · cases same
    exact rendering.rendered_face.1.trans own.symm
  · exact filed before

/-- A component that keeps its place has kept it when the template has run. -/
theorem empty_of_stays (stays : rendering.stays = true) :
    rendering.reached.mounted.get? rendering.component.id = some none := by
  obtain ⟨store, same⟩ := rendering.exists_after_eq
  exact World.get?_of_destroyAll (same ▸ stays_iff.mp stays)

/-- A place that is empty when a rendering is over is not the one of its component, and was empty
when the template had run. -/
theorem empty_of_settled (kept : rendering.settled.mounted.get? id = some none) :
    id ≠ rendering.component.id ∧ rendering.reached.mounted.get? id = some none := by
  rcases cases_of_settled kept with ⟨_, _, impossible⟩ | before
  · cases impossible
  · refine ⟨fun own => ?_, before⟩
    subst own
    rw [get?_settled] at kept
    split at kept
    · cases kept
    · next lost => exact lost ⟨rfl, stays_iff.mpr kept⟩

end Rendering

namespace World

variable {world after : World} {id : String} {events : List Event}

theorem get?_takeOut (world : World) (id other : String) : (world.takeOut id).mounted.get? other =
    if other = id then some none else world.mounted.get? other := get?_insert_eq

theorem contains_takeOut (there : world.contains id = true) (other : String) :
    (world.takeOut id).contains other = world.contains other := by
  rw [contains_eq, get?_takeOut]
  split
  · next same => rw [same, there]; rfl
  · rfl

namespace Goes

variable (goes : Goes Alike world events after)

include goes

theorem filed (filed : world.Filed) : after.Filed := by
  induction goes with
  | still alike => exact alike.filed filed
  | mounts => exact Filed.put filed _
  | destroys => exact fun there => filed (get?_of_destroyAll there)
  | renders stands taken _ _ ih =>
    rw [taken] at ih
    exact Rendering.filed_settled (ih (filed.takeOut _))
  | trans _ _ first second => exact second (first filed)

/-- **A place that is kept for a component was kept for it all the time**: the component did not come,
and was not rendered. -/
theorem empty (kept : after.mounted.get? id = some none) :
    world.mounted.get? id = some none ∧ ∀ event ∈ events, event.tells id = false := by
  induction goes with
  | still alike => exact ⟨alike.empty kept, by simp⟩
  | @mounts world component free view =>
    change (world.mounted.insert component.id (some component)).get? id = _ at kept
    rw [get?_insert_eq] at kept
    split at kept
    · cases kept
    · next ne => exact ⟨kept, by simpa [Event.tells] using Ne.symm ne⟩
  | destroys => exact ⟨get?_of_destroyAll kept, by simp [Event.tells]⟩
  | @renders world rendering place stands taken _ _ ih =>
    obtain ⟨ne, before⟩ := Rendering.empty_of_settled kept
    obtain ⟨empty, quiet⟩ := ih before
    rw [taken, get?_takeOut, if_neg ne] at empty
    refine ⟨empty, fun event member => ?_⟩
    rcases List.mem_append.mp member with member | member
    · exact quiet event member
    · simp only [Rendering.ends, List.mem_cons, List.not_mem_nil, or_false] at member
      rcases member with rfl | rfl
      · rfl
      · simpa [Event.tells] using Ne.symm ne
  | trans _ _ first second =>
    obtain ⟨middle, silent⟩ := second kept
    obtain ⟨before, quiet⟩ := first middle
    exact ⟨before, fun event member => (List.mem_append.mp member).elim (quiet event) (silent event)⟩

end Goes

/-- While the child of a call is found, it may come. -/
theorem goes_of_found {rendering : Rendering} {call : Scope.Call RenderState}
    (found : Found rendering.component.definition call.className call.id call.world.world after) :
    Goes Rests call.world.world (rendering.mountsOf call) after := by
  unfold Rendering.mountsOf
  cases found with
  | there known =>
    rw [if_neg known]
    exact .still (.refl _)
  | mounted new named _ view =>
    rw [if_pos new]
    obtain ⟨_, free⟩ := new
    rw [← named] at free ⊢
    exact .mounts free view

end World

/-! ### A rendering goes through its events -/

namespace Rendering

variable {rendering : Rendering}

/-- The rendering of a component in its place goes through its events. -/
def Goes (rendering : Rendering) : Prop := ∀ (world : World) (place : Option (String × Nat)),
  world.Filed → world.mounted.get? rendering.component.id = some (some rendering.component) →
  rendering.world = world.takeOut rendering.component.id →
  (∀ id part, place = some (id, part) → rendering.settled.mounted.get? id = some none) →
  World.Goes World.Rests world (rendering.events place) rendering.settled

section

variable {nesting : Nat}
  (within : ∀ call inner, rendering.inner? call = some inner → inner.Goes)

include within

/-- Along its way, a rendering goes through the events of its calls. What comes later is part of the
statement: it tells that the place of the component is still there when a child is shown in it. -/
theorem goes_path (depth : rendering.nesting = nesting + 1) {before after : RenderState × Store}
    {calls : List (Scope.Call RenderState)} (filed : before.1.world.Filed)
    (path : (scope nesting rendering.component).Path before calls after) :
    after.1.world.Filed ∧
      (∀ call ∈ calls, ∀ inner, rendering.inner? call = some inner → inner.component.id = call.id) ∧
      ∀ later finish, World.Goes World.Rests after.1.world later finish →
        (rendering.stays = true → finish.mounted.get? rendering.component.id = some none) →
        World.Goes World.Rests before.1.world (calls.zipIdx.flatMap rendering.eventsOf ++ later)
          finish := by
  induction path with
  | start => exact ⟨filed, by simp, fun _ _ goes _ => goes⟩
  | quiet _ move ih =>
    obtain ⟨there, named, goes⟩ := ih
    have rests := rests_of_quiet move
    exact ⟨rests.filed there, named, fun later finish further kept =>
      goes later finish (.trans (.still rests) further) kept⟩
  | @child calls state store path className id ih =>
    obtain ⟨there, named, goes⟩ := ih
    have answers := rendering.answers depth ⟨className, id, state, store⟩
    dsimp only at answers
    rw [List.zipIdx_append, List.flatMap_append]
    simp only [List.zipIdx_cons, List.zipIdx_nil, List.flatMap_cons, List.flatMap_nil,
      List.append_nil, List.append_assoc]
    cases answers with
    | unfound unmet _ found =>
      have finding := World.goes_of_found found
      refine ⟨(finding.mono World.alike_of_rests).filed there, fun call member inner leads => ?_,
        fun later finish further kept => goes _ _ (.trans ?_ further) kept⟩
      · rcases List.mem_append.mp member with early | last
        · exact named call early inner leads
        · cases List.mem_singleton.mp last
          cases unmet.symm.trans leads
      · simp only [eventsOf, unmet, List.append_nil]
        exact finding
    | @rendered inner world leads found stands taken _ _ settled =>
      have finding := World.goes_of_found found
      have standing : world.Filed := (finding.mono World.alike_of_rests).filed there
      have own := standing stands
      rw [← own] at stands
      have returns := within _ _ leads world
      rw [settled]
      refine ⟨((returns none standing stands taken (by simp)).mono World.alike_of_rests).filed standing,
        fun call member other leads' => ?_,
        fun later finish further kept => goes _ _ (.trans ?_ further) kept⟩
      · rcases List.mem_append.mp member with early | last
        · exact named call early other leads'
        · cases List.mem_singleton.mp last
          cases leads.symm.trans leads'
          exact own
      · simp only [eventsOf, leads]
        refine finding.trans (returns _ standing stands taken fun parent part shown => ?_)
        obtain ⟨rfl, stays, _⟩ := placeOf_eq_some_iff.mp shown
        exact ((further.mono World.alike_of_rests).empty (kept stays)).1

end

/-- **A rendering in its place goes through its events.** -/
theorem goes_settled (rendering : Rendering) : rendering.Goes := by
  induction rendering using induct with
  | step rendering within =>
    intro world place filed stands taken parent
    refine .renders stands taken ?_ parent
    rw [inside_eq]
    rcases rendering.exists_path with ⟨none, same⟩ | ⟨nesting, own, stored, depth, path⟩
    · rw [none, same]
      exact .still (.refl _)
    · have begun : rendering.world.Filed := taken ▸ filed.takeOut _
      have goes := (goes_path within depth begun path).2.2 [] _ (.still (.refl _)) fun stays => ?_
      · rwa [List.append_nil] at goes
      · exact empty_of_stays stays

/-- A call leads to a component of the id that it is for. -/
theorem id_of_inner (filed : rendering.world.Filed) {call : Scope.Call RenderState}
    (called : call ∈ rendering.calls) {inner : Rendering} (leads : rendering.inner? call = some inner) :
    inner.component.id = call.id := by
  rcases rendering.exists_path with ⟨none, _⟩ | ⟨nesting, own, stored, depth, path⟩
  · rw [none] at called
    cases called
  · exact (goes_path (fun _ inner _ => inner.goes_settled) depth filed path).2.1 call called inner leads

/-- What a call leads to is rendered inside. -/
theorem renders_mem_inside {index : Nat} {call : Scope.Call RenderState}
    (called : rendering.calls[index]? = some call) {inner : Rendering}
    (leads : rendering.inner? call = some inner) :
    .renders inner (rendering.placeOf index) ∈ rendering.inside := by
  rw [inside_eq]
  refine List.mem_flatMap.mpr ⟨(call, index), List.mem_zipIdx_iff_getElem?.mpr called, ?_⟩
  simp only [eventsOf, leads]
  exact List.mem_append_right _ (List.mem_append_right _ (List.mem_cons_of_mem _
    (List.mem_singleton_self _)))

end Rendering

end ReactiveView
