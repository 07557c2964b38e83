/-
**Turns of components that show no child.**

A component whose templates call for no child shows none, in every session. If all components are of this
kind, and the variables of the session that they declare have values, then a turn of one of them changes
nothing that another one is made of: the others stay as they are, the variables of the session keep their
values, and so does every node.

* `World.Goes.bare`, `Session.bare_reached` — a component that calls for no child shows none.
* `Cycle.Turned`, `Cycle.turned_renderOne` — what a turn changes, and what it sends.
* `Cycle.Passes`, `Cycle.passes_renderAll` — what the turns of others leave as it is.
-/

import ReactiveView.Proofs.Component.Likeness
import ReactiveView.Proofs.Session.Delivery
import ReactiveView.Proofs.Session.Renewal

namespace ReactiveView

open Render

/-! ### Components that show no child -/

/-- A component whose templates call for no child shows none after a rendering. -/
theorem Rendering.bare_rendered {rendering : Rendering}
    (solitary : rendering.component.definition.Solitary)
    (bare : rendering.component.view.children.flatten = []) :
    rendering.rendered.view.children.flatten = [] := by
  cases rendering.course with
  | refused _ same => rwa [same]
  | failed _ _ _ _ same => rwa [same]
  | @done nesting template slots view own reached stored _ found _ ran _ _ _ _ _ same =>
    obtain ⟨_, rfl⟩ : _ ∧ view = rendering.component.view.commit template.variant slots := by
      have committed := (slots_of_render (congrArg Prod.fst ran)).2
      rwa [ran] at committed
    have twin := @World.render_scopeOf (World.renderChild (World.renderNested nesting)
      rendering.component.definition) rendering.component rendering.world solitary template found
      rendering.dirty rendering.component.view rendering.world.config rendering.store
    unfold scope at ran
    rw [ran] at twin
    rcases here : Render.render template rendering.dirty rendering.component.view
      (Scope.ofReached rendering.component.definition rendering.component.owner
        rendering.world.identity) rendering.world.config
      (rendering.world.variablesOf rendering.component) rendering.store with ⟨answer, shown, after⟩
    rw [here] at twin
    obtain ⟨rfl, -⟩ := twin
    rw [same]
    exact ClientView.alone_commit bare _ (World.bare_of_render here).1

namespace World

variable {world after : World}

/-- **Components whose templates call for no child show none.** -/
def Bare (world : World) : Prop := ∀ ⦃id component⦄,
  world.mounted.get? id = some (some component) → component.definition.Solitary →
    component.view.children.flatten = []

theorem Goes.bare {events : List Event} (goes : Goes Alike world events after) (bare : world.Bare) :
    after.Bare := by
  induction goes with
  | still alike =>
    intro id component there solitary
    obtain ⟨old, found, same⟩ := alike.exists_of_get? there
    have kept : old.definition = component.definition :=
      congrArg (fun likeness => likeness.2.1) same
    have view : old.view.children = component.view.children :=
      congrArg (fun likeness => likeness.2.2.children) same
    rw [← view]
    exact bare found (kept ▸ solitary)
  | @mounts world mounted free view =>
    intro id component there solitary
    have places : ((world.put mounted).emit mounted.id (.status .subscribed)).mounted.get? id =
        if id = mounted.id then some (some mounted) else world.mounted.get? id := get?_insert_eq
    rw [places] at there
    split at there
    · cases there
      rw [view]
      rfl
    · exact bare there solitary
  | destroys => exact fun _ _ there => bare (get?_of_destroyAll there)
  | @renders world rendering place stands taken _ _ ih =>
    have inside : rendering.world.Bare := by
      intro id component there
      rw [taken, get?_takeOut] at there
      split at there
      · cases there
      · exact bare there
    intro id component there solitary
    rcases Rendering.cases_of_settled there with ⟨rfl, _, same⟩ | before
    · cases same
      have kind := rendering.rendered_face.2.1 ▸ solitary
      exact Rendering.bare_rendered kind (bare stands kind)
    · exact ih inside before solitary
  | trans _ _ first second => exact second (first bare)

end World

namespace Cycle

/-- **A cycle when all that was asked is done**, and before anything is rendered. -/
def executed (world : World) (request : Request) (store : Store) : Cycle :=
  (start world store).perform request

end Cycle

namespace Session

/-- In every session components whose templates call for no child show none. -/
theorem bare_reached (config : Config) (entries : List Entry) :
    (reached config entries).world.Bare := by
  rcases goes_reached config entries with ⟨_, goes⟩ | finished
  · exact goes.bare fun _ _ there => by cases there
  · intro id component there
    rw [finished.gone] at there
    cases there

end Session

/-! ### What a turn changes -/

namespace World

/-- All components are of some kind. -/
def Of (kind : ComponentDef → Prop) (world : World) : Prop := ∀ ⦃id component⦄,
  world.mounted.get? id = some (some component) → kind component.definition

/-- The variables of the session that components declare have values. -/
def Stored (world : World) : Prop := ∀ ⦃id component⦄,
  world.mounted.get? id = some (some component) →
    Variables.Stored component.definition world.shared

theorem Of.alike {kind : ComponentDef → Prop} {world after : World} (alike : world.Alike after)
    (all : world.Of kind) : after.Of kind := by
  intro id component there
  obtain ⟨old, found, same⟩ := alike.exists_of_get? there
  have kept : old.definition = component.definition := congrArg (fun likeness => likeness.2.1) same
  exact kept ▸ all found

end World

/-- The result of rendering a component that shows no child, by the variables that it reaches. -/
theorem World.Renders.result_eq {world after : World} {component : Instance} {dirty : Dirty}
    {store stored : Store} {result : Except Error Rendered}
    (renders : world.Renders component dirty store result after stored) :
    result = match component.definition.template component.variant with
      | .error error => .error error
      | .ok template => (Render.render template dirty component.view
        (Scope.ofReached component.definition component.owner world.identity) world.config
        (world.variablesOf component) store).1 := by
  cases renders with
  | failed refused unknown =>
    split
    · next known => exact congrArg _ (unknown known)
    · next known => exact (refused known).symm
  | done found ran =>
    rw [found]
    dsimp only
    rw [ran]

namespace Cycle

/-- What is sent of a component for the result of its rendering. -/
def envelopesOf (config : Config) (component : Instance) : Except Error Rendered → List Envelope
  | .error error =>
    [⟨component.id,
      .error (Diagnostic.html component.definition.className error config.diagnostics)⟩]
  | .ok rendered =>
    if rendered.isEmpty then [] else [⟨component.id, .render rendered.markup⟩]

theorem component_of_mem_envelopesOf {config : Config} {component : Instance}
    {result : Except Error Rendered} {envelope : Envelope}
    (member : envelope ∈ envelopesOf config component result) : envelope.component = component.id := by
  cases result with
  | error error => rw [List.mem_singleton.mp member]
  | ok rendered =>
    rw [envelopesOf] at member
    cases empty : rendered.isEmpty with
    | true =>
      rw [empty] at member
      cases member
    | false =>
      rw [empty] at member
      rw [List.mem_singleton.mp member]

/-- **What a turn of a component changes**: the component itself, and what is sent of it. -/
structure Turned (component : Instance) (result : Except Error Rendered) (before after : Cycle) :
    Prop where
  others : ∀ {id}, id ≠ component.id →
    after.world.mounted.get? id = before.world.mounted.get? id
  own : ∀ {held}, after.world.mounted.get? component.id = some (some held) →
    held.id = component.id ∧ held.definition = component.definition ∧
      held.view.children.flatten = []
  values : component.definition.Regular → Variables.Stored component.definition before.world.shared →
    after.world.shared = before.world.shared ∧ before.store.Extends after.store
  identity : after.world.identity = before.world.identity
  config : after.world.config = before.world.config
  outgoing : after.world.outgoing =
    before.world.outgoing ++ envelopesOf before.world.config component result

/-- **One turn of a component that shows no child.** -/
theorem turned_renderOne {cycle : Cycle} {component : Instance}
    (solitary : component.definition.Solitary) (bare : component.view.children.flatten = [])
    (inlined : List String) (dirty : Dirty) :
    Turned component (cycle.world.render component dirty cycle.store).1 cycle
        (cycle.renderOne inlined component dirty).1 ∧
      (cycle.renderOne inlined component dirty).2 = inlined := by
  have renders : cycle.world.Renders component dirty cycle.store _ _ _ :=
    World.renders_render solitary bare dirty cycle.store
  unfold renderOne
  generalize cycle.world.render component dirty cycle.store = answer at renders ⊢
  obtain ⟨result, world, store⟩ := answer
  dsimp only at renders ⊢
  have others (held : Instance) (left : Variables) {id : String} (ne : id ≠ held.id) :
      (cycle.world.update held left).mounted.get? id = cycle.world.mounted.get? id :=
    (World.get?_update ..).trans (if_neg ne)
  cases renders with
  | @failed error left store _ _ path =>
    have known : (cycle.world.update component left).instance? component.id =
        .ok { component with container := left.own } :=
      World.instance?_eq_ok_iff.mpr ((World.get?_update ..).trans (if_pos rfl))
    simp only [fail, known]
    refine ⟨⟨fun {id} ne => ?_, fun {held} there => ?_,
      fun regular stored => Variables.own_of_steps regular stored path, rfl, rfl, rfl⟩, trivial⟩
    · exact (World.get?_insert_eq.trans (if_neg ne)).trans (others component left ne)
    · cases (World.get?_insert_eq.trans (if_pos rfl)).symm.trans there
      exact ⟨rfl, rfl, bare⟩
  | @done template rendered view left store found ran path =>
    obtain ⟨none, within⟩ := World.bare_of_render ran
    obtain ⟨_, rfl⟩ : _ ∧ view = component.view.commit template.variant rendered := by
      have committed := (slots_of_render (congrArg Prod.fst ran)).2
      rwa [ran] at committed
    have own {held : Instance} (there : (cycle.world.update
        { component with view := component.view.commit template.variant rendered }
        left).mounted.get? component.id = some (some held)) : held.id = component.id ∧
          held.definition = component.definition ∧ held.view.children.flatten = [] := by
      cases ((World.get?_update ..).trans (if_pos rfl)).symm.trans there
      exact ⟨rfl, rfl, ClientView.alone_commit bare template.variant none⟩
    dsimp only
    rw [within, List.append_nil]
    cases empty : rendered.isEmpty with
    | true =>
      refine ⟨⟨others { component with view := component.view.commit template.variant rendered } left,
        own, fun regular stored => Variables.own_of_steps regular stored path, rfl, rfl, ?_⟩, rfl⟩
      simp only [envelopesOf, empty, if_true, List.append_nil]
      rfl
    | false =>
      refine ⟨⟨others { component with view := component.view.commit template.variant rendered } left,
        own, fun regular stored => Variables.own_of_steps regular stored path, rfl, rfl, ?_⟩, rfl⟩
      simp only [envelopesOf, empty, Bool.false_eq_true, if_false]
      rfl

/-- **Components that are rendered on their own**: each is of a kind, stands in its place, and shows no
child if its templates call for none. -/
structure Apart (kind : ComponentDef → Prop) (cycle : Cycle) : Prop where
  kind : cycle.world.Of kind
  filed : cycle.world.Filed
  bare : cycle.world.Bare

section

variable {kind : ComponentDef → Prop} {cycle before after : Cycle} {id : String}
  {component : Instance} {result : Except Error Rendered}

/-- After a turn a component is as it was, or it has had its turn. -/
theorem Turned.exists_of_get? (turned : Turned component result before after)
    (there : before.world.mounted.get? component.id = some (some component)) {held : Instance}
    (found : after.world.mounted.get? id = some (some held)) :
    ∃ old, before.world.mounted.get? id = some (some old) ∧ held.id = old.id ∧
      held.definition = old.definition ∧
      (old.view.children.flatten = [] → held.view.children.flatten = []) := by
  by_cases same : id = component.id
  · subst same
    obtain ⟨named, kind, bare⟩ := turned.own found
    exact ⟨component, there, named, kind, fun _ => bare⟩
  · exact ⟨held, turned.others same ▸ found, rfl, rfl, fun bare => bare⟩

/-- **A turn of a component** among components that are rendered on their own. -/
theorem Apart.turn (apart : cycle.Apart kind) (solitary : ∀ definition, kind definition →
      definition.Solitary) (there : cycle.world.mounted.get? id = some (some component))
    (inlined : List String) (dirty : Dirty) : component.id = id ∧
      Turned component (cycle.world.render component dirty cycle.store).1 cycle
        (cycle.renderOne inlined component dirty).1 ∧
      (cycle.renderOne inlined component dirty).2 = inlined ∧
      (cycle.renderOne inlined component dirty).1.Apart kind := by
  obtain rfl : component.id = id := apart.filed there
  have own := solitary _ (apart.kind there)
  obtain ⟨turned, same⟩ := turned_renderOne own (apart.bare there own) inlined dirty
  refine ⟨rfl, turned, same, fun _ _ found => ?_, fun found => ?_, fun _ _ found solitary => ?_⟩ <;>
    obtain ⟨known, found, named, same, bare⟩ := turned.exists_of_get? there found
  · exact same ▸ apart.kind found
  · exact named.trans (apart.filed found)
  · exact bare (apart.bare found (same ▸ solitary))

/-- All turns of a cycle. -/
theorem Apart.renderAll (apart : cycle.Apart kind)
    (solitary : ∀ definition, kind definition → definition.Solitary)
    (affected : List (String × Dirty)) : (cycle.renderAll [] affected).Apart kind := by
  induction affected generalizing cycle with
  | nil => exact apart
  | cons first rest ih =>
    obtain ⟨other, dirty⟩ := first
    unfold Cycle.renderAll
    rw [if_neg (by simp)]
    cases known : cycle.world.instance? other with
    | error error => exact ih apart
    | ok component =>
      obtain ⟨_, _, none, next⟩ :=
        apart.turn solitary (World.instance?_eq_ok_iff.mp known) [] dirty
      dsimp only
      generalize cycle.renderOne [] component dirty = turn at none next ⊢
      obtain ⟨cycle, inlined⟩ := turn
      subst none
      exact ih next

end

/-! ### What the turns of others leave as it is -/

/-- **Nothing happens to a component**, nor to the values that it reaches, and nothing is sent of it. -/
structure Passes (id : String) (before after : Cycle) : Prop where
  place : after.world.mounted.get? id = before.world.mounted.get? id
  shared : after.world.shared = before.world.shared
  identity : after.world.identity = before.world.identity
  config : after.world.config = before.world.config
  lasts : before.store.Extends after.store
  outgoing : ∃ envelopes, after.world.outgoing = before.world.outgoing ++ envelopes ∧
    ∀ envelope ∈ envelopes, envelope.component ≠ id

theorem Passes.refl (id : String) (cycle : Cycle) : Passes id cycle cycle :=
  ⟨rfl, rfl, rfl, rfl, .refl _, [], (List.append_nil _).symm, by simp⟩

theorem Passes.trans {id : String} {before middle after : Cycle} (early : Passes id before middle)
    (late : Passes id middle after) : Passes id before after where
  place := late.place.trans early.place
  shared := late.shared.trans early.shared
  identity := late.identity.trans early.identity
  config := late.config.trans early.config
  lasts := early.lasts.trans late.lasts
  outgoing := by
    obtain ⟨first, sent, others⟩ := early.outgoing
    obtain ⟨second, sent', others'⟩ := late.outgoing
    refine ⟨first ++ second, by rw [sent', sent, List.append_assoc], fun envelope member => ?_⟩
    exact (List.mem_append.mp member).elim (others envelope) (others' envelope)

section

variable {cycle before after : Cycle} {id : String} {component : Instance}
  {result : Except Error Rendered}

theorem Turned.passes (turned : Turned component result before after)
    (regular : component.definition.Regular)
    (stored : Variables.Stored component.definition before.world.shared) (ne : component.id ≠ id) :
    Passes id before after where
  place := turned.others ne.symm
  shared := (turned.values regular stored).1
  identity := turned.identity
  config := turned.config
  lasts := (turned.values regular stored).2
  outgoing := ⟨_, turned.outgoing, fun _ member => by
    rwa [component_of_mem_envelopesOf member]⟩

/-- **A turn of a regular component**, if the variables of the session have values. -/
theorem Apart.turnStored (apart : cycle.Apart ComponentDef.Regular) (stored : cycle.world.Stored)
    (there : cycle.world.mounted.get? id = some (some component)) (dirty : Dirty) :
    component.id = id ∧
      Turned component (cycle.world.render component dirty cycle.store).1 cycle
        (cycle.renderOne [] component dirty).1 ∧
      (∀ other, other ≠ id → Passes other cycle (cycle.renderOne [] component dirty).1) ∧
      (cycle.renderOne [] component dirty).2 = [] ∧
      (cycle.renderOne [] component dirty).1.Apart ComponentDef.Regular ∧
      (cycle.renderOne [] component dirty).1.world.Stored := by
  obtain ⟨rfl, turned, none, next⟩ :=
    apart.turn (fun _ regular => regular.toSolitary) there [] dirty
  have own := apart.kind there
  refine ⟨rfl, turned, fun other ne => turned.passes own (stored there) ne.symm, none, next,
    fun _ _ found => ?_⟩
  obtain ⟨known, found, _, same, _⟩ := turned.exists_of_get? there found
  rw [(turned.values own (stored there)).1, same]
  exact stored found

/-- **The turns of others pass a component by.** -/
theorem Apart.passes_renderAll (apart : cycle.Apart ComponentDef.Regular)
    (stored : cycle.world.Stored) {affected : List (String × Dirty)}
    (absent : id ∉ affected.map Prod.fst) : Passes id cycle (cycle.renderAll [] affected) := by
  induction affected generalizing cycle with
  | nil => exact .refl id cycle
  | cons first rest ih =>
    obtain ⟨other, dirty⟩ := first
    rw [List.map_cons, List.mem_cons, not_or] at absent
    unfold Cycle.renderAll
    rw [if_neg (by simp)]
    cases known : cycle.world.instance? other with
    | error error => exact ih apart stored absent.2
    | ok component =>
      obtain ⟨_, _, passes, none, next, held⟩ :=
        apart.turnStored stored (World.instance?_eq_ok_iff.mp known) dirty
      have passed := passes id absent.1
      dsimp only
      generalize cycle.renderOne [] component dirty = turn at none next held passed ⊢
      obtain ⟨cycle, inlined⟩ := turn
      subst none
      exact passed.trans (ih next held absent.2)

/-- **The turn of one component, among those of others.** -/
theorem Apart.exists_turn (apart : cycle.Apart ComponentDef.Regular) (stored : cycle.world.Stored)
    {dirty : Dirty} {affected : List (String × Dirty)} (once : (affected.map Prod.fst).Nodup)
    (member : (id, dirty) ∈ affected)
    (there : cycle.world.mounted.get? id = some (some component)) :
    ∃ middle last, Passes id cycle middle ∧ middle.Apart ComponentDef.Regular ∧
      Turned component (middle.world.render component dirty middle.store).1 middle last ∧
      Passes id last (cycle.renderAll [] affected) := by
  induction affected generalizing cycle with
  | nil => cases member
  | cons first rest ih =>
    obtain ⟨other, dirties⟩ := first
    rw [List.map_cons, List.nodup_cons] at once
    unfold Cycle.renderAll
    rw [if_neg (by simp)]
    rcases List.mem_cons.mp member with here | later
    · cases here
      obtain ⟨_, turned, _, none, next, held⟩ := apart.turnStored stored there dirty
      rw [World.instance?_eq_ok_iff.mpr there]
      dsimp only
      generalize cycle.renderOne [] component dirty = turn at turned none next held ⊢
      obtain ⟨last, inlined⟩ := turn
      subst none
      exact ⟨cycle, last, .refl id cycle, apart, turned, next.passes_renderAll held once.1⟩
    · have ne : id ≠ other := fun same =>
        once.1 (same ▸ List.mem_map.mpr ⟨(id, dirty), later, rfl⟩)
      cases known : cycle.world.instance? other with
      | error error => exact ih apart stored once.2 later there
      | ok first =>
        obtain ⟨_, _, passes, none, next, held⟩ :=
          apart.turnStored stored (World.instance?_eq_ok_iff.mp known) dirties
        have passed := passes id ne
        dsimp only
        generalize cycle.renderOne [] first dirties = turn at none next held passed ⊢
        obtain ⟨after, inlined⟩ := turn
        subst none
        obtain ⟨middle, last, early, separate, turned, late⟩ :=
          ih next held once.2 later (passed.place.trans there)
        exact ⟨middle, last, passed.trans early, separate, turned, late⟩

end

end Cycle

/-! ### The components of a session -/

/-- When nothing happens, all components are there as before. -/
theorem World.Goes.alike_of_quiet {world after : World} {events : List Event}
    (goes : World.Goes World.Alike world events after) (quiet : events = []) : world.Alike after := by
  induction goes with
  | still alike => exact alike
  | mounts => cases quiet
  | destroys => cases quiet
  | @renders world rendering place =>
    have last := (List.append_eq_nil_iff.mp quiet).2
    cases last
  | trans _ _ early late =>
    obtain ⟨first, second⟩ := List.append_eq_nil_iff.mp quiet
    have before := early first
    have after := late second
    exact ⟨fun id => (after.places id).trans (before.places id), after.ids.trans before.ids⟩

namespace Session

variable {config : Config} {entries : List Entry} {kind : ComponentDef → Prop}

/-- What is asked is done without a change to what components are. -/
theorem alike_executed {world : World} (filed : world.Filed) (request : Request) (store : Store) :
    world.Alike (Cycle.executed world request store).world :=
  ((@Cycle.goes_perform (Cycle.start world store) filed request).mono
    World.alike_of_lingers).alike_of_quiet rfl

/-- When a cycle of a session has done what was asked, components have their places, and those whose
templates call for no child show none. -/
theorem apart_executed {entry : Entry} {world : World} {request : Request} {store : Store}
    (runs : (reached config entries).cycle? entry = some (world, request, store))
    (all : (Cycle.executed world request store).world.Of kind) :
    (Cycle.executed world request store).Apart kind := by
  have begun := (goes_asked runs).mono World.alike_of_rests
  have filed : world.Filed := begun.filed (covered_reached config entries).1
  have alike := alike_executed filed request store
  exact ⟨all, alike.filed filed,
    World.Goes.bare (.still alike) (begun.bare (bare_reached config entries))⟩

/-- A cycle starts in the world as it is, or with one more component. -/
theorem starts_of_cycle {session : Session} (filed : session.world.Filed) {entry : Entry}
    {world : World} {request : Request} {store : Store}
    (runs : session.cycle? entry = some (world, request, store)) : session.Starts entry world := by
  have entered := session.entered filed entry
  generalize (session.enter entry).sent = sent, (session.enter entry).session.world = after at entered
  cases entered with
  | stands _ idle | disconnected idle | unmounted _ idle =>
    rw [idle] at runs
    cases runs
  | ran found starts =>
    cases found.symm.trans runs
    exact starts

/-- When a cycle has done what was asked, all components are of a kind if they were before, and one that
was mounted is of it. -/
theorem of_executed (all : (reached config entries).world.Of kind) {entry : Entry}
    (mounted : ∀ id definition, entry = .mount id definition → kind definition) {world : World}
    {request : Request} {store : Store}
    (runs : (reached config entries).cycle? entry = some (world, request, store)) :
    (Cycle.executed world request store).world.Of kind := by
  have filed : (reached config entries).world.Filed := (covered_reached config entries).1
  have starts := starts_of_cycle filed runs
  refine World.Of.alike (alike_executed (((goes_asked runs).mono World.alike_of_rests).filed filed)
    request store) ?_
  cases starts with
  | here => exact all
  | @mounted component free view =>
    intro id held there
    rcases get?_insert_eq_some there with ⟨rfl, same⟩ | ⟨_, there⟩
    · cases same
      exact mounted _ _ rfl
    · exact all there

/-- **All components of a session are of a kind** if all that were mounted are, and its templates call for
no child. -/
theorem of_reached (solitary : ∀ definition, kind definition → definition.Solitary)
    (mounted : ∀ id definition, .mount id definition ∈ entries → kind definition) :
    (reached config entries).world.Of kind := by
  induction entries with
  | nil => exact fun _ _ there => by cases there
  | cons entry earlier ih =>
    have all : (reached config earlier).world.Of kind := ih fun id definition member =>
      mounted id definition (List.mem_cons_of_mem _ member)
    have filed : (reached config earlier).world.Filed := (covered_reached config earlier).1
    have entered := (reached config earlier).entered filed entry
    change World.Of kind ((reached config earlier).enter entry).session.world
    generalize ((reached config earlier).enter entry).sent = sent,
      ((reached config earlier).enter entry).session.world = after at entered
    cases entered with
    | stands stands => exact all.alike (World.lingers_of_stands stands).toAlike
    | disconnected _ gone =>
      intro id component there
      rw [gone] at there
      cases there
    | unmounted ids => exact fun _ _ there => all (World.get?_of_destroyAll there)
    | @ran world request store runs starts =>
      have executed := of_executed all (fun id definition same =>
        mounted id definition (same ▸ List.mem_cons_self)) runs
      exact ((apart_executed runs executed).renderAll solitary _).kind

end Session

end ReactiveView
