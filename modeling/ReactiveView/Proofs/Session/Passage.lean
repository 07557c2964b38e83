/-
**What a rendering sends, and what it makes of the views.**

While a component is rendered, nothing is sent but news of components that come and go, and the views
that come to be held in full are those of components that were rendered inside of it. This is so
whether or not the rendering succeeds, and there lies the trouble with one that fails: what was
rendered inside of it is held to be with the client, and no markup was sent.

* `ClientView.Held` — a view that counts as being with the client.
* `Rendering.Inlines` — the components that are rendered inside with success.
* `World.Passes` — news, places and held views, before and after.
* `passes_after`, `passes_settled` — a rendering passes, before and after its component is put back.
-/

import ReactiveView.Proofs.Component.Built
import ReactiveView.Proofs.Session.Renderings

namespace ReactiveView

/-! ### Views that are held -/

/-- **A view counts as being with the client**, and there is something in it. -/
def ClientView.Held (view : ClientView) : Prop := view.staticSent = true ∧ view.fragments ≠ []

/-- The class of a component is built from drafts, and its view is one of a template of the class. -/
structure Instance.Sound (component : Instance) : Prop where
  built : component.definition.Built
  view : component.view.staticSent = true → ∃ variant template,
    component.definition.template variant = .ok template ∧ component.view.variant = some variant ∧
      component.view.fragments.length = template.parts.length

namespace World

variable {world middle after : World} {inlines more : String → Prop} {news later : List Envelope}
  {id : String}

/-- All components stand in the places of their ids, and are sound. -/
structure Sound (world : World) : Prop where
  filed : world.Filed
  components : ∀ {id component}, world.mounted.get? id = some (some component) → component.Sound

/-- A component stands in its place, and its view is held. -/
def Holds (world : World) (id : String) : Prop :=
  ∃ component, world.mounted.get? id = some (some component) ∧ component.view.Held

/-- **A change of the world** that sends some news, and after which the views of some components may
be held that were not. -/
structure Passes (before : World) (inlines : String → Prop) (news : List Envelope) (after : World) :
    Prop where
  sound : after.Sound
  outgoing : after.outgoing = before.outgoing ++ news
  status : ∀ envelope ∈ news, ∃ status id, envelope = .news status id
  /-- A place that is kept for a component was kept for it all the time. -/
  empty : ∀ id, after.mounted.get? id = some none →
    before.mounted.get? id = some none ∧ .news .subscribed id ∉ news
  /-- It is given up only if the component is destroyed. -/
  lost : ∀ id, before.mounted.get? id = some none → after.mounted.get? id ≠ some none →
    .news .destroyed id ∈ news
  came : ∀ id, before.contains id = true → .news .subscribed id ∈ news → .news .destroyed id ∈ news
  gone : ∀ id, before.contains id = true → after.contains id = false → .news .destroyed id ∈ news
  holds : ∀ id, after.Holds id → inlines id ∨ (before.Holds id ∧ .news .subscribed id ∉ news)

theorem Passes.imp (passes : world.Passes inlines news after)
    (imp : ∀ id, inlines id → more id) : world.Passes more news after :=
  { passes with holds := fun id held => (passes.holds id held).imp_left (imp id) }

theorem Passes.trans (first : world.Passes inlines news middle)
    (second : middle.Passes more later after) :
    world.Passes (fun id => inlines id ∨ more id) (news ++ later) after where
  sound := second.sound
  outgoing := by rw [second.outgoing, first.outgoing, List.append_assoc]
  status envelope member :=
    (List.mem_append.mp member).elim (first.status envelope) (second.status envelope)
  empty id kept := by
    obtain ⟨middle, silent⟩ := second.empty id kept
    obtain ⟨before, quiet⟩ := first.empty id middle
    exact ⟨before, fun member => (List.mem_append.mp member).elim quiet silent⟩
  lost id kept lost := by
    by_cases still : middle.mounted.get? id = some none
    · exact List.mem_append_right _ (second.lost id still lost)
    · exact List.mem_append_left _ (first.lost id kept still)
  came id there member := by
    rcases List.mem_append.mp member with early | late
    · exact List.mem_append_left _ (first.came id there early)
    · cases still : middle.contains id with
      | true => exact List.mem_append_right _ (second.came id still late)
      | false => exact List.mem_append_left _ (first.gone id there still)
  gone id there absent := by
    cases still : middle.contains id with
    | true => exact List.mem_append_right _ (second.gone id still absent)
    | false => exact List.mem_append_left _ (first.gone id there still)
  holds id held := by
    rcases second.holds id held with inside | ⟨held, silent⟩
    · exact Or.inl (Or.inr inside)
    · rcases first.holds id held with inside | ⟨held, quiet⟩
      · exact Or.inl (Or.inl inside)
      · exact Or.inr ⟨held, fun member => (List.mem_append.mp member).elim quiet silent⟩

theorem passes_refl (sound : world.Sound) : world.Passes (fun _ => False) [] world where
  sound := sound
  outgoing := (List.append_nil _).symm
  status _ := nofun
  empty _ kept := ⟨kept, nofun⟩
  lost _ kept lost := absurd kept lost
  came _ _ := nofun
  gone id there absent := absurd (there.symm.trans absent) (by decide)
  holds _ held := Or.inr ⟨held, nofun⟩

theorem passes_of_rests (sound : world.Sound) (rests : world.Rests after) :
    world.Passes (fun _ => False) [] after where
  sound := ⟨rests.filed sound.filed, fun there => sound.components (rests.mounted ▸ there)⟩
  outgoing := rests.outgoing.trans (List.append_nil _).symm
  status _ := nofun
  empty _ kept := ⟨rests.mounted ▸ kept, nofun⟩
  lost _ kept lost := absurd (rests.mounted ▸ kept) lost
  came _ _ := nofun
  gone id there absent := by
    rw [contains_eq, rests.mounted, ← contains_eq, there] at absent
    cases absent
  holds _ := fun ⟨component, there, held⟩ =>
    Or.inr ⟨⟨component, rests.mounted ▸ there, held⟩, nofun⟩

/-- A destruction holds nothing new. -/
theorem passes_of_ended {ids gone : List String} (sound : world.Sound)
    (ended : Ended ids world gone after) :
    world.Passes (fun _ => False) (gone.map (.news .destroyed)) after where
  sound := by
    refine ⟨ended.filed sound.filed, fun there => ?_⟩
    rw [ended.places] at there
    split at there
    · cases there
    · exact sound.components there
  outgoing := ended.outgoing
  status envelope member := by
    obtain ⟨id, _, rfl⟩ := List.mem_map.mp member
    exact ⟨.destroyed, id, rfl⟩
  empty id kept := by
    rw [ended.places] at kept
    split at kept
    · cases kept
    · exact ⟨kept, by simp⟩
  lost id kept lost := by
    refine List.mem_map_of_mem ?_
    by_contra stays
    exact lost (by rw [ended.places, if_neg stays]; exact kept)
  came id _ member := by simp at member
  gone id there absent := by
    refine List.mem_map_of_mem ?_
    by_contra kept
    rw [contains_eq, ended.places, if_neg kept, ← contains_eq, there] at absent
    cases absent
  holds id := by
    rintro ⟨component, there, held⟩
    rw [ended.places] at there
    split at there
    · cases there
    · exact Or.inr ⟨⟨component, there, held⟩, by simp⟩

/-- A component is mounted, and the client has nothing of it. -/
theorem passes_mount {component : Instance} (sound : world.Sound)
    (built : component.definition.Built) (free : world.contains component.id = false)
    (view : component.view = ClientView.empty) :
    world.Passes (fun _ => False) [.news .subscribed component.id]
      ((world.put component).emit component.id (.status .subscribed)) := by
  have places (id : String) : ((world.put component).emit component.id
      (.status .subscribed)).mounted.get? id =
        if id = component.id then some (some component) else world.mounted.get? id := get?_insert_eq
  have absent {place : Option Instance} : world.mounted.get? component.id ≠ some place := by
    intro there
    rw [contains_eq, there] at free
    cases free
  have others {id : String} (ne : id ≠ component.id) :
      .news .subscribed id ∉ [Envelope.news .subscribed component.id] := by simpa using ne
  refine ⟨⟨Filed.put sound.filed component, fun {id other} there => ?_⟩, rfl, ?_, fun id kept => ?_,
    fun id kept lost => ?_, fun id there member => ?_, fun id there gone => ?_, ?_⟩
  · rw [places] at there
    split at there
    · cases there
      exact ⟨built, fun sent => by rw [view] at sent; cases sent⟩
    · exact sound.components there
  · exact fun envelope member => ⟨.subscribed, component.id, List.mem_singleton.mp member⟩
  · rw [places] at kept
    split at kept
    · cases kept
    · next ne => exact ⟨kept, others ne⟩
  · have ne : id ≠ component.id := fun same => absent (same ▸ kept)
    rw [places, if_neg ne] at lost
    exact absurd kept lost
  · by_cases same : id = component.id
    · rw [same, free] at there
      cases there
    · exact absurd member (others same)
  · rw [contains_eq, places] at gone
    split at gone
    · cases gone
    · rw [← contains_eq, there] at gone
      cases gone
  · rintro id ⟨other, there, held⟩
    rw [places] at there
    split at there
    · cases there
      have sent := held.1
      rw [view] at sent
      cases sent
    · next ne => exact Or.inr ⟨⟨other, there, held⟩, others ne⟩

/-- While the child of a call is found, nothing comes to be held. -/
theorem exists_passes_of_found {parent : ComponentDef} {className : String} (sound : world.Sound)
    (built : parent.Built) (found : Found parent className id world after) :
    ∃ news, world.Passes (fun _ => False) news after := by
  cases found with
  | there known => exact ⟨[], passes_refl sound⟩
  | mounted new named declared view =>
    subst named
    exact ⟨_, passes_mount sound (built.child declared) new.2 view⟩

end World

/-! ### Renderings -/

namespace Rendering

/-- **The components that a rendering renders inside of it**, with success, at any depth. -/
inductive Inlines : Rendering → String → Prop
  | child {rendering inner : Rendering} {call : Scope.Call RenderState} {rendered : Rendered}
    (called : call ∈ rendering.calls) (leads : rendering.inner? call = some inner)
    (ok : inner.result = .ok rendered) : Inlines rendering call.id
  | deeper {rendering inner : Rendering} {call : Scope.Call RenderState} {id : String}
    (called : call ∈ rendering.calls) (leads : rendering.inner? call = some inner)
    (inlines : Inlines inner id) : Inlines rendering id

variable {rendering : Rendering} {rendered : Rendered}

/-- A call inside of a rendering that succeeds leads to a rendering that succeeds, and all that this
one shows is shown. -/
theorem exists_inner_of_ok (ok : rendering.result = .ok rendered)
    {call : Scope.Call RenderState} (called : call ∈ rendering.calls) :
    ∃ inner within, rendering.inner? call = some inner ∧ inner.result = .ok within ∧
      ∀ id ∈ call.id :: within.renderedChildren, id ∈ rendered.renderedChildren := by
  cases rendering.course with
  | refused error =>
    rw [ok] at error
    cases error
  | failed _ _ _ error =>
    rw [ok] at error
    cases error
  | done depth _ _ _ answered _ within result =>
    cases result.symm.trans ok
    obtain ⟨index, bound, there⟩ := List.getElem_of_mem called
    obtain ⟨child, after, answer, same⟩ :=
      List.forall₂_iff_get.mp answered |>.2 index bound (answered.length_eq ▸ bound)
    simp only [List.get_eq_getElem, there] at answer same
    have answers := rendering.answers depth call
    rw [answer] at answers
    cases answers with
    | unfound _ error => cases error
    | @rendered inner _ leads _ _ _ _ answer =>
      cases result : inner.result with
      | error error =>
        rw [result] at answer
        cases answer
      | ok slots =>
        rw [result] at answer
        cases answer
        refine ⟨inner, slots, leads, result, fun id member => ?_⟩
        rw [within]
        exact List.mem_flatMap.mpr ⟨_, List.getElem_mem _, by rw [same]; exact member⟩

/-- **A rendering that succeeds tells of all components that it renders inside of it.** -/
theorem mem_renderedChildren_of_inlines {id : String} (inlines : rendering.Inlines id)
    (ok : rendering.result = .ok rendered) : id ∈ rendered.renderedChildren := by
  induction inlines generalizing rendered with
  | child called leads =>
    obtain ⟨inner, within, known, _, shown⟩ := exists_inner_of_ok ok called
    exact shown _ List.mem_cons_self
  | deeper called leads _ ih =>
    obtain ⟨inner, within, known, succeeds, shown⟩ := exists_inner_of_ok ok called
    cases leads.symm.trans known
    exact shown _ (List.mem_cons_of_mem _ (ih succeeds))

/-- What a rendering that succeeds has rendered. -/
theorem exists_render_of_ok (ok : rendering.result = .ok rendered) : ∃ (nesting : Nat)
    (template : Template) (reached : RenderState) (stored : Store),
    rendering.component.definition.template rendering.component.variant = .ok template ∧
      Render.render template rendering.dirty rendering.component.view
        (scope nesting rendering.component) rendering.world.config
        ⟨rendering.component.container, rendering.world⟩ rendering.store =
          (.ok rendered, rendering.rendered.view, reached, stored) := by
  cases rendering.course with
  | refused error =>
    rw [ok] at error
    cases error
  | failed _ _ _ error =>
    rw [ok] at error
    cases error
  | done _ known _ ran _ _ _ result same =>
    cases result.symm.trans ok
    rw [same]
    exact ⟨_, _, _, _, known, ran⟩

/-- A rendering that fails leaves the view as it was. -/
theorem view_of_error {error : Error} (failed : rendering.result = .error error) :
    rendering.rendered.view = rendering.component.view := by
  cases rendering.course with
  | refused _ same => rw [same]
  | failed _ _ _ _ same => rw [same]
  | done _ _ _ _ _ _ _ result =>
    rw [failed] at result
    cases result

theorem rendered_sound (sound : rendering.component.Sound) : rendering.rendered.Sound := by
  obtain ⟨_, same, _⟩ := rendering.rendered_face
  refine ⟨same ▸ sound.built, fun sent => ?_⟩
  cases result : rendering.result with
  | error error =>
    rw [view_of_error result] at sent ⊢
    exact same ▸ sound.view sent
  | ok rendered =>
    obtain ⟨_, template, _, _, known, ran⟩ := exists_render_of_ok result
    obtain ⟨variant, _, length, _⟩ := Render.view_of_render ran
    rw [sound.built.variant_eq known] at variant
    exact ⟨_, template, same ▸ known, variant, length⟩

/-- **Where not every part is sent, the view was held before.** -/
theorem held_of_thin (sound : rendering.component.Sound) (ok : rendering.result = .ok rendered)
    (thin : rendered.dense = false) (filled : rendered.slots ≠ []) :
    rendering.component.view.Held := by
  obtain ⟨_, template, _, _, known, ran⟩ := exists_render_of_ok ok
  obtain ⟨sent, same⟩ := Render.sent_of_thin ran thin
  obtain ⟨variant, other, known', variant', length⟩ := sound.view sent
  rw [same, sound.built.variant_eq known] at variant'
  cases variant'
  cases known.symm.trans known'
  refine ⟨sent, fun empty => filled ?_⟩
  rw [← List.length_eq_zero_iff, (Render.view_of_render ran).2.2.2, ← length, empty]
  rfl

/-! ### The passage -/

/-- **What comes to be held by a rendering in its place**: what is rendered inside, the component among
that only if it is destroyed first; and the component itself, if it succeeds and stays. -/
def Renews (rendering : Rendering) (news : List Envelope) (id : String) : Prop :=
  (rendering.Inlines id ∧ (id = rendering.component.id → .news .destroyed id ∈ news)) ∨
    id = rendering.component.id ∧ (∃ rendered, rendering.result = .ok rendered) ∧
      rendering.rendered.view.Held ∧ .news .subscribed id ∉ news

/-- The passage of a rendering, once its component is back in its place. -/
def Returns (rendering : Rendering) : Prop := ∀ world : World, world.Sound →
  world.mounted.get? rendering.component.id = some (some rendering.component) →
  rendering.world = world.takeOut rendering.component.id →
  ∃ news, world.Passes (rendering.Renews news) news rendering.settled

section

variable {nesting : Nat} (within : ∀ call inner, rendering.inner? call = some inner → inner.Returns)

include within

/-- Along the way of a rendering, only what is rendered inside comes to be held. -/
theorem exists_passes_path (depth : rendering.nesting = nesting + 1)
    (built : rendering.component.definition.Built) {before after : RenderState × Store}
    {calls : List (Scope.Call RenderState)} (known : ∀ call ∈ calls, call ∈ rendering.calls)
    (sound : before.1.world.Sound)
    (path : (scope nesting rendering.component).Path before calls after) :
    ∃ news, before.1.world.Passes rendering.Inlines news after.1.world := by
  induction path with
  | start => exact ⟨[], (World.passes_refl sound).imp fun _ => False.elim⟩
  | quiet _ move ih =>
    obtain ⟨news, passes⟩ := ih known
    have still := World.passes_of_rests passes.sound (rests_of_quiet move)
    exact ⟨_, (passes.trans still).imp fun _ => Or.rec id False.elim⟩
  | @child calls state store _ className id ih =>
    obtain ⟨news, passes⟩ := ih fun call member => known call (List.mem_append_left _ member)
    have called := known ⟨className, id, state, store⟩
      (List.mem_append_right _ (List.mem_singleton_self _))
    suffices here : ∃ news, state.world.Passes rendering.Inlines news
        ((scope nesting rendering.component).renderChild className id state store).2.1.world by
      obtain ⟨later, further⟩ := here
      exact ⟨_, (passes.trans further).imp fun _ => Or.rec (·) (·)⟩
    have answers := rendering.answers depth ⟨className, id, state, store⟩
    dsimp only at answers
    cases answers with
    | unfound unmet _ found =>
      obtain ⟨later, finding⟩ := World.exists_passes_of_found passes.sound built found
      exact ⟨later, finding.imp fun _ => False.elim⟩
    | @rendered inner world leads found stands taken _ _ settled =>
      obtain ⟨later, finding⟩ := World.exists_passes_of_found passes.sound built found
      have named : inner.component.id = id := finding.sound.filed stands
      obtain ⟨last, returns⟩ := within _ _ leads world finding.sound (named.symm ▸ stands) taken
      rw [settled]
      refine ⟨_, (finding.trans returns).imp fun other => ?_⟩
      rintro (impossible | ⟨inlines, _⟩ | ⟨rfl, ⟨rendered, ok⟩, _⟩)
      · exact impossible.elim
      · exact .deeper called leads inlines
      · exact named ▸ .child called leads ok

/-- **The passage of a rendering**, before its component is put back. -/
theorem exists_passes_after (sound : rendering.world.Sound)
    (built : rendering.component.definition.Built) :
    ∃ news, rendering.world.Passes rendering.Inlines news rendering.after := by
  cases rendering.course with
  | refused _ _ still _ =>
    rw [still]
    exact ⟨[], (World.passes_refl sound).imp fun _ => False.elim⟩
  | failed depth _ path _ _ moved =>
    rw [moved]
    exact exists_passes_path within depth built (fun _ => id) sound path
  | @done _ template slots view own reached stored depth _ path _ _ _ _ _ _ _ moved =>
    obtain ⟨gone, ended⟩ := World.exists_ended reached
      (rendering.component.view.liveChildren.diff view.liveChildren).names stored
    rw [← moved] at ended
    obtain ⟨news, passes⟩ := exists_passes_path within depth built (fun _ => id) sound path
    have ending := World.passes_of_ended passes.sound ended
    exact ⟨_, (passes.trans ending).imp fun _ => Or.rec id False.elim⟩

end

/-- What is in a place once the component is back: the component, if its place was kept. -/
theorem settled_places (rendering : Rendering) (id : String) :
    (id = rendering.component.id ∧ rendering.after.mounted.get? id = some none ∧
      rendering.settled.mounted.get? id = some (some rendering.rendered)) ∨
    ((id = rendering.component.id → rendering.after.mounted.get? id ≠ some none) ∧
      rendering.settled.mounted.get? id = rendering.after.mounted.get? id) := by
  rcases rendering.settled_cases with ⟨kept, same⟩ | ⟨lost, same⟩
  · have places : rendering.settled.mounted.get? id =
        if id = rendering.rendered.id then some (some rendering.rendered)
        else rendering.after.mounted.get? id := same ▸ World.get?_insert_eq
    rw [rendering.rendered_face.1] at places
    by_cases own : id = rendering.component.id
    · exact Or.inl ⟨own, own ▸ kept, by rw [places, if_pos own]⟩
    · exact Or.inr ⟨fun same => absurd same own, by rw [places, if_neg own]⟩
  · exact Or.inr ⟨fun own => own ▸ lost, by rw [same]⟩

/-- What is held then was held before the component was back, or is its own view. -/
theorem held_of_settled {id : String} (held : rendering.settled.Holds id) :
    (id = rendering.component.id ∧ rendering.after.mounted.get? id = some none ∧
      rendering.rendered.view.Held) ∨ rendering.after.Holds id := by
  obtain ⟨component, there, held⟩ := held
  rcases rendering.settled_places id with ⟨own, kept, back⟩ | ⟨_, same⟩
  · cases back.symm.trans there
    exact Or.inl ⟨own, kept, held⟩
  · exact Or.inr ⟨component, same ▸ there, held⟩

/-- **The passage of a rendering in its place.** -/
theorem exists_passes_settled (rendering : Rendering) : rendering.Returns := by
  induction rendering using induct with
  | step rendering within =>
    intro world sound stands taken
    have own := sound.components stands
    have places (id : String) : rendering.world.mounted.get? id =
        if id = rendering.component.id then some none else world.mounted.get? id :=
      taken ▸ World.get?_insert_eq
    have others {id : String} {component : Instance}
        (there : rendering.world.mounted.get? id = some (some component)) :
        world.mounted.get? id = some (some component) := by
      rw [places] at there
      split at there
      · cases there
      · exact there
    have contains {id : String} : rendering.world.contains id = world.contains id := by
      rw [World.contains_eq, places]
      split
      · next same => rw [World.contains_eq, same, stands]; rfl
      · rfl
    have begun : rendering.world.Sound :=
      ⟨fun there => sound.filed (others there), fun there => sound.components (others there)⟩
    obtain ⟨news, passes⟩ := exists_passes_after within begun own.built
    have outgoing : rendering.settled.outgoing = rendering.after.outgoing := by
      rcases rendering.settled_cases with ⟨_, same⟩ | ⟨_, same⟩
      · rw [same]
        rfl
      · rw [same]
    have ended : rendering.settled.Sound := by
      constructor
      all_goals
        intro id component there
        rcases rendering.settled_places id with ⟨same, _, back⟩ | ⟨_, same⟩
      · cases back.symm.trans there
        exact rendering.rendered_face.1.trans same.symm
      · exact passes.sound.filed (same ▸ there)
      · cases back.symm.trans there
        exact rendered_sound own
      · exact passes.sound.components (same ▸ there)
    refine ⟨news, ended, ?_, passes.status, fun id kept => ?_, fun id kept lost => ?_,
      fun id there => passes.came id (contains ▸ there),
      fun id there absent => passes.gone id (contains ▸ there) ?_, ?_⟩
    · rw [outgoing, passes.outgoing, taken]
      rfl
    · rcases rendering.settled_places id with ⟨_, _, back⟩ | ⟨lost, same⟩
      · rw [back] at kept
        cases kept
      · rw [same] at kept
        obtain ⟨before, quiet⟩ := passes.empty id kept
        rw [places, if_neg fun same => lost same kept] at before
        exact ⟨before, quiet⟩
    · have ne : id ≠ rendering.component.id := by
        rintro rfl
        rw [stands] at kept
        cases kept
      refine passes.lost id (by rw [places, if_neg ne]; exact kept) ?_
      rcases rendering.settled_places id with ⟨same, _⟩ | ⟨_, same⟩
      · exact absurd same ne
      · rwa [same] at lost
    · rcases rendering.settled_places id with ⟨_, _, back⟩ | ⟨_, same⟩
      · rw [World.contains_eq, back] at absent
        cases absent
      · rwa [World.contains_eq, same] at absent
    · intro id held
      rcases held_of_settled held with ⟨rfl, kept, held⟩ | ⟨component, there, held⟩
      · have quiet := (passes.empty _ kept).2
        cases result : rendering.result with
        | ok rendered => exact Or.inl (Or.inr ⟨rfl, ⟨rendered, result⟩, held, quiet⟩)
        | error error =>
          rw [view_of_error result] at held
          exact Or.inr ⟨⟨_, stands, held⟩, quiet⟩
      · rcases passes.holds id ⟨component, there, held⟩ with inlines | ⟨⟨old, was, kept⟩, quiet⟩
        · refine Or.inl (Or.inl ⟨inlines, ?_⟩)
          rintro rfl
          exact passes.lost _ (by rw [places, if_pos rfl]) (by simp [there])
        · exact Or.inr ⟨⟨old, others was, kept⟩, quiet⟩

end Rendering

end ReactiveView
