/-
**Which children are left behind.**

A child is mounted while its parent is being rendered, and the parent knows of it once the rendering
has succeeded. If a later part of the parent fails, nothing knows of the child; and if the parent is
destroyed while it is being rendered, nothing knows of any of its children. These two are the only
ways to be left behind.

* `Rendering.Strays` — the components that a rendering leaves behind.
* `evolves_settled` — but for them, what was shown or excused before a rendering is so after it.
* `Root`, `Stray` — components that were mounted by themselves, and those left behind by some turn.
* `shows_of_contains` — in every state of every session, all others are shown.
-/

import ReactiveView.Proofs.Component.Built
import ReactiveView.Proofs.Session.Runs

namespace ReactiveView

namespace World

variable {world middle after : World} {strays more : String → Prop} {id : String}

/-- A component that stands in its place shows the child. -/
def Shows (world : World) (id : String) : Prop := ∃ place component,
  world.mounted.get? place = some (some component) ∧ id ∈ component.view.liveChildren

instance (world : World) (id : String) : Decidable (world.Shows id) :=
  decidable_of_iff (∃ place ∈ world.mounted.values, ∃ component ∈ place,
      id ∈ component.view.liveChildren) <| by
    constructor
    · rintro ⟨place, member, component, rfl, shown⟩
      obtain ⟨key, there⟩ := (OrderedMap.mem_values_iff _ _).mp member
      exact ⟨key, component, there, shown⟩
    · rintro ⟨key, component, there, shown⟩
      exact ⟨some component, (OrderedMap.mem_values_iff _ _).mpr ⟨key, there⟩, component, rfl, shown⟩

/-- Every component is shown by one, or excused. -/
def Covered (world : World) (excused : String → Prop) : Prop :=
  ∀ id, world.contains id = true → world.Shows id ∨ excused id

/-- **The world evolves**: what is excused stays so until the client is told that it is destroyed, and
all others are shown, but for the strays. -/
structure Evolves (before : World) (strays : String → Prop) (after : World) : Prop where
  filed : before.Filed → after.Filed
  covers : ∃ news, after.outgoing = before.outgoing ++ news ∧
    ∀ excused, before.Covered excused → after.Covered fun id =>
      (excused id ∧ .news .destroyed id ∉ news) ∨ strays id

theorem Covered.imp {excused other : String → Prop} (covered : world.Covered excused)
    (imp : ∀ id, world.contains id = true → excused id → other id) : world.Covered other :=
  fun id there => (covered id there).imp_right (imp id there)

theorem Evolves.imp (evolves : world.Evolves strays after) (imp : ∀ id, strays id → more id) :
    world.Evolves more after where
  filed := evolves.filed
  covers := by
    obtain ⟨news, outgoing, covers⟩ := evolves.covers
    exact ⟨news, outgoing, fun excused covered =>
      (covers excused covered).imp fun id _ => Or.imp_right (imp id)⟩

theorem Evolves.trans (first : world.Evolves strays middle) (second : middle.Evolves more after) :
    world.Evolves (fun id => strays id ∨ more id) after where
  filed filed := second.filed (first.filed filed)
  covers := by
    obtain ⟨news, outgoing, covers⟩ := first.covers
    obtain ⟨later, sent, further⟩ := second.covers
    refine ⟨news ++ later, by rw [sent, outgoing, List.append_assoc], fun excused covered => ?_⟩
    refine (further _ (covers excused covered)).imp fun id _ => ?_
    rintro (⟨⟨kept, quiet⟩ | stray, silent⟩ | stray)
    · exact Or.inl ⟨kept, fun member => (List.mem_append.mp member).elim quiet silent⟩
    · exact Or.inr (Or.inl stray)
    · exact Or.inr (Or.inr stray)

/-- Nothing more is left behind. -/
theorem Evolves.andThen (first : world.Evolves strays middle)
    (second : middle.Evolves (fun _ => False) after) : world.Evolves strays after :=
  (first.trans second).imp fun _ => fun
    | .inl stray => stray
    | .inr impossible => impossible.elim

/-- A change after which everything that is there was there, and is shown as it was. -/
theorem evolves_of_same (filed : world.Filed → after.Filed)
    (contains : ∀ id, after.contains id = true → world.contains id = true)
    (shows : ∀ id, world.Shows id → after.Shows id)
    (news : List Envelope) (outgoing : after.outgoing = world.outgoing ++ news)
    (quiet : ∀ id, .news .destroyed id ∉ news) : world.Evolves (fun _ => False) after where
  filed := filed
  covers := ⟨news, outgoing, fun _ covered id member =>
    (covered id (contains id member)).imp (shows id) fun kept => Or.inl ⟨kept, quiet id⟩⟩

theorem evolves_refl (world : World) : world.Evolves (fun _ => False) world :=
  evolves_of_same (fun filed => filed) (fun _ there => there) (fun _ shows => shows) [] (List.append_nil _).symm fun _ => nofun

/-- Something other than news is sent. -/
theorem evolves_emit (world : World) (id : String) {payload : Outbound}
    (other : ∀ status, payload ≠ .status status) :
    world.Evolves (fun _ => False) (world.emit id payload) := by
  refine evolves_of_same (fun filed => filed) (fun _ there => there) (fun _ shows => shows) _ rfl
    fun gone member => ?_
  cases List.mem_singleton.mp member
  exact other _ rfl

theorem evolves_of_rests (rests : world.Rests after) : world.Evolves (fun _ => False) after := by
  refine evolves_of_same rests.filed (fun id there => ?_) (fun id shows => ?_) []
    (rests.outgoing.trans (List.append_nil _).symm) fun _ => nofun
  · rwa [contains_eq, rests.mounted] at there
  · obtain ⟨place, component, there, shown⟩ := shows
    exact ⟨place, component, by rw [rests.mounted]; exact there, shown⟩

theorem evolves_of_stands (stands : world.Stands after) : world.Evolves (fun _ => False) after := by
  refine evolves_of_same stands.filed (fun id there => ?_) (fun id shows => ?_) []
    (stands.outgoing.trans (List.append_nil _).symm) fun _ => nofun
  · rwa [stands.contains] at there
  · obtain ⟨place, component, there, shown⟩ := shows
    obtain ⟨old, found, same⟩ := stands.symm.exists_of_get? there
    have view : old.view = component.view := congrArg (fun face => face.2.2) same
    exact ⟨place, old, found, view ▸ shown⟩

/-- A component is put over one of the same id that shows no more than it. -/
theorem evolves_put {component old : Instance}
    (there : world.mounted.get? component.id = some (some old))
    (more : ∀ id ∈ old.view.liveChildren, id ∈ component.view.liveChildren) :
    world.Evolves (fun _ => False) (world.put component) := by
  have places (id : String) : (world.put component).mounted.get? id =
      if id = component.id then some (some component) else world.mounted.get? id := get?_insert_eq
  refine evolves_of_same (fun filed => filed.put component) (fun id member => ?_)
    (fun id shows => ?_) [] (List.append_nil _).symm fun _ => nofun
  · rw [contains_eq, places] at member
    split at member
    · next same => exact contains_iff.mpr ⟨_, same ▸ there⟩
    · exact member
  · obtain ⟨place, parent, standing, shown⟩ := shows
    by_cases same : place = component.id
    · rw [same, there] at standing
      cases standing
      exact ⟨component.id, component, by rw [places, if_pos rfl], more id shown⟩
    · exact ⟨place, parent, by rw [places, if_neg same]; exact standing, shown⟩

/-- A component is mounted. -/
theorem evolves_mount {component : Instance} (free : world.contains component.id = false) :
    world.Evolves (· = component.id)
      ((world.put component).emit component.id (.status .subscribed)) where
  filed filed := filed.put component
  covers := by
    have places (id : String) : (world.put component).mounted.get? id =
        if id = component.id then some (some component) else world.mounted.get? id := get?_insert_eq
    refine ⟨[.news .subscribed component.id], rfl, fun excused covered id there => ?_⟩
    change ((world.put component).mounted.get? id).isSome = true at there
    rw [places] at there
    split at there
    · next same => exact Or.inr (Or.inr same)
    · rcases covered id there with ⟨place, parent, standing, shown⟩ | kept
      · have ne : place ≠ component.id := by
          rintro rfl
          rw [contains_eq, standing] at free
          cases free
        exact Or.inl ⟨place, parent, (places place).trans ((if_neg ne).trans standing), shown⟩
      · refine Or.inr (Or.inl ⟨kept, fun member => ?_⟩)
        cases List.mem_singleton.mp member

/-- **A destruction leaves nothing behind**: with a component go all that it shows. -/
theorem evolves_of_ended {ids gone : List String} (ended : Ended ids world gone after) :
    world.Evolves (fun _ => False) after where
  filed := ended.filed
  covers := by
    refine ⟨_, ended.outgoing, fun excused covered id there => ?_⟩
    have kept : id ∉ gone := by
      intro member
      rw [contains_eq, ended.places, if_pos member] at there
      cases there
    have before : world.contains id = true := by
      rwa [contains_eq, ended.places, if_neg kept] at there
    rcases covered id before with ⟨place, parent, standing, shown⟩ | excuse
    · by_cases member : place ∈ gone
      · rw [ended.children place member parent standing id shown] at there
        cases there
      · exact Or.inl ⟨place, parent, by rw [ended.places, if_neg member]; exact standing, shown⟩
    · refine Or.inr (Or.inl ⟨excuse, fun member => ?_⟩)
      obtain ⟨other, removed, same⟩ := List.mem_map.mp member
      cases same
      exact kept removed

end World

/-! ### What a rendering leaves behind -/

namespace ClientView

/-- A child that some slots of a rendering name is shown afterwards. -/
theorem mem_liveChildren_commit {view : ClientView} {variant : String} {rendered : Rendered}
    {id : String} (named : id ∈ Render.childrenOf rendered.slots) :
    id ∈ (view.commit variant rendered).liveChildren := by
  obtain ⟨slot, member, shown⟩ := List.mem_flatMap.mp named
  rw [liveChildren, NameSet.mem_ofList, List.mem_flatten]
  cases children : slot.children with
  | none =>
    rw [children] at shown
    cases shown
  | some ids =>
    rw [children, Option.getD_some] at shown
    unfold commit
    split
    · exact ⟨ids, List.mem_map.mpr ⟨slot, member, by rw [children]; rfl⟩, shown⟩
    · obtain ⟨index, bound, there⟩ := List.getElem_of_mem member
      have found : rendered.slots[index]? = some slot :=
        List.getElem?_eq_some_iff.mpr ⟨bound, there⟩
      exact ⟨ids, List.mem_of_getElem?
        (getElem?_overlay_of_some [] Slot.children view.children rendered.slots found children), shown⟩

end ClientView

namespace Rendering

/-- **The components that a rendering leaves behind.** -/
inductive Strays : Rendering → String → Prop
  /-- A call for a child mounts it, and the rendering fails. -/
  | unshown {rendering : Rendering} {error : Error} {call : Scope.Call RenderState}
    (failed : rendering.result = .error error) (called : call ∈ rendering.calls)
    (mounts : World.Mounts rendering.component.definition call.className call.id call.world.world) :
    Strays rendering call.id
  /-- The component has lost its place meanwhile, and nothing knows of what it shows. -/
  | lost {rendering : Rendering} {id : String}
    (gone : rendering.after.mounted.get? rendering.component.id ≠ some none)
    (shown : id ∈ rendering.rendered.view.liveChildren) : Strays rendering id
  /-- It is left behind by a rendering inside of this one. -/
  | inside {rendering inner : Rendering} {call : Scope.Call RenderState} {id : String}
    (called : call ∈ rendering.calls) (leads : rendering.inner? call = some inner)
    (strays : Strays inner id) : Strays rendering id

/-- Whether a rendering and those inside of it, up to some depth, leave nothing behind. -/
def isClear : Nat → Rendering → Bool
  | 0, _ => false
  | depth + 1, rendering => rendering.result.isOk &&
    (match rendering.after.mounted.get? rendering.component.id with
      | some none => true
      | _ => false) &&
    rendering.calls.all fun call => (rendering.inner? call).all (isClear depth)

theorem not_strays_of_isClear {depth : Nat} {rendering : Rendering}
    (clear : isClear depth rendering = true) {id : String} : ¬ rendering.Strays id := by
  intro strays
  induction strays generalizing depth with
  | unshown failed =>
    cases depth with
    | zero => cases clear
    | succ depth =>
      simp only [isClear, failed, Bool.and_eq_true] at clear
      cases clear.1.1
  | lost gone =>
    cases depth with
    | zero => cases clear
    | succ depth =>
      simp only [isClear, Bool.and_eq_true] at clear
      cases clear.1.2
  | inside called leads _ ih =>
    cases depth with
    | zero => cases clear
    | succ depth =>
      simp only [isClear, Bool.and_eq_true, List.all_eq_true] at clear
      have inner := clear.2 _ called
      rw [leads] at inner
      exact ih inner

variable {rendering : Rendering}

/-- What the calls for children leave to be shown: the new children, and what strays inside of them. -/
def Leaves (rendering : Rendering) (calls : List (Scope.Call RenderState)) (id : String) : Prop :=
  ∃ call ∈ calls, (call.id = id ∧
      World.Mounts rendering.component.definition call.className call.id call.world.world) ∨
    ∃ inner, rendering.inner? call = some inner ∧ inner.Strays id

/-- While the child of a call is found, the child alone may come. -/
theorem evolves_found {parent : ComponentDef} {className id : String} {world after : World}
    (found : World.Found parent className id world after) :
    world.Evolves (fun other => id = other ∧ World.Mounts parent className id world) after := by
  cases found with
  | there known => exact (World.evolves_refl _).imp fun _ => False.elim
  | mounted new named _ view =>
    subst named
    exact (World.evolves_mount new.2).imp fun _ same => ⟨same.symm, new⟩

/-- But for the strays, all that was shown or excused before is so once the component is back. -/
def Settles (rendering : Rendering) : Prop := ∀ world : World, world.Filed →
  world.mounted.get? rendering.component.id = some (some rendering.component) →
  rendering.world = world.takeOut rendering.component.id →
  world.Evolves rendering.Strays rendering.settled

section

variable {nesting : Nat}
  (within : ∀ call inner, rendering.inner? call = some inner → inner.Settles)

include within

/-- Along the way of a rendering, only its calls leave something to be shown. -/
theorem evolves_path (depth : rendering.nesting = nesting + 1)
    {before after : RenderState × Store} {calls : List (Scope.Call RenderState)}
    (filed : before.1.world.Filed)
    (path : (scope nesting rendering.component).Path before calls after) :
    before.1.world.Evolves (rendering.Leaves calls) after.1.world := by
  induction path with
  | start => exact (World.evolves_refl _).imp fun _ => False.elim
  | quiet _ move ih =>
    exact ih.andThen (World.evolves_of_rests (rests_of_quiet move))
  | @child calls state store _ className id ih =>
    -- what is left to be shown by this call is left to be shown by all
    have last {id' : String} (leaves : rendering.Leaves [⟨className, id, state, store⟩] id') :
        rendering.Leaves (calls ++ [⟨className, id, state, store⟩]) id' := by
      obtain ⟨call, member, cases⟩ := leaves
      exact ⟨call, List.mem_append_right _ member, cases⟩
    have earlier {id' : String} (leaves : rendering.Leaves calls id') :
        rendering.Leaves (calls ++ [⟨className, id, state, store⟩]) id' := by
      obtain ⟨call, member, cases⟩ := leaves
      exact ⟨call, List.mem_append_left _ member, cases⟩
    suffices here : state.world.Evolves (rendering.Leaves [⟨className, id, state, store⟩])
        ((scope nesting rendering.component).renderChild className id state store).2.1.world from
      (ih.trans here).imp fun _ => Or.rec earlier last
    have answers := rendering.answers depth ⟨className, id, state, store⟩
    dsimp only at answers
    cases answers with
    | unfound unmet _ found =>
      exact (evolves_found found).imp fun _ leaves => ⟨_, List.mem_singleton_self _, Or.inl leaves⟩
    | @rendered inner world leads found stands taken _ _ settled =>
      have finding := evolves_found found
      have there : world.Filed := finding.filed (ih.filed filed)
      rw [settled]
      refine (finding.trans (within _ _ leads world there ?_ taken)).imp fun _ => ?_
      · rw [there stands]
        exact stands
      · rintro (leaves | strays)
        · exact ⟨_, List.mem_singleton_self _, Or.inl leaves⟩
        · exact ⟨_, List.mem_singleton_self _, Or.inr ⟨_, leads, strays⟩⟩

/-- **Once a rendering is over**, but for the strays, everything is shown or excused as before, or
shown by the component that was rendered. -/
theorem covered_after (filed : rendering.world.Filed) : rendering.after.Filed ∧
    ∃ news, rendering.after.outgoing = rendering.world.outgoing ++ news ∧ ∀ excused : String → Prop,
      rendering.world.Covered (fun id =>
        excused id ∨ id ∈ rendering.component.view.liveChildren) →
      rendering.after.Covered fun id => (excused id ∧ .news .destroyed id ∉ news) ∨
        id ∈ rendering.rendered.view.liveChildren ∨ rendering.Strays id := by
  cases rendering.course with
  | refused _ same still _ =>
    rw [same, still]
    refine ⟨filed, [], (List.append_nil _).symm, fun excused covered => covered.imp fun id _ => ?_⟩
    rintro (excuse | shown)
    · exact Or.inl ⟨excuse, nofun⟩
    · exact Or.inr (Or.inl shown)
  | failed depth _ path failed same moved =>
    have evolves := evolves_path within depth filed path
    obtain ⟨news, outgoing, covers⟩ := evolves.covers
    rw [same, moved]
    refine ⟨evolves.filed filed, news, outgoing, fun excused covered =>
      (covers _ covered).imp fun id _ => ?_⟩
    rintro (⟨excuse | shown, quiet⟩ | ⟨call, called, ⟨named, mounts⟩ | ⟨inner, leads, strays⟩⟩)
    · exact Or.inl ⟨excuse, quiet⟩
    · exact Or.inr (Or.inl shown)
    · exact Or.inr (Or.inr (named ▸ .unshown failed called mounts))
    · exact Or.inr (Or.inr (.inside called leads strays))
  | @done _ template slots view own reached stored depth _ path ran shown answered named _ _ same
      moved =>
    obtain ⟨gone, ended⟩ := World.exists_ended reached
      (rendering.component.view.liveChildren.diff view.liveChildren).names stored
    rw [← moved] at ended
    have committed : view = rendering.component.view.commit template.variant slots := by
      have last := (Render.slots_of_render (congrArg Prod.fst ran)).2.2
      rwa [ran] at last
    have evolves := (evolves_path within depth filed path).andThen (World.evolves_of_ended ended)
    obtain ⟨news, outgoing, covers⟩ := evolves.covers
    rw [same]
    refine ⟨evolves.filed filed, news, outgoing, fun excused covered =>
      (covers _ covered).imp fun id there => ?_⟩
    rintro (⟨excuse | shown, quiet⟩ | ⟨call, called, ⟨rfl, mounts⟩ | ⟨inner, leads, strays⟩⟩)
    · exact Or.inl ⟨excuse, quiet⟩
    · -- a child that is shown no more is destroyed
      refine Or.inr (Or.inl ?_)
      by_contra dropped
      have destroyed := ended.asked id (NameSet.mem_diff.mpr ⟨shown, dropped⟩)
      rw [there] at destroyed
      cases destroyed
    · refine Or.inr (Or.inl ?_)
      change call.id ∈ view.liveChildren
      rw [committed]
      refine ClientView.mem_liveChildren_commit ?_
      rw [named, ← Scope.map_id_of_answers answered]
      exact List.mem_map_of_mem called
    · exact Or.inr (Or.inr (.inside called leads strays))

end

/-- While a component is taken out, what it shows is excused. -/
theorem covered_takeOut {world : World} {component : Instance} {excused : String → Prop}
    (stands : world.mounted.get? component.id = some (some component))
    (covered : world.Covered excused) : (world.takeOut component.id).Covered fun id =>
      excused id ∨ id ∈ component.view.liveChildren := by
  have places (id : String) : (world.takeOut component.id).mounted.get? id =
      if id = component.id then some none else world.mounted.get? id := World.get?_insert_eq
  intro id there
  have before : world.contains id = true := by
    rw [World.contains_eq, places] at there
    split at there
    · next same => exact World.contains_iff.mpr ⟨_, same ▸ stands⟩
    · exact there
  rcases covered id before with ⟨place, parent, standing, shown⟩ | excuse
  · by_cases same : place = component.id
    · rw [same, stands] at standing
      cases standing
      exact Or.inr (Or.inr shown)
    · exact Or.inl ⟨place, parent, by rw [places, if_neg same]; exact standing, shown⟩
  · exact Or.inr (Or.inl excuse)

/-- A component that is back in its place shows its children there. -/
theorem covered_put {world : World} {component : Instance} {excused : String → Prop}
    (taken : world.mounted.get? component.id = some none)
    (covered : world.Covered fun id => excused id ∨ id ∈ component.view.liveChildren) :
    (world.put component).Covered excused := by
  have places (id : String) : (world.put component).mounted.get? id =
      if id = component.id then some (some component) else world.mounted.get? id :=
    World.get?_insert_eq
  intro id there
  have before : world.contains id = true := by
    rw [World.contains_eq, places] at there
    split at there
    · next same => exact World.contains_iff.mpr ⟨_, same ▸ taken⟩
    · exact there
  rcases covered id before with ⟨place, parent, standing, shown⟩ | excuse | shown
  · have ne : place ≠ component.id := by
      rintro rfl
      rw [taken] at standing
      cases standing
    exact Or.inl ⟨place, parent, by rw [places, if_neg ne]; exact standing, shown⟩
  · exact Or.inr excuse
  · exact Or.inl ⟨component.id, component, by rw [places, if_pos rfl], shown⟩

/-- **A component is rendered in its place**, and only the strays are left behind. -/
theorem settles (rendering : Rendering) : rendering.Settles := by
  induction rendering using induct with
  | step rendering within =>
    intro world filed stands taken
    obtain ⟨filed, news, outgoing, covers⟩ :=
      covered_after within (taken ▸ filed.takeOut rendering.component.id)
    have covers (excused : String → Prop) (covered : world.Covered excused) :=
      covers excused (taken ▸ covered_takeOut stands covered)
    rw [taken] at outgoing
    rcases rendering.settled_cases with ⟨kept, same⟩ | ⟨lost, same⟩
    all_goals rw [same]
    · rw [← rendering.rendered_face.1] at kept
      refine ⟨fun _ => filed.put _, news, outgoing, fun excused covered => ?_⟩
      refine covered_put kept ((covers excused covered).imp fun id _ => ?_)
      rintro (excuse | shown | strays)
      · exact Or.inl (Or.inl excuse)
      · exact Or.inr shown
      · exact Or.inl (Or.inr strays)
    · refine ⟨fun _ => filed, news, outgoing, fun excused covered =>
        (covers excused covered).imp fun id _ => Or.imp_right ?_⟩
      rintro (shown | strays)
      · exact .lost lost shown
      · exact strays

end Rendering

/-! ### Cycles -/

namespace Cycle

/-- A failure is shown, and its component still knows of its children. -/
theorem evolves_failure {world : World} (filed : world.Filed) (id html : String) :
    world.Evolves (fun _ => False) ((invalidated world id).emit id (.error html)) := by
  have invalidates : world.Evolves (fun _ => False) (invalidated world id) := by
    unfold invalidated
    split
    · next component known =>
      have there := World.instance?_eq_ok_iff.mp known
      rw [← filed there] at there
      exact World.evolves_put there fun _ shown => shown
    · exact World.evolves_refl _
  exact invalidates.andThen (World.evolves_emit _ id fun _ => nofun)

theorem evolves_perform {cycle : Cycle} (filed : cycle.world.Filed) (request : Request) :
    cycle.world.Evolves (fun _ => False) (cycle.perform request).world := by
  refine perform_induct (motive := fun reached => cycle.world.Evolves (fun _ => False) reached.world)
    (fun reached sofar => sofar.filed filed) ?_ ?_ (World.evolves_refl _) request
  · exact fun reached world store stands sofar => sofar.andThen (World.evolves_of_stands stands)
  · intro reached id error sofar
    obtain ⟨html, same⟩ := world_fail reached id error
    exact same ▸ sofar.andThen (evolves_failure (sofar.filed filed) id html)

theorem evolves_renderOne {cycle : Cycle} (filed : cycle.world.Filed) (inlined : List String)
    {id : String} {component : Instance} (known : cycle.world.instance? id = .ok component)
    (dirty : Dirty) : cycle.world.Evolves (Turn.rendering ⟨cycle, component, dirty⟩).Strays
      (cycle.renderOne inlined component dirty).1.world := by
  have there := World.instance?_eq_ok_iff.mp known
  rw [← filed there] at there
  have settles := (Turn.rendering ⟨cycle, component, dirty⟩).settles cycle.world filed there rfl
  have last := world_renderOne cycle inlined component dirty
  split at last
  · obtain ⟨_, html, same⟩ := last
    exact same ▸ settles.andThen (evolves_failure (settles.filed filed) component.id html)
  · rw [last.2]
    split
    · exact settles
    · exact settles.andThen (World.evolves_emit _ _ fun _ => nofun)

/-- **The turns of a cycle leave nothing behind but their strays.** -/
theorem evolves_renderAll {cycle : Cycle} (filed : cycle.world.Filed) (inlined : List String)
    (affected : List (String × Dirty)) :
    cycle.world.Evolves (fun id => ∃ turn ∈ cycle.turns inlined affected, turn.rendering.Strays id)
      (cycle.renderAll inlined affected).world := by
  induction affected generalizing cycle inlined with
  | nil => exact (World.evolves_refl _).imp fun _ => False.elim
  | cons first rest ih =>
    obtain ⟨id, dirty⟩ := first
    unfold renderAll turns
    split
    · exact ih filed inlined
    · cases known : cycle.world.instance? id with
      | error error => exact ih filed inlined
      | ok component =>
        have turn := evolves_renderOne filed inlined known dirty
        dsimp only
        generalize cycle.renderOne inlined component dirty = reached at turn ⊢
        refine (turn.trans (ih (turn.filed filed) reached.2)).imp fun other => ?_
        rintro (strays | ⟨later, member, strays⟩)
        · exact ⟨_, List.mem_cons_self, strays⟩
        · exact ⟨later, List.mem_cons_of_mem _ member, strays⟩

theorem evolves_run {world : World} (filed : world.Filed) (request : Request) (store : Store) :
    world.Evolves (fun id => ∃ turn ∈ turnsOf world request store, turn.rendering.Strays id)
      (run world request store).world := by
  have performs : world.Evolves (fun _ => False) ((start world store).perform request).world :=
    evolves_perform (show (start world store).world.Filed from filed) request
  refine (performs.trans (evolves_renderAll (performs.filed filed) [] _)).imp fun _ => ?_
  exact fun
    | .inl impossible => impossible.elim
    | .inr strays => strays

end Cycle

/-! ### Sessions -/

namespace Session

variable {config : Config}

/-- **Components that were mounted by themselves**, not by a call, and not destroyed since. -/
inductive Root (config : Config) : List Entry → String → Prop
  | mounted {earlier : List Entry} {id : String} {definition : ComponentDef}
    (came : .news .subscribed id ∈ sent config (.mount id definition :: earlier))
    (kept : .news .destroyed id ∉ sent config (.mount id definition :: earlier)) :
    Root config (.mount id definition :: earlier) id
  | still {earlier : List Entry} {entry : Entry} {id : String} (was : Root config earlier id)
    (kept : .news .destroyed id ∉ sent config (entry :: earlier)) : Root config (entry :: earlier) id

/-- **Components that were left behind by a turn**, and neither shown nor destroyed since. -/
inductive Stray (config : Config) : List Entry → String → Prop
  | left {earlier : List Entry} {entry : Entry} {id : String} {turn : Turn}
    (taken : turn ∈ (reached config earlier).turns entry) (strays : turn.rendering.Strays id) :
    Stray config (entry :: earlier) id
  | still {earlier : List Entry} {entry : Entry} {id : String} (was : Stray config earlier id)
    (unshown : ¬ (reached config earlier).world.Shows id)
    (kept : .news .destroyed id ∉ sent config (entry :: earlier)) :
    Stray config (entry :: earlier) id

/-- What an entry leaves of what was shown or excused before. -/
theorem covered_enter {session : Session} (filed : session.world.Filed)
    (unsent : session.world.outgoing = []) (entry : Entry) :
    (session.enter entry).session.world.Filed ∧ (session.enter entry).session.world.outgoing = [] ∧
      ∀ excused, session.world.Covered excused → (session.enter entry).session.world.Covered fun id =>
        (excused id ∧ .news .destroyed id ∉ (session.enter entry).sent) ∨
        (∃ turn ∈ session.turns entry, turn.rendering.Strays id) ∨
        (∃ definition, entry = .mount id definition) ∧
          .news .subscribed id ∈ (session.enter entry).sent ∧
          .news .destroyed id ∉ (session.enter entry).sent := by
  have entered := session.entered filed entry
  generalize (session.enter entry).sent = sent, (session.enter entry).session.world = after at entered ⊢
  cases entered with
  | stands stands idle =>
    obtain ⟨news, outgoing, covers⟩ := (World.evolves_of_stands stands).covers
    rw [stands.outgoing, unsent, List.nil_append] at outgoing
    refine ⟨stands.filed filed, stands.outgoing.trans unsent, fun excused covered =>
      (covers excused covered).imp fun id _ => ?_⟩
    rintro (kept | impossible)
    · exact Or.inl (outgoing ▸ kept)
    · exact impossible.elim
  | disconnected idle gone outgoing =>
    refine ⟨fun there => ?_, outgoing, fun excused covered id there => ?_⟩
    · rw [gone] at there
      cases there
    · rw [World.contains_eq, gone] at there
      cases there
  | unmounted ids idle =>
    obtain ⟨removed, ended⟩ := World.exists_ended session.world ids session.store
    obtain ⟨news, outgoing, covers⟩ := (World.evolves_of_ended ended).covers
    rw [unsent, List.nil_append] at outgoing
    refine ⟨ended.filed filed, rfl, fun excused covered => ?_⟩
    refine World.Covered.imp (covers excused covered) fun id _ => ?_
    rintro (kept | impossible)
    · exact Or.inl (outgoing ▸ kept)
    · exact impossible.elim
  | @ran world request store runs starts =>
    have turns : session.turns entry = Cycle.turnsOf world request store := by rw [turns, runs]
    rw [turns]
    cases starts with
    | here =>
      have evolves := Cycle.evolves_run filed request store
      obtain ⟨news, outgoing, covers⟩ := evolves.covers
      rw [unsent, List.nil_append] at outgoing
      refine ⟨evolves.filed filed, rfl, fun excused covered => ?_⟩
      refine World.Covered.imp (covers excused covered) fun id _ => ?_
      rintro (kept | strays)
      · exact Or.inl (outgoing ▸ kept)
      · exact Or.inr (Or.inl strays)
    | @mounted component free view =>
      have mounts := World.evolves_mount free
      have evolves := Cycle.evolves_run (mounts.filed filed) request store
      obtain ⟨news, outgoing, covers⟩ := evolves.covers
      obtain ⟨first, sent, comes⟩ := mounts.covers
      have came : .news .subscribed component.id ∈ first := by
        rw [← List.append_cancel_left sent]
        exact List.mem_singleton_self _
      rw [sent, unsent, List.nil_append] at outgoing
      rw [outgoing]
      refine ⟨evolves.filed (mounts.filed filed), rfl, fun excused covered => ?_⟩
      refine World.Covered.imp (covers _ (comes excused covered)) fun id _ => ?_
      have both {list : List Envelope} : ∀ {more}, .news .destroyed id ∉ list →
          .news .destroyed id ∉ more → .news .destroyed id ∉ list ++ more :=
        fun quiet silent member => (List.mem_append.mp member).elim quiet silent
      rintro (⟨⟨excuse, quiet⟩ | rfl, silent⟩ | strays)
      · exact Or.inl ⟨excuse, both quiet silent⟩
      · refine Or.inr (Or.inr ⟨⟨_, rfl⟩, List.mem_append_left _ came, both ?_ silent⟩)
        rw [← List.append_cancel_left sent]
        exact fun member => by cases List.mem_singleton.mp member
      · exact Or.inr (Or.inl strays)

/-- In every state, all components are shown, mounted by themselves or left behind. -/
theorem covered_reached (config : Config) (entries : List Entry) :
    (reached config entries).world.Filed ∧ (reached config entries).world.outgoing = [] ∧
      (reached config entries).world.Covered fun id =>
        Root config entries id ∨ Stray config entries id := by
  induction entries with
  | nil => exact ⟨nofun, rfl, nofun⟩
  | cons entry earlier ih =>
    obtain ⟨filed, unsent, covered⟩ := ih
    obtain ⟨filed', unsent', covers⟩ := covered_enter filed unsent entry
    -- what is shown needs no excuse
    have tight : (reached config earlier).world.Covered fun id =>
        Root config earlier id ∨
          (Stray config earlier id ∧ ¬ (reached config earlier).world.Shows id) := by
      intro id there
      by_cases shown : (reached config earlier).world.Shows id
      · exact Or.inl shown
      · exact Or.inr (((covered id there).resolve_left shown).imp_right fun stray => ⟨stray, shown⟩)
    refine ⟨filed', unsent', (covers _ tight).imp fun id _ => ?_⟩
    rintro (⟨root | ⟨stray, unshown⟩, kept⟩ | ⟨turn, taken, strays⟩ | ⟨⟨definition, rfl⟩, came, kept⟩)
    · exact Or.inl (.still root kept)
    · exact Or.inr (.still stray unshown kept)
    · exact Or.inr (.left taken strays)
    · exact Or.inl (.mounted came kept)

/-- **No child is left behind but by the turns that leave it behind**: after every entry of every
session, each component that was mounted by a call and is no stray is shown by one in its place. -/
theorem shows_of_contains (config : Config) (entries : List Entry) {id : String}
    (mounted : (reached config entries).contains id = true) (child : ¬ Root config entries id)
    (kept : ¬ Stray config entries id) : (reached config entries).world.Shows id :=
  ((covered_reached config entries).2.2 id mounted).resolve_right fun excuse =>
    excuse.elim child kept

/-- Only an entry mounts a component by itself. -/
theorem exists_mount_of_root {entries : List Entry} {id : String} (root : Root config entries id) :
    ∃ definition, .mount id definition ∈ entries := by
  induction root with
  | mounted => exact ⟨_, List.mem_cons_self⟩
  | still _ _ ih =>
    obtain ⟨definition, member⟩ := ih
    exact ⟨definition, List.mem_cons_of_mem _ member⟩

/-- Rows of a list, all of them alike. -/
def row : Draft := (Draft.empty "Row").addTemplate standardVariant "<li></li>"

theorem shows_of_contains_of_list : ∃ item list, row.build = .ok item ∧
    (Draft.page item "<ul><%= child(\"Row\", \"a\") %></ul>").build = .ok list ∧
    (reached Config.default [.mount "p" list]).contains "a" = true ∧
    (reached Config.default [.mount "p" list]).world.Shows "a" := by
  have checked : ComponentDef.isBuiltTo row.build (fun item => ComponentDef.isBuiltTo
      (Draft.page item "<ul><%= child(\"Row\", \"a\") %></ul>").build fun list =>
        (reached Config.default [.mount "p" list]).contains "a" &&
        ((reached Config.default []).turns (.mount "p" list)).all fun turn =>
          turn.rendering.isClear 2) = true := by decide +kernel
  obtain ⟨item, built, passes⟩ := ComponentDef.exists_of_isBuiltTo checked
  obtain ⟨list, made, passes⟩ := ComponentDef.exists_of_isBuiltTo passes
  rw [Bool.and_eq_true, List.all_eq_true] at passes
  refine ⟨item, list, built, made, passes.1, shows_of_contains _ _ passes.1 ?_ ?_⟩
  · intro root
    obtain ⟨definition, member⟩ := exists_mount_of_root root
    exact absurd (Entry.mount.inj (List.mem_singleton.mp member)).1 (by decide)
  · rintro (⟨taken, strays⟩ | ⟨was, _, _⟩)
    · exact Rendering.not_strays_of_isClear (passes.2 _ taken) strays
    · cases was

/--
**A child is left behind by a page that fails**: after the page is gone, the child is still there, and
nothing shows it.
-/
theorem not_shows_of_failing : ¬ ∀ (config : Config) (entries : List Entry) (id : String),
    (reached config entries).contains id = true → ¬ Root config entries id →
      (reached config entries).world.Shows id := by
  intro claimed
  have checked : ComponentDef.isBuiltTo row.build (fun item => ComponentDef.isBuiltTo
      (Draft.page item "<%= child(\"Row\", \"a\") %><%= missing %>").build fun list =>
        (reached Config.default [.unmount "p", .mount "p" list]).contains "a" &&
        !decide ((reached Config.default [.unmount "p", .mount "p" list]).world.Shows "a")) =
      true := by decide +kernel
  obtain ⟨item, _, passes⟩ := ComponentDef.exists_of_isBuiltTo checked
  obtain ⟨list, _, passes⟩ := ComponentDef.exists_of_isBuiltTo passes
  rw [Bool.and_eq_true, Bool.not_eq_true', decide_eq_false_iff_not] at passes
  refine passes.2 (claimed _ _ _ passes.1 fun root => ?_)
  obtain ⟨definition, member⟩ := exists_mount_of_root root
  rcases List.mem_cons.mp member with same | member
  · cases same
  · exact absurd (Entry.mount.inj (List.mem_singleton.mp member)).1 (by decide)

end Session

end ReactiveView
