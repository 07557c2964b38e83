/-
**Children that are shown and are gone.**

A component destroys the children that it shows no longer, and with a component go all that it shows.
Whether another component shows them too does not matter, so a child may be taken from one that still
shows it. This, and a request, are the only ways to lose a child that is shown.

* `World.ShownBy`, `reason_of_destroyAll` — why a component is destroyed.
* `Event.TakesFrom`, `Event.brings`, `Taken` — a child is taken from a component, and did not come again.
* `Goes.taken_of_told` — what comes while a component is rendered is there afterwards, or was taken.
* `Goes.dangles` — so is every child that a component shows.
* `Session.contains_of_shown` — in every session, each child that is shown and was not taken is there.
-/

import ReactiveView.Proofs.Session.History

namespace ReactiveView

namespace World

variable {world after : World} {parent child : String}

/-- A component in its place shows a child. -/
def ShownBy (world : World) (parent child : String) : Prop := ∃ component,
  world.mounted.get? parent = some (some component) ∧ child ∈ component.view.liveChildren

/-- A child is shown that is not mounted. -/
def Dangles (world : World) (parent child : String) : Prop :=
  world.ShownBy parent child ∧ world.contains child = false

instance (world : World) (parent child : String) : Decidable (world.ShownBy parent child) :=
  decidable_of_iff (child ∈ (match world.mounted.get? parent with
      | some (some component) => component.view.liveChildren.names
      | _ => [])) <| by
    unfold ShownBy
    rcases world.mounted.get? parent with _ | _ | component
    · simp
    · simp
    · simp only [Option.some.injEq, exists_eq_left']
      exact Iff.rfl

theorem ShownBy.imp (shown : world.ShownBy parent child)
    (same : ∀ component, world.mounted.get? parent = some (some component) →
      after.mounted.get? parent = some (some component)) : after.ShownBy parent child := by
  obtain ⟨component, there, member⟩ := shown
  exact ⟨component, same component there, member⟩

theorem ShownBy.contains (shown : world.ShownBy parent child) : world.contains parent = true := by
  obtain ⟨component, there, _⟩ := shown
  exact contains_iff.mpr ⟨_, there⟩

/-- **Why a component is destroyed**: it was asked for, or shown by another one that is destroyed. -/
theorem reason_of_destroyAll (world : World) (ids : List String) (store : Store)
    (there : world.contains child = true)
    (gone : (world.destroyAll ids store).1.contains child = false) :
    child ∈ ids ∨ ∃ other, world.ShownBy other child ∧
      (world.destroyAll ids store).1.contains other = false := by
  fun_induction World.destroyAll world ids store with
  | case1 world store => exact absurd (there.symm.trans gone) (by decide)
  | case2 world store id rest free ih =>
    exact (ih there gone).imp_left (List.mem_cons_of_mem _)
  | case3 world store id rest place found ih =>
    have removed (other : String) : (world.remove id).mounted.get? other =
        if other = id then none else world.mounted.get? other := get?_erase_eq
    by_cases same : child = id
    · exact Or.inl (same ▸ List.mem_cons_self)
    · have still : (world.remove id).contains child = true := by
        rw [contains_eq, removed, if_neg same]
        exact there
      obtain ⟨removed', ended⟩ := exists_ended (world.remove id) ((endOf place store).1 ++ rest)
        (endOf place store).2
      rcases ih still gone with asked | ⟨other, shown, lost⟩
      · rcases List.mem_append.mp asked with member | member
        · refine Or.inr ⟨id, ?_, ?_⟩
          · cases place with
            | none => cases member
            | some component => exact ⟨component, found, member⟩
          · rw [contains_eq, ended.places, removed, if_pos rfl, ite_self]
            rfl
        · exact Or.inl (List.mem_cons_of_mem _ member)
      · refine Or.inr ⟨other, shown.imp fun component standing => ?_, lost⟩
        rw [removed] at standing
        split at standing
        · cases standing
        · exact standing

end World

/-! ### Children that are taken -/

namespace Event

/-- **A child is taken from a component**: it is destroyed by request, or because another component
shows it no longer, or along with another one that shows it. A component that has lost its place in
its own rendering is not the one that stands there later. -/
def TakesFrom (parent child : String) : Event → Prop
  | .destroys origin ids before after =>
    before.contains child = true ∧ after.contains child = false ∧
      ((child ∈ ids ∧ ∀ rendering ∈ origin, rendering.component.id = parent →
          rendering.stays = false) ∨
        ∃ other, other ≠ parent ∧ before.ShownBy other child ∧ after.contains other = false)
  | _ => False

/-- Whether a component comes, or is rendered in a place that it keeps. -/
def brings (id : String) : Event → Bool
  | .mounts other => other == id
  | .renders rendering _ => rendering.component.id == id && rendering.stays
  | .destroys .. => false

theorem tells_of_brings {id : String} {event : Event} (brings : event.brings id = true) :
    event.tells id = true := by
  cases event with
  | mounts other => exact brings
  | renders rendering place => exact (Bool.and_eq_true_iff.mp brings).1
  | destroys => cases brings

end Event

/-- **A child was taken from a component**, and has not come again since. -/
def Taken (parent child : String) : List Event → Prop
  | [] => False
  | event :: later =>
    (event.TakesFrom parent child ∧ ∀ other ∈ later, other.brings child = false) ∨
      Taken parent child later

section

variable {parent child : String} {events later : List Event}

theorem Taken.append_left (taken : Taken parent child later) :
    Taken parent child (events ++ later) := by
  induction events with
  | nil => exact taken
  | cons event rest ih => exact Or.inr ih

theorem Taken.append_right (taken : Taken parent child events)
    (quiet : ∀ event ∈ later, event.brings child = false) : Taken parent child (events ++ later) := by
  induction events with
  | nil => cases taken
  | cons event rest ih =>
    rcases taken with ⟨takes, silent⟩ | taken
    · refine Or.inl ⟨takes, fun other member => ?_⟩
      exact (List.mem_append.mp member).elim (silent other) (quiet other)
    · exact Or.inr (ih taken)

theorem taken_singleton {event : Event} (takes : event.TakesFrom parent child) :
    Taken parent child [event] := Or.inl ⟨takes, by simp⟩

end

/-! ### What a rendering shows -/

namespace ClientView

theorem mem_overlay {α β : Type} {absent : α} {fresh : β → Option α} {olds : List α} {slots : List β}
    {value : α} (member : value ∈ overlay absent fresh olds slots) :
    value = absent ∨ value ∈ olds ∨ ∃ slot ∈ slots, fresh slot = some value := by
  induction slots generalizing olds with
  | nil => cases olds <;> cases member
  | cons slot rest ih =>
    -- what comes first is fresh, or what was there
    have first {old : α} (same : value = (fresh slot).getD old) :
        value = old ∨ ∃ slot' ∈ slot :: rest, fresh slot' = some value := by
      cases changed : fresh slot with
      | none => exact Or.inl (by rw [same, changed, Option.getD_none])
      | some new =>
        rw [same, changed, Option.getD_some]
        exact Or.inr ⟨slot, List.mem_cons_self, changed⟩
    cases olds with
    | nil =>
      rcases List.mem_cons.mp member with same | later
      · exact (first same).imp_right Or.inr
      · rcases ih later with same | member | ⟨other, member, changed⟩
        · exact Or.inl same
        · cases member
        · exact Or.inr (Or.inr ⟨other, List.mem_cons_of_mem _ member, changed⟩)
    | cons old olds =>
      rcases List.mem_cons.mp member with same | later
      · rcases first same with rfl | changed
        · exact Or.inr (Or.inl List.mem_cons_self)
        · exact Or.inr (Or.inr changed)
      · rcases ih later with same | member | ⟨other, member, changed⟩
        · exact Or.inl same
        · exact Or.inr (Or.inl (List.mem_cons_of_mem _ member))
        · exact Or.inr (Or.inr ⟨other, List.mem_cons_of_mem _ member, changed⟩)

/-- What is shown after a rendering was shown before, or is named by a slot. -/
theorem mem_of_mem_liveChildren_commit {view : ClientView} {variant : String} {rendered : Rendered}
    {id : String} (shown : id ∈ (view.commit variant rendered).liveChildren) :
    id ∈ view.liveChildren ∨ id ∈ Render.childrenOf rendered.slots := by
  simp only [liveChildren, NameSet.mem_ofList, List.mem_flatten] at shown ⊢
  obtain ⟨ids, member, named⟩ := shown
  unfold commit at member
  split at member
  · obtain ⟨slot, there, rfl⟩ := List.mem_map.mp member
    exact Or.inr (List.mem_flatMap.mpr ⟨slot, there, named⟩)
  · rcases mem_overlay member with rfl | old | ⟨slot, there, changed⟩
    · cases named
    · exact Or.inl ⟨ids, old, named⟩
    · refine Or.inr (List.mem_flatMap.mpr ⟨slot, there, ?_⟩)
      rw [changed]
      exact named

end ClientView

namespace Rendering

variable {rendering : Rendering} {parent child : String}

/-- A child that a rendering shows was shown before, or comes or is rendered inside. -/
theorem told_of_shown (filed : rendering.world.Filed)
    (shown : child ∈ rendering.rendered.view.liveChildren) :
    child ∈ rendering.component.view.liveChildren ∨
      ∃ event ∈ rendering.inside, event.tells child = true := by
  cases result : rendering.result with
  | error error =>
    rw [view_of_error result] at shown
    exact Or.inl shown
  | ok rendered =>
    cases rendering.course with
    | refused error =>
      rw [result] at error
      cases error
    | failed _ _ _ error =>
      rw [result] at error
      cases error
    | @done _ template slots view own reached stored _ _ _ ran _ answered named _ _ same =>
      have committed : view = rendering.component.view.commit template.variant slots := by
        have last := (Render.slots_of_render (congrArg Prod.fst ran)).2.2
        rwa [ran] at last
      rw [same] at shown
      refine (ClientView.mem_of_mem_liveChildren_commit (committed ▸ shown)).imp_right fun new => ?_
      rw [named, ← Scope.map_id_of_answers answered] at new
      obtain ⟨call, called, rfl⟩ := List.mem_map.mp new
      obtain ⟨index, bound, there⟩ := List.getElem_of_mem called
      obtain ⟨inner, _, leads, _⟩ := exists_inner_of_ok result called
      refine ⟨_, renders_mem_inside (List.getElem?_eq_some_iff.mpr ⟨bound, there⟩) leads, ?_⟩
      exact beq_iff_eq.mpr (id_of_inner filed called leads)

/-- When a rendering is over, nothing brings a component that is gone. -/
theorem not_brings_ends (gone : rendering.settled.contains child = false)
    (place : Option (String × Nat)) : ∀ event ∈ rendering.ends place, event.brings child = false := by
  intro event member
  simp only [ends, List.mem_cons, List.not_mem_nil, or_false] at member
  rcases member with rfl | rfl
  · rfl
  · rw [Bool.eq_false_iff]
    intro brings
    obtain ⟨same, stays⟩ := Bool.and_eq_true_iff.mp brings
    rw [World.contains_eq, get?_settled, if_pos ⟨(beq_iff_eq.mp same).symm, stays⟩] at gone
    cases gone

/-- What is destroyed last in a rendering is taken from the others. -/
theorem taken_ends (there : rendering.reached.contains child = true)
    (gone : rendering.settled.contains child = false)
    (kept : rendering.settled.contains parent = true)
    (other : child ∈ rendering.dropped → rendering.component.id = parent →
      rendering.stays = false) (place : Option (String × Nat)) :
    Taken parent child (rendering.ends place) := by
  have silent := not_brings_ends gone place
  rw [contains_settled] at gone kept
  obtain ⟨store, same⟩ := rendering.exists_after_eq
  have reason := World.reason_of_destroyAll rendering.reached rendering.dropped store there
  rw [← same] at reason
  refine Or.inl ⟨⟨there, gone, ?_⟩, fun event member =>
    silent event (List.mem_cons_of_mem _ member)⟩
  rcases reason gone with asked | ⟨place, shown, lost⟩
  · refine Or.inl ⟨asked, fun own origin => ?_⟩
    cases origin
    exact other asked
  · refine Or.inr ⟨place, ?_, shown, lost⟩
    rintro rfl
    rw [kept] at lost
    cases lost

end Rendering

/-! ### Worlds -/

namespace World

variable {world after : World} {events : List Event} {parent child : String}

/-- What is destroyed by request is taken from those that stay. -/
theorem taken_destroyAll (world : World) (ids : List String) (store : Store)
    (there : world.contains child = true)
    (gone : (world.destroyAll ids store).1.contains child = false)
    (kept : (world.destroyAll ids store).1.contains parent = true) :
    Taken parent child [.destroys none ids world (world.destroyAll ids store).1] := by
  refine taken_singleton ⟨there, gone, ?_⟩
  rcases reason_of_destroyAll world ids store there gone with asked | ⟨place, shown, lost⟩
  · exact Or.inl ⟨asked, nofun⟩
  · refine Or.inr ⟨place, ?_, shown, lost⟩
    rintro rfl
    rw [kept] at lost
    cases lost

namespace Goes

/-- **What comes while a component is rendered is there afterwards, or was taken from it.** -/
theorem taken_of_told (goes : Goes Alike world events after)
    (kept : after.mounted.get? parent = some none)
    (told : world.contains child = true ∨ ∃ event ∈ events, event.tells child = true)
    (gone : after.contains child = false) : Taken parent child events := by
  induction goes with
  | still alike =>
    rcases told with there | ⟨_, member, _⟩
    · rw [alike.contains, there] at gone
      cases gone
    · cases member
  | @mounts world component free view =>
    have places : ((world.put component).emit component.id (.status .subscribed)).mounted.get? child =
        if child = component.id then some (some component) else world.mounted.get? child :=
      get?_insert_eq
    rw [contains_eq, places] at gone
    split at gone
    · cases gone
    · next ne =>
      rcases told with there | ⟨_, member, tells⟩
      · rw [← contains_eq, there] at gone
        cases gone
      · cases List.mem_singleton.mp member
        exact absurd (beq_iff_eq.mp tells).symm ne
  | destroys world ids store =>
    rcases told with there | ⟨_, member, tells⟩
    · exact taken_destroyAll world ids store there gone (contains_iff.mpr ⟨_, kept⟩)
    · cases List.mem_singleton.mp member
      cases tells
  | @renders world rendering place stands taken _ _ ih =>
    obtain ⟨ne, before⟩ := Rendering.empty_of_settled kept
    by_cases there : rendering.reached.contains child = true
    · refine Taken.append_left (Rendering.taken_ends there gone ?_
        (fun _ own => absurd own.symm ne) place)
      rw [contains_eq, kept]
      rfl
    · refine (ih before ?_ (by simpa using there)).append_right
        (Rendering.not_brings_ends gone place)
      rcases told with held | ⟨event, member, tells⟩
      · refine Or.inl ?_
        rwa [taken, contains_takeOut (contains_iff.mpr ⟨_, stands⟩)]
      · rcases List.mem_append.mp member with inside | last
        · exact Or.inr ⟨event, inside, tells⟩
        · simp only [Rendering.ends, List.mem_cons, List.not_mem_nil, or_false] at last
          rcases last with rfl | rfl
          · cases tells
          · refine Or.inl ?_
            rw [taken, contains_eq, get?_takeOut, if_pos (beq_iff_eq.mp tells).symm]
            rfl
  | @trans before middle after first second early late ih ih' =>
    by_cases held : middle.contains child = true ∨ ∃ event ∈ second, event.tells child = true
    · exact (ih' kept held gone).append_left
    · rw [not_or, Bool.not_eq_true] at held
      refine (ih (late.empty kept).1 ?_ held.1).append_right fun event member => ?_
      · refine told.imp_right ?_
        rintro ⟨event, member, tells⟩
        rcases List.mem_append.mp member with here | there
        · exact ⟨event, here, tells⟩
        · exact absurd ⟨event, there, tells⟩ held.2
      · rw [Bool.eq_false_iff]
        exact fun brings => held.2 ⟨event, member, Event.tells_of_brings brings⟩

/-- A child that a component shows when it was rendered is there, or was taken from it, unless the
component showed it before and it did not come. -/
theorem dangles_rendered {rendering : Rendering} (filed : world.Filed)
    (stands : world.mounted.get? rendering.component.id = some (some rendering.component))
    (taken : rendering.world = world.takeOut rendering.component.id)
    (inside : Goes Alike rendering.world rendering.inside rendering.reached)
    (stays : rendering.stays = true) (member : child ∈ rendering.rendered.view.liveChildren)
    (gone : rendering.settled.contains child = false) (place : Option (String × Nat)) :
    (world.Dangles rendering.component.id child ∧
        ∀ event ∈ rendering.events place, event.brings child = false) ∨
      Taken rendering.component.id child (rendering.events place) := by
  have before := Rendering.empty_of_stays stays
  have kept : rendering.settled.contains rendering.component.id = true :=
    contains_iff.mpr ⟨_, (rendering.get?_settled _).trans (if_pos ⟨rfl, stays⟩)⟩
  have quiet := Rendering.not_brings_ends gone place
  by_cases there : rendering.reached.contains child = true
  · refine Or.inr (Taken.append_left (Rendering.taken_ends there gone kept (fun dropped => ?_) place))
    exact absurd member (NameSet.mem_diff.mp dropped).2
  · by_cases told : rendering.world.contains child = true ∨
        ∃ event ∈ rendering.inside, event.tells child = true
    · exact Or.inr ((inside.taken_of_told before told (by simpa using there)).append_right quiet)
    · rw [not_or, Bool.not_eq_true, taken, contains_takeOut (contains_iff.mpr ⟨_, stands⟩)] at told
      have old := (Rendering.told_of_shown (taken ▸ filed.takeOut _) member).resolve_right told.2
      refine Or.inl ⟨⟨⟨_, stands, old⟩, told.1⟩, fun event within => ?_⟩
      rcases List.mem_append.mp within with here | last
      · rw [Bool.eq_false_iff]
        exact fun brings => told.2 ⟨event, here, Event.tells_of_brings brings⟩
      · exact quiet event last

/-- **A child that a component shows is there, or was taken from it**, unless it was gone before and
did not come again. -/
theorem dangles (goes : Goes Alike world events after) (filed : world.Filed)
    (dangles : after.Dangles parent child) :
    (world.Dangles parent child ∧ ∀ event ∈ events, event.brings child = false) ∨
      Taken parent child events := by
  induction goes with
  | still alike =>
    obtain ⟨⟨component, there, member⟩, gone⟩ := dangles
    obtain ⟨old, found, same⟩ := alike.exists_of_get? there
    have view : old.view.children = component.view.children :=
      congrArg (fun likeness => likeness.2.2.children) same
    refine Or.inl ⟨⟨⟨old, found, ?_⟩, alike.contains child ▸ gone⟩, by simp⟩
    rw [ClientView.liveChildren, view]
    exact member
  | @mounts world component free view =>
    obtain ⟨⟨other, there, member⟩, gone⟩ := dangles
    have places (id : String) :
        ((world.put component).emit component.id (.status .subscribed)).mounted.get? id =
          if id = component.id then some (some component) else world.mounted.get? id :=
      get?_insert_eq
    rw [contains_eq, places] at gone
    rw [places] at there
    split at gone
    · cases gone
    · next ne =>
      split at there
      · cases there
        rw [view] at member
        cases member
      · exact Or.inl ⟨⟨⟨other, there, member⟩, gone⟩, by simpa [Event.brings] using Ne.symm ne⟩
  | destroys world ids store =>
    obtain ⟨shown, gone⟩ := dangles
    have before : world.ShownBy parent child := shown.imp fun _ => get?_of_destroyAll
    by_cases there : world.contains child = true
    · exact Or.inr (taken_destroyAll world ids store there gone shown.contains)
    · exact Or.inl ⟨⟨before, by simpa using there⟩, by simp [Event.brings]⟩
  | @renders world rendering place stands taken inside _ ih =>
    obtain ⟨shown, gone⟩ := dangles
    have kept := shown.contains
    have begun : rendering.world.Filed := taken ▸ filed.takeOut _
    have held : world.contains rendering.component.id = true := contains_iff.mpr ⟨_, stands⟩
    obtain ⟨component, standing, member⟩ := shown
    by_cases own : parent = rendering.component.id ∧ rendering.stays = true
    · rw [rendering.get?_settled, if_pos own] at standing
      cases standing
      obtain ⟨rfl, stays⟩ := own
      exact dangles_rendered filed stands taken inside stays member gone place
    · have before : rendering.reached.ShownBy parent child := by
        rcases Rendering.cases_of_settled standing with ⟨same, stays, _⟩ | before
        · exact absurd ⟨same, stays⟩ own
        · exact ⟨component, before, member⟩
      by_cases there : rendering.reached.contains child = true
      · refine Or.inr (Taken.append_left (Rendering.taken_ends there gone kept
          (fun _ same => ?_) place))
        exact Bool.eq_false_iff.mpr fun stays => own ⟨same.symm, stays⟩
      · rcases ih begun ⟨before, by simpa using there⟩ with ⟨⟨shown, absent⟩, quiet⟩ | taken
        · refine Or.inl ⟨⟨shown.imp fun component standing => ?_, ?_⟩, fun event within => ?_⟩
          · rw [taken, get?_takeOut] at standing
            split at standing
            · cases standing
            · exact standing
          · rw [← contains_takeOut held child, ← taken]
            exact absent
          · exact (List.mem_append.mp within).elim (quiet event)
              (Rendering.not_brings_ends gone place event)
        · exact Or.inr (taken.append_right (Rendering.not_brings_ends gone place))
  | @trans before middle after first second early late ih ih' =>
    rcases ih' (early.filed filed) dangles with ⟨before, silent⟩ | taken
    · rcases ih filed before with ⟨before, quiet⟩ | taken
      · exact Or.inl ⟨before, fun event member =>
          (List.mem_append.mp member).elim (quiet event) (silent event)⟩
      · exact Or.inr (taken.append_right silent)
    · exact Or.inr taken.append_left

end Goes

end World

/-! ### Sessions -/

namespace Session

variable {config : Config} {parent child : String}

/-- **Each child that is shown and was not taken is there**: after every entry of every session, what a
component in its place shows is mounted, unless it was destroyed by request, or because another
component showed it no longer, or along with another one that showed it, and has not come again. -/
theorem contains_of_shown {entries : List Entry}
    (shown : (reached config entries).world.ShownBy parent child)
    (kept : ¬ Taken parent child (events config entries)) :
    (reached config entries).contains child = true := by
  rcases goes_reached config entries with ⟨_, goes⟩ | finished
  · by_contra absent
    have gone : (reached config entries).world.contains child = false := Bool.not_eq_true _ ▸ absent
    rcases goes.dangles (show (Session.new config).world.Filed from nofun) ⟨shown, gone⟩ with
      ⟨⟨⟨_, there, _⟩, _⟩, _⟩ | taken
    · cases there
    · exact kept taken
  · obtain ⟨_, there, _⟩ := shown
    rw [finished.gone] at there
    cases there

/-- Whether some events leave a component where it is. -/
def isSpared (child : String) (events : List Event) : Bool := events.all fun event =>
  match event with
  | .destroys _ _ before after => !before.contains child || after.contains child
  | _ => true

theorem not_taken_of_isSpared {events : List Event} (spared : isSpared child events = true) :
    ¬ Taken parent child events := by
  intro taken
  induction events with
  | nil => cases taken
  | cons event later ih =>
    obtain ⟨here, rest⟩ := Bool.and_eq_true_iff.mp spared
    rcases taken with ⟨takes, _⟩ | taken
    · cases event with
      | mounts => cases takes
      | renders => cases takes
      | destroys origin ids before after =>
        obtain ⟨there, gone, _⟩ := takes
        simp [there, gone] at here
    · exact ih rest taken

/-- A page with a row that an action hides. -/
def hidingPage (item : ComponentDef) : Draft :=
  ((Draft.page item "<% if on %><%= child(\"Row\", \"a\") %><% end %>").addReactive "on"
    (.literal (.bool true))).addAction "off"
      (.plain fun _ => .ask (.set "on" (.bool false)) fun _ => .done (.ok ()))

/-- A page is mounted with its row. -/
theorem contains_of_shown_of_page : ∃ item page, row.build = .ok item ∧
    (hidingPage item).build = .ok page ∧
    (reached Config.default [.mount "p" page]).world.ShownBy "p" "a" ∧
    (reached Config.default [.mount "p" page]).contains "a" = true := by
  have checked : ComponentDef.isBuiltTo row.build (fun item => ComponentDef.isBuiltTo
      (hidingPage item).build fun page =>
        decide ((reached Config.default [.mount "p" page]).world.ShownBy "p" "a") &&
        isSpared "a" (events Config.default [.mount "p" page])) = true := by decide +kernel
  obtain ⟨item, built, passes⟩ := ComponentDef.exists_of_isBuiltTo checked
  obtain ⟨page, made, passes⟩ := ComponentDef.exists_of_isBuiltTo passes
  rw [Bool.and_eq_true, decide_eq_true_eq] at passes
  exact ⟨item, page, built, made, passes.1,
    contains_of_shown passes.1 (not_taken_of_isSpared passes.2)⟩

/--
**A row that two pages show is taken from one of them**: the other page hides it, and it is destroyed.
-/
theorem not_contains_of_hiding : ¬ ∀ (config : Config) (entry : Entry) (earlier : List Entry)
    (parent child : String), (∀ id, .unmount id ∉ entry :: earlier) →
      ((reached config earlier).enter entry).result.isOk = true →
      (reached config (entry :: earlier)).world.ShownBy parent child →
      (reached config (entry :: earlier)).contains child = true := by
  intro claimed
  have checked : ComponentDef.isBuiltTo row.build (fun item => ComponentDef.isBuiltTo
      (hidingPage item).build fun page =>
        ((reached Config.default [.mount "q" page, .mount "p" page]).enter
          (.handle [.action "p" "off" none])).result.isOk &&
        decide ((reached Config.default [.handle [.action "p" "off" none], .mount "q" page,
          .mount "p" page]).world.ShownBy "q" "a") &&
        !(reached Config.default [.handle [.action "p" "off" none], .mount "q" page,
          .mount "p" page]).contains "a") = true := by decide +kernel
  obtain ⟨item, _, passes⟩ := ComponentDef.exists_of_isBuiltTo checked
  obtain ⟨page, _, passes⟩ := ComponentDef.exists_of_isBuiltTo passes
  rw [Bool.and_eq_true, Bool.and_eq_true, decide_eq_true_eq, Bool.not_eq_true'] at passes
  obtain ⟨⟨ok, shown⟩, gone⟩ := passes
  have there := claimed _ _ _ "q" "a" (by simp) ok shown
  rw [gone] at there
  cases there

end Session

end ReactiveView
