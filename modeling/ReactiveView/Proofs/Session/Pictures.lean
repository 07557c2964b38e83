/-
**What a component shows of its children.**

A part that is the tag of a child holds the markup that the child had when it was rendered there. When
the child is rendered later on its own, or as a part of another component, nothing is done about the
part: the client shows the child as it is now, and the part has it as it was.

* `Event.makes`, `Event.shows` — a component comes or is rendered, and something is rendered in a part.
* `Instance.Pictures` — a part is the tag of a child and holds some markup of it.
* `Goes.exists_before` — what is so of a component was so before, unless the component came or was
  rendered.
* `Goes.pictured` — a part holds what was rendered last in it.
* `Goes.html_of_last` — the markup of a component is that of its last rendering.
* `Session.fragment_of_tags` — both, in every session.
-/

import ReactiveView.Proofs.Render.Tags
import ReactiveView.Proofs.Session.Delivery
import ReactiveView.Proofs.Session.History

namespace ReactiveView

/-! ### The last event of a kind -/

namespace Event

/-- Whether a component comes, or is rendered with success. -/
def makes (id : String) : Event → Bool
  | .mounts other => other == id
  | .renders rendering _ => rendering.component.id == id && rendering.result.isOk
  | .destroys .. => false

/-- Whether something is rendered in a part of a component. -/
def shows (place : String × Nat) : Event → Bool
  | .renders _ shown => shown == some place
  | _ => false

/-- Where a component is shown that keeps its own place while it is rendered. -/
def place? : Event → Option (String × Nat)
  | .renders rendering place => if rendering.stays then place else none
  | _ => none

theorem tells_of_makes {id : String} {event : Event} (makes : event.makes id = true) :
    event.tells id = true := by
  cases event with
  | mounts other => exact makes
  | renders rendering place => exact (Bool.and_eq_true_iff.mp makes).1
  | destroys => cases makes

theorem makes_renders {rendering : Rendering} {place : Option (String × Nat)} {id : String} :
    (Event.renders rendering place).makes id = true ↔
      rendering.component.id = id ∧ ∃ rendered, rendering.result = .ok rendered := by
  rw [makes, Bool.and_eq_true, beq_iff_eq]
  cases result : rendering.result <;> simp [Except.isOk, Except.toBool]

theorem exists_of_shows {place : String × Nat} {event : Event} (shows : event.shows place = true) :
    ∃ rendering, event = .renders rendering (some place) := by
  cases event with
  | mounts | destroys => cases shows
  | renders rendering shown => exact ⟨rendering, by rw [beq_iff_eq.mp shows]⟩

theorem exists_of_place? {place : String × Nat} {event : Event} (shown : event.place? = some place) :
    ∃ rendering, event = .renders rendering (some place) ∧ rendering.stays = true := by
  cases event with
  | mounts | destroys => cases shown
  | renders rendering other =>
    rw [place?, Option.ite_none_right_eq_some] at shown
    exact ⟨rendering, by rw [shown.2], shown.1⟩

end Event

/-- The last event of a kind. -/
def lastOf (kind : Event → Bool) (events : List Event) : Option Event := (events.filter kind).getLast?

/-- **The part in which a component was rendered last.** There is none if it came later, or if it was
rendered on its own. -/
def placeOf (id : String) (events : List Event) : Option (String × Nat) :=
  (lastOf (Event.makes id) events).bind Event.place?

section

variable {kind other : Event → Bool} {event last : Event} {events first second : List Event}

theorem lastOf_append :
    lastOf kind (first ++ second) = (lastOf kind second).or (lastOf kind first) := by
  rw [lastOf, List.filter_append, List.getLast?_append]
  rfl

theorem lastOf_eq_none : lastOf kind events = none ↔ ∀ event ∈ events, kind event = false := by
  simp [lastOf]

theorem mem_of_lastOf (last : lastOf kind events = some event) : event ∈ events ∧ kind event = true :=
  List.mem_filter.mp (List.mem_of_getLast? last)

/-- The last one is among the later events, or none of these is of the kind. -/
theorem lastOf_append_cases (last : lastOf kind (first ++ second) = some event) :
    lastOf kind second = some event ∨
      (lastOf kind first = some event ∧ ∀ event ∈ second, kind event = false) := by
  rw [lastOf_append] at last
  cases later : lastOf kind second with
  | none =>
    rw [later] at last
    exact Or.inr ⟨last, lastOf_eq_none.mp later⟩
  | some other =>
    rw [later] at last
    exact Or.inl last

/-- The last ones of two kinds are the same if each of them is of both kinds. -/
theorem lastOf_unique (here : lastOf kind events = some event) (there : lastOf other events = some last)
    (both : other event = true) (also : kind last = true) : event = last := by
  induction events using List.reverseRecOn with
  | nil => cases here
  | append_singleton front back ih =>
    rcases lastOf_append_cases here with late | ⟨early, quiet⟩
    · have same := List.mem_singleton.mp (mem_of_lastOf late).1
      rcases lastOf_append_cases there with late' | ⟨_, silent⟩
      · exact same.trans (List.mem_singleton.mp (mem_of_lastOf late').1).symm
      · rw [silent event (same ▸ List.mem_singleton_self _)] at both
        cases both
    · rcases lastOf_append_cases there with late' | ⟨early', _⟩
      · rw [quiet last (mem_of_lastOf late').1] at also
        cases also
      · exact ih early early'

end

/-- The last one of a rendering: it is that of the component, or inside. -/
theorem Rendering.lastOf_events {rendering : Rendering} {kind : Event → Bool} {event : Event}
    {place : Option (String × Nat)}
    (spares : ∀ origin ids before after, kind (.destroys origin ids before after) = false)
    (last : lastOf kind (rendering.events place) = some event) :
    event = .renders rendering place ∨ lastOf kind rendering.inside = some event := by
  rcases lastOf_append_cases last with here | ⟨inside, _⟩
  · obtain ⟨member, ofKind⟩ := mem_of_lastOf here
    simp only [ends, List.mem_cons, List.not_mem_nil, or_false] at member
    rcases member with rfl | rfl
    · rw [spares] at ofKind
      cases ofKind
    · exact Or.inl rfl
  · exact Or.inr inside

/-! ### What a part shows -/

/-- **A part of a component is the tag of a child**, it shows this child and holds some markup of it. -/
structure Instance.Pictures (component : Instance) (part : Nat) (child : String)
    (html : Option String) : Prop where
  tag : ∀ {variant template}, component.definition.template variant = .ok template →
    component.view.variant = some template.variant →
    ∃ dynamic, template.parts[part]? = some (.dynamic dynamic) ∧ dynamic.node.IsChild
  shown : component.view.children[part]?.bind List.getLast? = some child
  html : component.view.fragments[part]?.join = html

namespace ClientView

variable {view : ClientView} {variant : String} {rendered : Rendered} {part : Nat} {slot : Slot}

/-- What a rendering brings for a part. -/
theorem getElem?_commit_of_some (there : rendered.slots[part]? = some slot) {html : String}
    (new : slot.html = some html) {ids : List String} (shown : slot.children = some ids) :
    (view.commit variant rendered).fragments[part]? = some (some html) ∧
      (view.commit variant rendered).children[part]? = some ids := by
  unfold commit
  split
  · simp [Rendered.markup, there, new, shown]
  · exact ⟨getElem?_overlay_of_some _ _ _ _ there (by rw [new]; rfl),
      getElem?_overlay_of_some _ _ _ _ there shown⟩

/-- What a rendering leaves of a part. -/
theorem getElem?_commit_of_none (thin : rendered.dense = false)
    (there : rendered.slots[part]? = some slot) (bare : slot.html = none)
    (unshown : slot.children = none) :
    (view.commit variant rendered).fragments[part]? = some view.fragments[part]?.join ∧
      (view.commit variant rendered).children[part]? = some (view.children[part]?.getD []) := by
  have fragments := getElem?_overlay_of_none none (fun slot : Slot => slot.html.map some)
    view.fragments rendered.slots there (by rw [bare]; rfl)
  have children := getElem?_overlay_of_none [] Slot.children view.children rendered.slots there unshown
  unfold commit
  rw [thin]
  refine ⟨fragments.trans (congrArg some ?_), children⟩
  cases view.fragments[part]? <;> rfl

end ClientView

namespace Rendering

variable {rendering : Rendering} {rendered : Rendered} {part : Nat} {child : String}
  {html : Option String}

/-- A call that leads to a component with the given markup. -/
def Leads (rendering : Rendering) (call : Scope.Call RenderState) (html : String) : Prop :=
  ∃ inner within, rendering.inner? call = some inner ∧ inner.result = .ok within ∧
    inner.rendered.view.html = html

theorem leads_of_fills {nesting : Nat} (depth : rendering.nesting = nesting + 1)
    {call : Scope.Call RenderState} {html : String}
    (fills : (scope nesting rendering.component).Fills html call) : rendering.Leads call html := by
  obtain ⟨child, after, answer, same⟩ := fills
  have answers := rendering.answers depth call
  rw [answer] at answers
  cases answers with
  | unfound _ error => cases error
  | @rendered inner _ leads _ _ _ _ answered =>
    cases inside : inner.result with
    | error error =>
      rw [inside] at answered
      cases answered
    | ok within =>
      rw [inside] at answered
      cases answered
      exact ⟨inner, within, leads, inside, same⟩

/-- **What a rendering that succeeds has made of a template.** -/
structure Completes (rendering : Rendering) (template : Template) (rendered : Rendered) : Prop where
  known : rendering.component.definition.template rendering.component.variant = .ok template
  view : rendering.rendered.view = rendering.component.view.commit template.variant rendered
  variant : rendering.rendered.view.variant = some template.variant
  thin : rendered.dense = false → rendering.component.view.variant = some template.variant
  length : rendered.slots.length = template.parts.length
  bare : ∀ slot ∈ rendered.slots, slot.html = none → slot.children = none ∧ rendered.dense = false
  /-- The tag of a child that was rendered shows a child in its markup. -/
  filled : ∀ {part dynamic slot html}, template.parts[part]? = some (.dynamic dynamic) →
    dynamic.node.IsChild → rendered.slots[part]? = some slot → slot.html = some html →
    ∃ index call, (Render.childrenOf (rendered.slots.take (part + 1))).length = index + 1 ∧
      rendering.calls[index]? = some call ∧ (slot.children.getD []).getLast? = some call.id ∧
      rendering.Leads call html

theorem exists_completes (ok : rendering.result = .ok rendered) :
    ∃ template, rendering.Completes template rendered := by
  cases rendering.course with
  | refused error =>
    rw [ok] at error
    cases error
  | failed _ _ _ error =>
    rw [ok] at error
    cases error
  | @done nesting template slots view _ _ _ depth known _ ran _ _ _ _ result same =>
    cases result.symm.trans ok
    have committed : view = rendering.component.view.commit template.variant rendered := by
      have last := (Render.slots_of_render (congrArg Prod.fst ran)).2.2
      rwa [ran] at last
    have dense := (Render.slots_of_render (congrArg Prod.fst ran)).2.1
    obtain ⟨variant, _, _, length⟩ := Render.view_of_render ran
    refine ⟨template, known, ?_, ?_, fun thin => (Render.sent_of_thin ran thin).2, length, ?_, ?_⟩
    · rw [same]
      exact committed
    · rw [same]
      exact variant
    · intro slot member bare
      obtain ⟨unshown, thin⟩ := (Render.exists_run_of_render ran).2 slot member bare
      exact ⟨unshown, dense.trans thin⟩
    · intro part dynamic slot html there isChild found new
      obtain ⟨index, call, position, called, last, fills⟩ :=
        (Render.noted_render ran).tags there isChild found new
      refine ⟨index, call, position, ?_, last, leads_of_fills depth fills⟩
      simp only [calls, depth, known]
      exact called

/-- The slots of some parts name no more children than those of more parts. -/
theorem length_childrenOf_take_le (slots : List Slot) {fewer more : Nat} (le : fewer ≤ more) :
    (Render.childrenOf (slots.take fewer)).length ≤ (Render.childrenOf (slots.take more)).length := by
  obtain ⟨rest, same⟩ := List.take_prefix_take_left (l := slots) le
  rw [← same]
  simp [Render.childrenOf]

/-- **The part that ends with a call** is the first one that shows so many children. -/
theorem partOf_eq_some_iff {slots : List Slot} {index part : Nat} :
    partOf slots index = some part ↔ part < slots.length ∧
      (Render.childrenOf (slots.take (part + 1))).length = index + 1 ∧
      (Render.childrenOf (slots.take part)).length < index + 1 := by
  unfold partOf
  rw [List.find?_range_eq_some]
  simp only [beq_iff_eq, List.mem_range, Bool.not_eq_true', beq_eq_false_iff_ne]
  constructor
  · rintro ⟨here, bound, before⟩
    refine ⟨bound, here, ?_⟩
    cases part with
    | zero => exact Nat.succ_pos index
    | succ part =>
      have le := length_childrenOf_take_le slots (Nat.le_succ (part + 1))
      exact lt_of_le_of_ne (here ▸ le) (before part (Nat.lt_succ_self part))
  · rintro ⟨bound, here, fewer⟩
    refine ⟨here, bound, fun other less => ?_⟩
    exact ((length_childrenOf_take_le slots less).trans_lt fewer).ne

/-- **What a rendering does to the tag of a child**: the part is as it was and shows no call, or a call
has filled it. -/
theorem pictures_cases (ok : rendering.result = .ok rendered)
    (pictures : rendering.rendered.Pictures part child html) :
    (rendering.component.Pictures part child html ∧
      ∀ index, partOf rendered.slots index ≠ some part) ∨
    ∃ index call markup, partOf rendered.slots index = some part ∧
      rendering.calls[index]? = some call ∧ call.id = child ∧ rendering.Leads call markup ∧
      html = some markup := by
  obtain ⟨template, completes⟩ := exists_completes ok
  have definition := rendering.rendered_face.2.1
  obtain ⟨dynamic, there, isChild⟩ := pictures.tag (definition ▸ completes.known) completes.variant
  have bound : part < rendered.slots.length :=
    completes.length ▸ (List.getElem?_eq_some_iff.mp there).choose
  have found := List.getElem?_eq_getElem bound
  generalize rendered.slots[part] = slot at found
  have taken : Render.childrenOf (rendered.slots.take (part + 1)) =
      Render.childrenOf (rendered.slots.take part) ++ slot.children.getD [] := by
    rw [List.take_add_one, found, Render.childrenOf, List.flatMap_append]
    simp [Render.childrenOf]
  have shown := pictures.shown
  have holds := pictures.html
  rw [completes.view] at shown holds
  cases new : slot.html with
  | none =>
    obtain ⟨unshown, thin⟩ := completes.bare slot (List.mem_of_getElem? found) new
    obtain ⟨fragment, children⟩ := @ClientView.getElem?_commit_of_none rendering.component.view
      template.variant _ _ _ thin found new unshown
    rw [fragment] at holds
    rw [children] at shown
    refine Or.inl ⟨⟨fun other same => ?_, ?_, holds⟩, fun index shows => ?_⟩
    · rw [completes.thin thin, ← completes.variant] at same
      exact pictures.tag (definition ▸ other) same
    · cases old : rendering.component.view.children[part]? with
      | none =>
        rw [old] at shown
        cases shown
      | some ids =>
        rw [old] at shown
        exact shown
    · obtain ⟨_, here, fewer⟩ := partOf_eq_some_iff.mp shows
      rw [taken, unshown, Option.getD_none, List.append_nil] at here
      exact fewer.ne here
  | some markup =>
    obtain ⟨index, call, position, called, last, leads⟩ := completes.filled there isChild found new
    cases brought : slot.children with
    | none =>
      rw [brought] at last
      cases last
    | some ids =>
      obtain ⟨fragment, children⟩ := @ClientView.getElem?_commit_of_some rendering.component.view
        template.variant _ _ _ found _ new _ brought
      rw [fragment] at holds
      rw [children] at shown
      rw [brought, Option.getD_some] at last taken
      have some := List.length_pos_of_mem (List.mem_of_getLast? last)
      rw [taken, List.length_append] at position
      refine Or.inr ⟨index, call, markup, partOf_eq_some_iff.mpr ⟨bound, ?_, by omega⟩, called,
        Option.some.inj (last.symm.trans shown), leads, holds.symm⟩
      rw [taken, List.length_append, position]

/-- A part in which nothing was rendered is as it was. -/
theorem pictures_of_quiet (stays : rendering.stays = true)
    (quiet : ∀ event ∈ rendering.inside, event.shows (rendering.component.id, part) = false)
    (pictures : rendering.rendered.Pictures part child html) :
    rendering.component.Pictures part child html := by
  cases result : rendering.result with
  | error error =>
    obtain ⟨_, definition, _⟩ := rendering.rendered_face
    have view := view_of_error result
    refine ⟨fun known variant => pictures.tag (definition ▸ known) (view ▸ variant), ?_, ?_⟩
    · exact view ▸ pictures.shown
    · exact view ▸ pictures.html
  | ok rendered =>
    rcases pictures_cases result pictures with ⟨before, _⟩ | ⟨index, call, _, ends, called, _, leads, _⟩
    · exact before
    · obtain ⟨inner, _, leads, _⟩ := leads
      have silent := quiet _ (renders_mem_inside called leads)
      rw [placeOf_eq_some_iff.mpr ⟨rfl, stays, rendered, result, ends⟩] at silent
      simp [Event.shows] at silent

/-! ### Where a component is shown -/

/-- **What is shown as a part of a component is rendered by it**, or the component is rendered inside. -/
theorem place_cases {inner : Rendering} {id : String} {part : Nat} {rendering : Rendering}
    (member : .renders inner (some (id, part)) ∈ rendering.inside) :
    (id = rendering.component.id ∧ ∃ rendered index call, rendering.result = .ok rendered ∧
      rendering.calls[index]? = some call ∧ rendering.inner? call = some inner ∧
      partOf rendered.slots index = some part) ∨
    ∃ event ∈ rendering.inside, event.tells id = true := by
  induction rendering using induct with
  | step rendering within =>
    rw [inside_eq] at member
    obtain ⟨⟨call, index⟩, listed, here⟩ := List.mem_flatMap.mp member
    have called := List.mem_zipIdx_iff_getElem?.mp listed
    rcases List.mem_append.mp here with mounts | here
    · unfold mountsOf at mounts
      split at mounts
      · cases List.mem_singleton.mp mounts
      · cases mounts
    · split at here
      · next other leads =>
        have deeper {event : Event} (member : event ∈ other.events (rendering.placeOf index)) :
            event ∈ rendering.inside := by
          rw [inside_eq]
          refine List.mem_flatMap.mpr ⟨(call, index), listed, List.mem_append_right _ ?_⟩
          rw [leads]
          exact member
        rcases List.mem_append.mp here with inside | last
        · rcases within call other leads inside with ⟨rfl, _⟩ | ⟨event, member, tells⟩
          · exact Or.inr ⟨_, renders_mem_inside called leads, beq_self_eq_true _⟩
          · exact Or.inr ⟨event, deeper (List.mem_append_left _ member), tells⟩
        · simp only [ends, List.mem_cons, List.not_mem_nil, or_false, reduceCtorEq, false_or,
            Event.renders.injEq] at last
          obtain ⟨rfl, place⟩ := last
          obtain ⟨own, _, rendered, ok, found⟩ := placeOf_eq_some_iff.mp place.symm
          exact Or.inl ⟨own, rendered, index, call, ok, called, leads, found⟩
      · cases here

/-- A component whose place is kept is not rendered inside of its own rendering. -/
theorem not_tells_inside (inside : World.Goes World.Alike rendering.world rendering.inside
      rendering.reached) (stays : rendering.stays = true) {event : Event}
    (member : event ∈ rendering.inside) : event.tells rendering.component.id = false :=
  (inside.empty (empty_of_stays stays)).2 event member

/-- **A part holds what was rendered in it.** -/
theorem pictured_inside {inner : Rendering} (inside : World.Goes World.Alike rendering.world
      rendering.inside rendering.reached) (filed : rendering.world.Filed)
    (stays : rendering.stays = true)
    (member : .renders inner (some (rendering.component.id, part)) ∈ rendering.inside)
    (pictures : rendering.rendered.Pictures part child html) :
    html = some inner.rendered.view.html ∧ inner.component.id = child ∧
      ∃ rendered, inner.result = .ok rendered := by
  rcases place_cases member with ⟨_, rendered, index, call, ok, called, leads, found⟩ |
    ⟨event, member, tells⟩
  · rcases pictures_cases ok pictures with ⟨_, none⟩ | ⟨other, last, markup, ends, there, named, filled,
      holds⟩
    · exact absurd found (none index)
    · have same := (partOf_eq_some_iff.mp found).2.1.symm.trans (partOf_eq_some_iff.mp ends).2.1
      cases Nat.succ.inj same
      cases called.symm.trans there
      obtain ⟨filler, within, leads', succeeds, same⟩ := filled
      cases leads.symm.trans leads'
      exact ⟨holds.trans (congrArg some same.symm),
        (id_of_inner filed (List.mem_of_getElem? called) leads).trans named, within, succeeds⟩
  · rw [not_tells_inside inside stays member] at tells
    cases tells

end Rendering

/-! ### Worlds -/

namespace World

/-- A component in its place has a part that is the tag of a child and holds some markup of it. -/
def Pictures (world : World) (parent : String) (part : Nat) (child : String) (html : Option String) :
    Prop :=
  ∃ component, world.mounted.get? parent = some (some component) ∧ component.Pictures part child html

variable {world after : World} {events : List Event} {id parent child : String} {part : Nat}
  {html : Option String}

namespace Goes

/-- **What is so of a component was so before**, unless the component came or was rendered. -/
theorem exists_before {motive : Instance → Prop} (goes : Goes Alike world events after)
    (alike : ∀ old new : Instance, old.likeness = new.likeness → motive new → motive old)
    (mounts : ∀ new : Instance, .mounts new.id ∈ events → new.id = id → new.view = ClientView.empty →
      ¬ motive new)
    (renders : ∀ (rendering : Rendering) (place : Option (String × Nat)),
      (∀ event ∈ rendering.events place, event ∈ events) → rendering.component.id = id →
      rendering.stays = true → motive rendering.rendered → motive rendering.component)
    {component : Instance} (there : after.mounted.get? id = some (some component))
    (holds : motive component) :
    ∃ old, world.mounted.get? id = some (some old) ∧ motive old := by
  induction goes generalizing component with
  | still still =>
    obtain ⟨old, found, same⟩ := still.exists_of_get? there
    exact ⟨old, found, alike _ _ same holds⟩
  | @mounts world new free view =>
    change (world.mounted.insert new.id (some new)).get? id = _ at there
    rw [get?_insert_eq] at there
    split at there
    · next same =>
      cases there
      exact absurd holds (mounts _ (by simp) same.symm view)
    · exact ⟨_, there, holds⟩
  | destroys => exact ⟨_, get?_of_destroyAll there, holds⟩
  | @renders world rendering place stands taken _ _ ih =>
    rcases Rendering.cases_of_settled there with ⟨rfl, stays, same⟩ | before
    · cases same
      exact ⟨_, stands, renders rendering place (fun _ => id) rfl stays holds⟩
    · have inside {event : Event} (member : event ∈ rendering.inside) :
          event ∈ rendering.events place := List.mem_append_left _ member
      obtain ⟨old, found, holds⟩ := ih (fun new member => mounts new (inside member))
        (fun other place' members => renders other place' fun event member =>
          inside (members event member)) before holds
      rw [taken, get?_takeOut] at found
      split at found
      · cases found
      · exact ⟨old, found, holds⟩
  | trans _ _ ih ih' =>
    obtain ⟨middle, found, holds⟩ := ih'
      (fun new member => mounts new (List.mem_append_right _ member))
      (fun rendering place members => renders rendering place fun event member =>
        List.mem_append_right _ (members event member)) there holds
    exact ih (fun new member => mounts new (List.mem_append_left _ member))
      (fun rendering place members => renders rendering place fun event member =>
        List.mem_append_left _ (members event member)) found holds

variable (goes : Goes Alike world events after)

include goes

/-- As long as nothing is rendered in a part, it stays as it is. -/
theorem pictures_before (quiet : ∀ event ∈ events, event.shows (parent, part) = false)
    (pictures : after.Pictures parent part child html) : world.Pictures parent part child html := by
  obtain ⟨component, there, pictures⟩ := pictures
  refine goes.exists_before (fun old new same pictures => ?_) (fun new _ _ view pictures => ?_)
    (fun rendering place members own stays pictures => ?_) there pictures
  · have definition : old.definition = new.definition := congrArg (fun likeness => likeness.2.1) same
    have variant : old.view.variant = new.view.variant :=
      congrArg (fun likeness => likeness.2.2.variant) same
    have children : old.view.children = new.view.children :=
      congrArg (fun likeness => likeness.2.2.children) same
    have fragments : old.view.fragments = new.view.fragments :=
      congrArg (fun likeness => likeness.2.2.fragments) same
    exact ⟨fun known shown => pictures.tag (definition ▸ known) (variant ▸ shown),
      children ▸ pictures.shown, fragments ▸ pictures.html⟩
  · have shown := pictures.shown
    rw [view] at shown
    cases shown
  · subst own
    exact Rendering.pictures_of_quiet stays
      (fun event member => quiet event (members event (List.mem_append_left _ member))) pictures

/-- As long as a component is not rendered, its markup stays as it is. -/
theorem html_before (quiet : ∀ event ∈ events, event.makes child = false) {component : Instance}
    (there : after.mounted.get? child = some (some component)) :
    ∃ old, world.mounted.get? child = some (some old) ∧ old.view.html = component.view.html := by
  refine goes.exists_before (motive := fun old => old.view.html = component.view.html)
    (fun old new same holds => ?_) (fun new member own _ _ => ?_)
    (fun rendering place members own _ holds => ?_) there rfl
  · exact (congrArg (fun likeness => likeness.2.2.html) same).trans holds
  · have made := quiet _ member
    simp [Event.makes, own] at made
  · have silent := quiet _
      (members (.renders rendering place) (by simp [Rendering.events, Rendering.ends]))
    cases result : rendering.result with
    | error error => rwa [Rendering.view_of_error result] at holds
    | ok rendered =>
      rw [Event.makes_renders.mpr ⟨own, rendered, result⟩] at silent
      cases silent

variable (filed : world.Filed)

include filed

/-- **A part holds what was rendered last in it.** -/
theorem pictured {event : Event} (last : lastOf (Event.shows (parent, part)) events = some event)
    (pictures : after.Pictures parent part child html) :
    ∃ inner, event = .renders inner (some (parent, part)) ∧ html = some inner.rendered.view.html ∧
      inner.component.id = child ∧ ∃ rendered, inner.result = .ok rendered := by
  induction goes with
  | still => cases last
  | mounts | destroys => cases last
  | @renders world rendering shown stands taken inside kept ih =>
    have begun : rendering.world.Filed := taken ▸ filed.takeOut _
    obtain ⟨component, there, pictures⟩ := pictures
    rcases Rendering.lastOf_events (fun _ _ _ _ => rfl) last with rfl | within
    · -- the parent is being rendered, so it is not in its place
      have place := beq_iff_eq.mp (mem_of_lastOf last).2
      cases there.symm.trans (kept _ _ place)
    · rcases Rendering.cases_of_settled there with ⟨rfl, stays, same⟩ | before
      · cases same
        obtain ⟨member, shows⟩ := mem_of_lastOf within
        obtain ⟨inner, rfl⟩ := Event.exists_of_shows shows
        exact ⟨inner, rfl, Rendering.pictured_inside inside begun stays member pictures⟩
      · exact ih begun within ⟨component, before, pictures⟩
  | trans early late ih ih' =>
    rcases lastOf_append_cases last with second | ⟨first, quiet⟩
    · exact ih' (early.filed filed) second pictures
    · exact ih filed first (late.pictures_before quiet pictures)

/-- **The markup of a component is that of its last rendering**, if it kept its place. -/
theorem html_of_last {inner : Rendering} {place : Option (String × Nat)}
    (last : lastOf (Event.makes child) events = some (.renders inner place))
    (stays : inner.stays = true) {component : Instance}
    (there : after.mounted.get? child = some (some component)) :
    component.view.html = inner.rendered.view.html := by
  induction goes generalizing component with
  | still => cases last
  | mounts =>
    obtain ⟨member, _⟩ := mem_of_lastOf last
    simp at member
  | destroys => cases last
  | @renders world rendering shown stands taken inside _ ih =>
    have begun : rendering.world.Filed := taken ▸ filed.takeOut _
    rcases Rendering.lastOf_events (fun _ _ _ _ => rfl) last with same | within
    · cases same
      have own := (Event.makes_renders.mp (mem_of_lastOf last).2).1
      rw [Rendering.get?_settled, if_pos ⟨own.symm, stays⟩] at there
      cases there
      rfl
    · rcases Rendering.cases_of_settled there with ⟨rfl, keeps, _⟩ | before
      · obtain ⟨member, makes⟩ := mem_of_lastOf within
        have silent := Rendering.not_tells_inside inside keeps member
        rw [Event.tells_of_makes makes] at silent
        cases silent
      · exact ih begun within before
  | trans early late ih ih' =>
    rcases lastOf_append_cases last with second | ⟨first, quiet⟩
    · exact ih' (early.filed filed) second there
    · obtain ⟨old, found, same⟩ := late.html_before quiet there
      exact same.symm.trans (ih filed first found)

end Goes

end World

/-! ### Sessions -/

/-- **A part of a component is the tag of a child**, and it shows this child. -/
def Instance.Tags (component : Instance) (part : Nat) (child : String) : Prop :=
  ∃ variant template dynamic, component.definition.template variant = .ok template ∧
    component.view.variant = some variant ∧ template.parts[part]? = some (.dynamic dynamic) ∧
    dynamic.node.IsChild ∧ component.view.children[part]?.bind List.getLast? = some child

instance (component : Instance) (part : Nat) (child : String) :
    Decidable (component.Tags part child) :=
  decidable_of_iff ((match component.view.variant with
      | some variant => match component.definition.template variant with
        | .ok template => match template.parts[part]? with
          | some (.dynamic dynamic) => decide dynamic.node.IsChild &&
            component.view.children[part]?.bind List.getLast? == some child
          | _ => false
        | .error _ => false
      | none => false) = true) <| by
    constructor
    · intro holds
      split at holds
      · next variant shown =>
        split at holds
        · next template known =>
          split at holds
          · next dynamic there =>
            rw [Bool.and_eq_true, decide_eq_true_eq, beq_iff_eq] at holds
            exact ⟨variant, template, dynamic, known, shown, there, holds⟩
          · cases holds
        · cases holds
      · cases holds
    · rintro ⟨variant, template, dynamic, known, shown, there, isChild, last⟩
      simp [shown, known, there, isChild, last]

/-- The tag of a child holds some markup of it. -/
theorem Instance.Sound.pictures {component : Instance} (sound : component.Sound) {part : Nat}
    {child : String} (tags : component.Tags part child) :
    component.Pictures part child component.view.fragments[part]?.join := by
  obtain ⟨variant, template, dynamic, known, shown, there, isChild, last⟩ := tags
  refine ⟨fun {other template'} known' shown' => ⟨dynamic, ?_, isChild⟩, last, rfl⟩
  rw [sound.built.variant_eq known', shown] at shown'
  cases shown'
  cases known.symm.trans known'
  exact there

namespace Session

/-- The markup of a component is that of its view. -/
theorem exists_of_html {session : Session} {id html : String} (shown : session.html id = .ok html) :
    ∃ component, session.world.mounted.get? id = some (some component) ∧
      component.view.html = html := by
  unfold Session.html at shown
  cases known : session.world.instance? id with
  | error error =>
    rw [known] at shown
    cases shown
  | ok component =>
    rw [known] at shown
    exact ⟨component, World.instance?_eq_ok_iff.mp known, Except.ok.inj shown⟩

variable {config : Config} {parent child : String} {part : Nat} {page : Instance}

/-- **A part holds its child as it was when it was rendered last in it**: in every session, the tag of a
child has the markup of the last rendering there; and this is what the child is now, if it has come or
has been rendered nowhere else since then. -/
theorem fragment_of_tags {entries : List Entry}
    (built : ∀ id definition, .mount id definition ∈ entries → definition.Built)
    (there : (reached config entries).world.instance? parent = .ok page) (tags : page.Tags part child) :
    ∃ inner, lastOf (Event.shows (parent, part)) (events config entries) =
        some (.renders inner (some (parent, part))) ∧
      inner.component.id = child ∧ page.view.fragments[part]? = some (some inner.rendered.view.html) ∧
      ∀ html, (reached config entries).html child = .ok html →
        placeOf child (events config entries) = some (parent, part) →
        page.view.fragments[part]? = some (some html) := by
  obtain ⟨keeps, _⟩ := keeps_reached built
  have stands := World.instance?_eq_ok_iff.mp there
  have pictures : (reached config entries).world.Pictures parent part child _ :=
    ⟨page, stands, (keeps.sound.components stands).pictures tags⟩
  rcases goes_reached config entries with ⟨_, goes⟩ | finished
  · have filed : (Session.new config).world.Filed := nofun
    cases last : lastOf (Event.shows (parent, part)) (events config entries) with
    | none =>
      obtain ⟨_, impossible, _⟩ := goes.pictures_before (lastOf_eq_none.mp last) pictures
      cases impossible
    | some event =>
      obtain ⟨inner, rfl, fragment, named, ok⟩ := goes.pictured filed last pictures
      have fragment := Option.join_eq_some_iff.mp fragment
      refine ⟨inner, rfl, named, fragment, fun html shown place => fragment.trans ?_⟩
      obtain ⟨event, latest, place⟩ := Option.bind_eq_some_iff.mp place
      obtain ⟨other, rfl, stays⟩ := Event.exists_of_place? place
      -- the last rendering of the child is the last one in the part
      cases lastOf_unique last latest (Event.makes_renders.mpr ⟨named, ok⟩) (beq_self_eq_true _)
      obtain ⟨component, found, rfl⟩ := exists_of_html shown
      rw [goes.html_of_last filed latest stays found]
  · rw [finished.gone] at stands
    cases stands

/-- Whether what is there of a component, and the markup of another one, pass a check. -/
def showsBoth (session : Session) (parent child : String) (check : Instance → String → Bool) : Bool :=
  match session.world.instance? parent, session.html child with
  | .ok component, .ok html => check component html
  | _, _ => false

theorem exists_of_showsBoth {session : Session} {parent child : String}
    {check : Instance → String → Bool} (passes : session.showsBoth parent child check = true) :
    ∃ component html, session.world.instance? parent = .ok component ∧
      session.html child = .ok html ∧ check component html = true := by
  unfold showsBoth at passes
  split at passes
  · next component html there markup => exact ⟨component, html, there, markup, passes⟩
  · cases passes

/-- Whether something that is sent is no error. -/
def isCalmed (envelope : Envelope) : Bool :=
  match envelope.payload with
  | .error _ => false
  | _ => true

/-- A page is mounted with its row. -/
theorem fragment_of_tags_of_page : ∃ row page component html, labelledRow.build = .ok row ∧
    (Draft.page row "<%= child(\"Row\", \"a\") %>").build = .ok page ∧
    (reached Config.default [.mount "p" page]).world.instance? "p" = .ok component ∧
    (reached Config.default [.mount "p" page]).html "a" = .ok html ∧
    component.view.fragments[0]? = some (some html) := by
  have checked : ComponentDef.isBuiltTo labelledRow.build (fun row => ComponentDef.isBuiltTo
      (Draft.page row "<%= child(\"Row\", \"a\") %>").build fun page =>
        (reached Config.default [.mount "p" page]).showsBoth "p" "a" fun component _ =>
          decide (component.Tags 0 "a") &&
          decide (placeOf "a" (events Config.default [.mount "p" page]) = some ("p", 0))) = true := by
    decide +kernel
  obtain ⟨row, rowBuilt, passes⟩ := ComponentDef.exists_of_isBuiltTo checked
  obtain ⟨page, pageBuilt, passes⟩ := ComponentDef.exists_of_isBuiltTo passes
  obtain ⟨component, html, there, markup, passes⟩ := exists_of_showsBoth passes
  rw [Bool.and_eq_true, decide_eq_true_eq, decide_eq_true_eq] at passes
  have built (id : String) (definition : ComponentDef)
      (member : .mount id definition ∈ [Entry.mount "p" page]) : definition.Built := by
    cases List.mem_singleton.mp member
    exact .page (.intro rowBuilt (fun found => by cases found)) pageBuilt
  obtain ⟨_, _, _, _, now⟩ := fragment_of_tags built there passes.1
  exact ⟨row, page, component, html, rowBuilt, pageBuilt, there, markup, now html markup passes.2⟩

/--
**A row that is rendered on its own is not what the page holds**: its label changes, and the page has it
as it was.
-/
theorem not_fragment_of_relabelled : ¬ ∀ (config : Config) (entry : Entry) (earlier : List Entry),
    (∀ id definition, .mount id definition ∈ entry :: earlier → definition.Built) →
    ((reached config earlier).enter entry).result.isOk = true →
    ∀ (parent child : String) (part : Nat) (page : Instance) (html : String),
      (reached config (entry :: earlier)).world.instance? parent = .ok page →
      page.Tags part child → (reached config (entry :: earlier)).html child = .ok html →
      (∀ envelope ∈ history config (entry :: earlier), ∀ text, envelope ≠ ⟨child, .error text⟩) →
      page.view.fragments[part]? = some (some html) := by
  intro claimed
  have checked : ComponentDef.isBuiltTo labelledRow.build (fun row => ComponentDef.isBuiltTo
      (Draft.page row "<%= child(\"Row\", \"a\") %>").build fun page =>
        ((reached Config.default [.mount "p" page]).enter
          (.handle [.action "a" "relabel" none])).result.isOk &&
        (reached Config.default [.handle [.action "a" "relabel" none], .mount "p" page]).showsBoth
          "p" "a" fun component html => decide (component.Tags 0 "a") &&
            decide (component.view.fragments[0]? ≠ some (some html)) &&
            (history Config.default [.handle [.action "a" "relabel" none], .mount "p" page]).all
              isCalmed) = true := by
    decide +kernel
  obtain ⟨row, rowBuilt, passes⟩ := ComponentDef.exists_of_isBuiltTo checked
  obtain ⟨page, pageBuilt, passes⟩ := ComponentDef.exists_of_isBuiltTo passes
  obtain ⟨ok, passes⟩ := Bool.and_eq_true_iff.mp passes
  obtain ⟨component, html, there, markup, passes⟩ := exists_of_showsBoth passes
  rw [Bool.and_eq_true, Bool.and_eq_true, decide_eq_true_eq, decide_eq_true_eq,
    List.all_eq_true] at passes
  obtain ⟨⟨tags, differs⟩, calm⟩ := passes
  have built (id : String) (definition : ComponentDef) (member : .mount id definition ∈
      [Entry.handle [.action "a" "relabel" none], .mount "p" page]) : definition.Built := by
    simp only [List.mem_cons, reduceCtorEq, Entry.mount.injEq, List.not_mem_nil, or_false,
      false_or] at member
    rw [member.2]
    exact .page (.intro rowBuilt (fun found => by cases found)) pageBuilt
  refine differs (claimed _ _ _ built ok "p" "a" 0 component html there tags markup ?_)
  rintro envelope member text rfl
  cases calm _ member

end Session

end ReactiveView
