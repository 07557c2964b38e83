/-
**The client is told of every component that comes or goes.**

Whatever happens to the components of a session, each one that comes is announced by `subscribed` and
each one that goes by `destroyed`, once and at once. So the news alone tell which components are there,
and in which order.

* `Follows` — how the mounted ids follow what is sent.
* `Envelope.statusesOf`, `Envelope.standing` — what the news tell.
* `World.Goes.follows` — the ids of a world follow what is sent on its way.
* `Session.subscriptions` — in every session that is not disconnected, the news tell what is mounted.
-/

import Mathlib.Data.List.Chain
import ReactiveView.Proofs.Session.History

namespace ReactiveView

/-! ### What the news tell -/

namespace Envelope

/-- The status that an envelope tells of a component. -/
def statusOf? (id : String) (envelope : Envelope) : Option Status :=
  match envelope.payload with
  | .status status => if envelope.component = id then some status else none
  | _ => none

/-- The statuses that a component was sent, oldest first. -/
def statusesOf (id : String) (history : List Envelope) : List Status :=
  history.filterMap (statusOf? id)

/-- **The components whose last status is `subscribed`**, in the order in which these were sent. -/
def standing : List Envelope → List String
  | [] => []
  | envelope :: later =>
    match envelope.payload with
    | .status .subscribed =>
      if statusesOf envelope.component later = [] then envelope.component :: standing later
      else standing later
    | _ => standing later

end Envelope

/-- Statuses alternate strictly, and the first is `subscribed`. -/
def Status.Alternates (statuses : List Status) : Prop :=
  (∀ first ∈ statuses.head?, first = .subscribed) ∧ statuses.IsChain (· ≠ ·)

/-- **The ids follow what is sent**: an id that comes is new and stands last, one that goes was there,
and nothing else changes them. -/
inductive Follows : List String → List Envelope → List String → Prop
  | refl (ids : List String) : Follows ids [] ids
  | came {ids after : List String} {later : List Envelope} {id : String} (absent : id ∉ ids)
    (follows : Follows (ids ++ [id]) later after) :
    Follows ids (.news .subscribed id :: later) after
  | went {ids after : List String} {later : List Envelope} {id : String} (present : id ∈ ids)
    (follows : Follows (ids.filter (· ≠ id)) later after) :
    Follows ids (.news .destroyed id :: later) after
  | other {ids after : List String} {later : List Envelope} {envelope : Envelope}
    (silent : ∀ status, envelope.payload ≠ .status status) (follows : Follows ids later after) :
    Follows ids (envelope :: later) after

namespace Follows

open Envelope

variable {ids middle after : List String} {history later : List Envelope}

theorem trans (first : Follows ids history middle) (second : Follows middle later after) :
    Follows ids (history ++ later) after := by
  induction first with
  | refl => exact second
  | came absent _ ih => exact .came absent (ih second)
  | went present _ ih => exact .went present (ih second)
  | other silent _ ih => exact .other silent (ih second)

theorem of_silent (ids : List String)
    (silent : ∀ envelope ∈ history, ∀ status, envelope.payload ≠ .status status) :
    Follows ids history ids := by
  induction history with
  | nil => exact .refl ids
  | cons envelope rest ih =>
    exact .other (silent envelope List.mem_cons_self)
      (ih fun other member => silent other (List.mem_cons_of_mem _ member))

theorem statusesOf_news (status : Status) (id other : String) (later : List Envelope) :
    statusesOf other (.news status id :: later) =
      if id = other then status :: statusesOf other later else statusesOf other later := by
  unfold statusesOf
  rw [List.filterMap_cons]
  by_cases same : id = other
  · simp [statusOf?, same]
  · simp [statusOf?, same]

theorem statusesOf_silent {envelope : Envelope}
    (silent : ∀ status, envelope.payload ≠ .status status) (id : String) :
    statusesOf id (envelope :: later) = statusesOf id later := by
  unfold statusesOf
  rw [List.filterMap_cons]
  obtain ⟨component, _ | status | _⟩ := envelope
  · rfl
  · exact absurd rfl (silent status)
  · rfl

/-- The status that a component is in. -/
def statusIn (ids : List String) (id : String) : Status :=
  if id ∈ ids then .subscribed else .destroyed

/-- **The statuses of a component alternate**, from the one that it is in. -/
theorem alternates (follows : Follows ids history after) (id : String) :
    (statusIn ids id :: statusesOf id history).IsChain (· ≠ ·) := by
  induction follows with
  | refl ids => exact .singleton _
  | @came ids after later other absent _ ih =>
    rw [statusesOf_news]
    split
    · next same =>
      subst same
      refine .cons_cons ?_ ?_
      · simp [statusIn, absent]
      · simpa [statusIn] using ih
    · next ne => simpa [statusIn, Ne.symm ne] using ih
  | @went ids after later other present _ ih =>
    rw [statusesOf_news]
    split
    · next same =>
      subst same
      refine .cons_cons ?_ ?_
      · simp [statusIn, present]
      · simpa [statusIn] using ih
    · next ne => simpa [statusIn, Ne.symm ne] using ih
  | other silent _ ih => rwa [statusesOf_silent silent]

/-- A component is there afterwards if `subscribed` is the last that was told of it. -/
theorem getLast?_statuses (follows : Follows ids history after) (id : String) :
    (statusIn ids id :: statusesOf id history).getLast? = some (statusIn after id) := by
  induction follows with
  | refl ids => rfl
  | @came ids after later other absent _ ih =>
    rw [statusesOf_news]
    split
    · next same =>
      subst same
      rw [List.getLast?_cons_cons]
      simpa [statusIn] using ih
    · next ne => simpa [statusIn, Ne.symm ne] using ih
  | @went ids after later other present _ ih =>
    rw [statusesOf_news]
    split
    · next same =>
      subst same
      rw [List.getLast?_cons_cons]
      simpa [statusIn] using ih
    · next ne => simpa [statusIn, Ne.symm ne] using ih
  | other silent _ ih => rwa [statusesOf_silent silent]

theorem mem_after_iff (follows : Follows [] history after) (id : String) :
    id ∈ after ↔ (statusesOf id history).getLast? = some .subscribed := by
  have last := follows.getLast?_statuses id
  cases told : statusesOf id history with
  | nil =>
    rw [told] at last
    by_cases there : id ∈ after
    · simp [statusIn, there] at last
    · simp [there]
  | cons first rest =>
    rw [told, List.getLast?_cons_cons] at last
    rw [last]
    by_cases there : id ∈ after <;> simp [statusIn, there]

/-- **The ids that are there afterwards**: those of which nothing was told, and those whose last status
is `subscribed`. -/
theorem after_eq (follows : Follows ids history after) :
    after = ids.filter (fun id => statusesOf id history = []) ++ standing history := by
  induction follows with
  | refl ids => simp [statusesOf, standing]
  | @came ids after later other absent _ ih =>
    have untold : ids.filter (fun id => statusesOf id (.news .subscribed other :: later) = []) =
        ids.filter fun id => statusesOf id later = [] := by
      refine List.filter_congr fun id member => ?_
      have ne : other ≠ id := fun same => absent (same ▸ member)
      rw [statusesOf_news, if_neg ne]
    rw [ih, untold, List.filter_append, List.append_assoc]
    congr 1
    by_cases last : statusesOf other later = [] <;> simp [standing, last]
  | @went ids after later other present _ ih =>
    have untold : ids.filter (fun id => statusesOf id (.news .destroyed other :: later) = []) =
        (ids.filter (· ≠ other)).filter fun id => statusesOf id later = [] := by
      rw [List.filter_filter]
      refine List.filter_congr fun id member => ?_
      rw [statusesOf_news]
      by_cases same : other = id
      · simp [same]
      · simp [same, Ne.symm same]
    rw [ih, untold]
    rfl
  | @other ids after later envelope silent _ ih =>
    have unmoved : standing (envelope :: later) = standing later := by
      obtain ⟨component, _ | status | _⟩ := envelope
      · rfl
      · exact absurd rfl (silent status)
      · rfl
    simp only [ih, statusesOf_silent silent, unmoved]

end Follows

/-! ### Worlds -/

namespace World

variable {world after : World} {events : List Event}

/-- Each component that is destroyed is announced. -/
theorem follows_destroyAll (world : World) (ids : List String) (store : Store) :
    ∃ news, (world.destroyAll ids store).1.outgoing = world.outgoing ++ news ∧
      Follows world.ids news (world.destroyAll ids store).1.ids := by
  fun_induction World.destroyAll world ids store with
  | case1 world store => exact ⟨[], (List.append_nil _).symm, .refl _⟩
  | case2 world store id rest free ih => exact ih
  | case3 world store id rest place found ih =>
    obtain ⟨news, sent, follows⟩ := ih
    refine ⟨.news .destroyed id :: news, ?_, .went ?_ ?_⟩
    · rw [sent]
      simp [World.remove, World.emit]
    · exact mem_ids_iff.mpr (contains_iff.mpr ⟨place, found⟩)
    · have left : (world.remove id).ids = world.ids.filter (· ≠ id) :=
        OrderedMap.keys_erase world.mounted id
      exact left ▸ follows

/-- **The ids of a world follow what is sent on its way.** -/
theorem Goes.follows (goes : Goes Lingers world events after) :
    ∃ news, after.outgoing = world.outgoing ++ news ∧ Follows world.ids news after.ids := by
  induction goes with
  | still lingers =>
    obtain ⟨envelopes, sent, silent⟩ := lingers.outgoing
    exact ⟨envelopes, sent, lingers.ids ▸ .of_silent _ silent⟩
  | @mounts world component free view =>
    have absent : component.id ∉ world.ids := by simp [mem_ids_iff, free]
    refine ⟨[.news .subscribed component.id], rfl, .came absent ?_⟩
    have last : ((world.put component).emit component.id (.status .subscribed)).ids =
        world.ids ++ [component.id] := (ids_put world component).trans (if_neg (by simp [free]))
    exact last ▸ .refl _
  | destroys world ids store => exact follows_destroyAll world ids store
  | @renders world rendering place stands taken _ _ ih =>
    obtain ⟨news, sent, follows⟩ := ih
    obtain ⟨store, ends⟩ := rendering.exists_after_eq
    obtain ⟨later, more, further⟩ := follows_destroyAll rendering.reached rendering.dropped store
    rw [← ends] at more further
    have kept : rendering.world.ids = world.ids := by
      rw [taken, ids_takeOut (contains_iff.mpr ⟨_, stands⟩)]
    have unsent : rendering.world.outgoing = world.outgoing := by rw [taken]; rfl
    refine ⟨news ++ later, ?_, ?_⟩
    · rw [rendering.outgoing_settled, more, sent, unsent, List.append_assoc]
    · rw [rendering.ids_settled, ← kept]
      exact follows.trans further
  | trans _ _ first second =>
    obtain ⟨news, sent, follows⟩ := first
    obtain ⟨later, more, further⟩ := second
    exact ⟨news ++ later, by rw [more, sent, List.append_assoc], follows.trans further⟩

end World

/-! ### Sessions -/

namespace Session

open Envelope

variable {config : Config}

theorem follows_reached {entries : List Entry} (stays : .disconnect ∉ entries) :
    Follows [] (history config entries) (reached config entries).componentIds := by
  induction entries with
  | nil => exact .refl _
  | cons entry earlier ih =>
    rw [List.mem_cons, not_or] at stays
    obtain ⟨filed, unsent, _⟩ := covered_reached config earlier
    obtain ⟨final, leads⟩ := exists_leads filed unsent (Ne.symm stays.1)
    obtain ⟨news, more, follows⟩ := leads.goes.follows
    rw [unsent, List.nil_append] at more
    have told : sent config (entry :: earlier) = news := leads.sent.trans more
    have there : (reached config (entry :: earlier)).componentIds = final.ids := by
      change ((reached config earlier).enter entry).session.world.ids = final.ids
      rw [leads.world]
      rfl
    rw [history, told, there]
    exact (ih stays.2).trans follows

/-- **The client is told of every component that comes or goes**: in every session that is not
disconnected, the statuses of each component alternate from `subscribed` on, what is mounted are those
whose last status is `subscribed`, and they stand in the order in which these were sent. -/
theorem subscriptions {entries : List Entry} (stays : .disconnect ∉ entries) :
    (∀ id, Status.Alternates (statusesOf id (history config entries))) ∧
      (∀ id, id ∈ (reached config entries).componentIds ↔
        (statusesOf id (history config entries)).getLast? = some .subscribed) ∧
      (reached config entries).componentIds = standing (history config entries) := by
  have follows : Follows [] (history config entries) _ := follows_reached stays
  refine ⟨fun id => ?_, follows.mem_after_iff, follows.after_eq⟩
  obtain ⟨first, rest⟩ := List.isChain_cons.mp (follows.alternates id)
  refine ⟨fun status head => ?_, rest⟩
  have other := first status head
  cases status with
  | subscribed => rfl
  | destroyed => exact absurd rfl other

/-- A page is mounted with a row, and unmounted again. -/
theorem subscriptions_of_page : ∃ item page, row.build = .ok item ∧
    (Draft.page item "<%= child(\"Row\", \"a\") %>").build = .ok page ∧
    (reached Config.default [.mount "p" page]).componentIds = ["p", "a"] ∧
    (reached Config.default [.unmount "p", .mount "p" page]).componentIds = [] := by
  have checked : ComponentDef.isBuiltTo row.build (fun item => ComponentDef.isBuiltTo
      (Draft.page item "<%= child(\"Row\", \"a\") %>").build fun page =>
        decide (standing (history Config.default [.mount "p" page]) = ["p", "a"]) &&
        decide (standing (history Config.default [.unmount "p", .mount "p" page]) = [])) = true := by
    decide +kernel
  obtain ⟨item, built, passes⟩ := ComponentDef.exists_of_isBuiltTo checked
  obtain ⟨page, made, passes⟩ := ComponentDef.exists_of_isBuiltTo passes
  rw [Bool.and_eq_true, decide_eq_true_eq, decide_eq_true_eq] at passes
  refine ⟨item, page, built, made, ?_, ?_⟩
  · rw [(subscriptions (by simp)).2.2, passes.1]
  · rw [(subscriptions (by simp)).2.2, passes.2]

end Session

end ReactiveView
