/-
**Markup is sent to a component that is there.**

Markup for a component is the last that a turn of the component sends, and the component stands in its
place when the turn begins. On the way it may be destroyed, by a component that is rendered inside of
it and shows it no longer; then the markup is sent all the same.

* `Turn.Delivers` — markup is the last that a turn sends.
* `World.Announced` — the last that was told of each mounted component is `subscribed`.
* `Attended` — all markup is delivered by a turn.
* `Session.subscribed_iff_of_render` — markup is sent to a component while it is subscribed, unless the
  turn that the markup comes from has destroyed the component.
-/

import ReactiveView.Proofs.Session.Discipline
import ReactiveView.Proofs.Session.Subscriptions

namespace ReactiveView

open Envelope

/-- **Markup is the last that a turn sends**, after its news; and it is sent while the component is
subscribed, unless the last of these news is that the component is destroyed. -/
structure Turn.Delivers (turn : Turn) (before : List Envelope) (id : String)
    (slots : List (Option String)) : Prop where
  component : turn.component.id = id
  markup : ∃ rendered, turn.rendering.result = .ok rendered ∧ rendered.markup = slots
  news : turn.news <:+ before
  subscribed : (statusesOf id before).getLast? = some .subscribed ↔
    (statusesOf id turn.news).getLast? ≠ some .destroyed

/-- **All markup is delivered by a turn.** -/
def Attended (known : Turn → Prop) (history : List Envelope) : Prop :=
  ∀ before id slots after, history = before ++ ⟨id, .render slots⟩ :: after →
    ∃ turn, known turn ∧ turn.Delivers before id slots

section

variable {known other : Turn → Prop} {history more : List Envelope}

theorem Attended.imp (attended : Attended known history) (wider : ∀ turn, known turn → other turn) :
    Attended other history := by
  intro before id slots after split
  obtain ⟨turn, holds, delivers⟩ := attended before id slots after split
  exact ⟨turn, wider turn holds, delivers⟩

theorem Attended.append (attended : Attended known history)
    (rest : ∀ before id slots after, more = before ++ ⟨id, .render slots⟩ :: after →
      ∃ turn, known turn ∧ turn.Delivers (history ++ before) id slots) :
    Attended known (history ++ more) := by
  intro before id slots after split
  rcases List.append_eq_append_iff.mp split with ⟨middle, same, behind⟩ | ⟨middle, same, behind⟩
  · rw [same]
    exact rest middle id slots after behind
  · cases middle with
    | nil =>
      rw [List.append_nil] at same
      subst same
      have here := rest [] id slots after (by simpa using behind.symm)
      rwa [List.append_nil] at here
    | cons first middle =>
      obtain ⟨rfl, rfl⟩ := List.cons.inj behind
      exact attended before id slots middle same

theorem statusesOf_append (id : String) (history more : List Envelope) :
    statusesOf id (history ++ more) = statusesOf id history ++ statusesOf id more :=
  List.filterMap_append

end

/-! ### What the client was told of the components that are there -/

namespace World

variable {world after : World} {history news : List Envelope}

/-- **The last that was told of each mounted component** is that it is subscribed. -/
def Announced (world : World) (history : List Envelope) : Prop :=
  ∀ id ∈ world.ids, (statusesOf id history).getLast? = some .subscribed

theorem Announced.follows (announced : world.Announced history)
    (follows : Follows world.ids news after.ids) : after.Announced (history ++ news) := by
  intro id there
  have last := follows.getLast?_statuses id
  rw [Follows.statusIn, Follows.statusIn, if_pos there] at last
  rw [statusesOf_append, List.getLast?_append]
  cases told : statusesOf id news with
  | nil =>
    rw [told] at last
    split at last
    · next before => exact announced id before
    · cases last
  | cons first rest =>
    rw [told, List.getLast?_cons_cons] at last
    rw [last]
    rfl

/-- What was sent so far, and what is to be sent: the client was told of all components that are there,
and all markup was delivered by a turn. -/
structure Attends (world : World) (known : Turn → Prop) (history : List Envelope) : Prop where
  filed : world.Filed
  announced : world.Announced (history ++ world.outgoing)
  attended : Attended known (history ++ world.outgoing)

/-- On its way a world goes on to attend, if the markup that is sent is delivered by turns. -/
theorem Attends.goes {known : Turn → Prop} {events : List Event}
    (attends : world.Attends known history) (goes : Goes Lingers world events after)
    (sent : after.outgoing = world.outgoing ++ news)
    (delivered : ∀ before id slots rest, news = before ++ ⟨id, .render slots⟩ :: rest →
      ∃ turn, known turn ∧ turn.Delivers (history ++ world.outgoing ++ before) id slots) :
    after.Attends known history := by
  obtain ⟨told, outgoing, follows⟩ := goes.follows
  cases List.append_cancel_left (outgoing.symm.trans sent)
  refine ⟨(goes.mono alike_of_lingers).filed attends.filed, ?_, ?_⟩
  · rw [outgoing, ← List.append_assoc]
    exact attends.announced.follows follows
  · rw [outgoing, ← List.append_assoc]
    exact attends.attended.append delivered

/-- Where no markup is sent, none needs a turn. -/
theorem Attends.goes_silent {known : Turn → Prop} {events : List Event}
    (attends : world.Attends known history) (goes : Goes Lingers world events after)
    (sent : after.outgoing = world.outgoing ++ news)
    (silent : ∀ envelope ∈ news, ∀ slots, envelope.payload ≠ .render slots) :
    after.Attends known history := by
  refine attends.goes goes sent fun before id slots rest split => ?_
  exact absurd rfl (silent ⟨id, .render slots⟩ (split ▸ by simp) slots)

end World

/-! ### Turns -/

namespace Turn

variable {turn : Turn} {inlined : List String} {history : List Envelope}

/-- **At the end of a turn, its component is there unless it was destroyed.** -/
theorem delivers (filed : turn.cycle.world.Filed)
    (stands : turn.cycle.world.mounted.get? turn.component.id = some (some turn.component))
    (announced : turn.cycle.world.Announced history) {rendered : Rendered}
    (ok : turn.rendering.result = .ok rendered) :
    turn.Delivers (history ++ turn.news) turn.component.id rendered.markup := by
  have goes := (turn.rendering.goes_settled turn.cycle.world none filed stands rfl nofun).mono
    World.lingers_of_rests
  obtain ⟨news, sent, follows⟩ := goes.follows
  have same : turn.news = news := by rw [Turn.news, sent, List.drop_left]
  refine ⟨rfl, ⟨rendered, ok, rfl⟩, List.suffix_append _ _, ?_⟩
  have there : turn.component.id ∈ turn.cycle.world.ids :=
    World.mem_ids_iff.mpr (World.contains_iff.mpr ⟨_, stands⟩)
  rw [statusesOf_append, List.getLast?_append, announced _ there, same]
  rcases (statusesOf turn.component.id news).getLast? with _ | _ | _ <;> simp

/-- **After a turn**, its markup was delivered by it. -/
theorem attends_after {known : Turn → Prop} (attends : turn.cycle.world.Attends known history)
    (stands : turn.cycle.world.mounted.get? turn.component.id = some (some turn.component))
    (holds : known turn) :
    (turn.cycle.renderOne inlined turn.component turn.dirty).1.world.Attends known history := by
  have filed : turn.cycle.world.Filed := attends.filed
  have goes := turn.rendering.goes_settled turn.cycle.world none filed stands rfl (by simp)
  obtain ⟨_, news, sent, status⟩ := goes.sends
  have same : turn.news = news := by rw [Turn.news, sent, List.drop_left]
  have settled : turn.rendering.settled.Attends known history := by
    refine attends.goes_silent (goes.mono World.lingers_of_rests) sent fun envelope member slots => ?_
    obtain ⟨_, _, rfl⟩ := status envelope member
    simp
  have comes := turn.world_renderOne inlined
  cases result : turn.rendering.result with
  | error error =>
    rw [result] at comes
    obtain ⟨_, html, fails⟩ := comes
    rw [fails]
    refine settled.goes_silent (Cycle.goes_failure settled.filed turn.component.id html)
      (by rw [World.emit, Cycle.outgoing_invalidated]) fun envelope member slots => ?_
    rw [List.mem_singleton.mp member]
    simp
  | ok rendered =>
    rw [result] at comes
    obtain ⟨_, ends⟩ := comes
    rw [ends]
    split
    · exact settled
    · refine settled.goes (.still (World.lingers_emit _ turn.component.id (by simp))) rfl
        fun before id slots rest split => ?_
      -- the markup is all that is sent after the news
      obtain rfl : before = [] := by
        cases before with
        | nil => rfl
        | cons first before => simp at split
      cases split
      rw [List.append_nil, sent, ← same, ← List.append_assoc]
      exact ⟨turn, holds, delivers filed stands attends.announced result⟩

end Turn

/-! ### Cycles and sessions -/

namespace Cycle

variable {known : Turn → Prop} {history : List Envelope}

theorem attends_renderAll {cycle : Cycle} (attends : cycle.world.Attends known history)
    (inlined : List String) (affected : List (String × Dirty))
    (holds : ∀ turn ∈ cycle.turns inlined affected, known turn) :
    (cycle.renderAll inlined affected).world.Attends known history := by
  induction affected generalizing cycle inlined with
  | nil => exact attends
  | cons first rest ih =>
    obtain ⟨id, dirty⟩ := first
    unfold renderAll
    unfold turns at holds
    split
    · next inside =>
      rw [if_pos inside] at holds
      exact ih attends inlined holds
    · next outside =>
      rw [if_neg outside] at holds
      cases found : cycle.world.instance? id with
      | error error =>
        rw [found] at holds
        exact ih attends inlined holds
      | ok component =>
        rw [found] at holds
        have there := World.instance?_eq_ok_iff.mp found
        rw [← attends.filed there] at there
        have turn := @Turn.attends_after ⟨cycle, component, dirty⟩ inlined history known attends there
          (holds _ List.mem_cons_self)
        dsimp only at turn holds ⊢
        generalize cycle.renderOne inlined component dirty = reached at turn holds ⊢
        exact ih turn reached.2 fun later member => holds later (List.mem_cons_of_mem _ member)

theorem attends_run {world : World} (attends : world.Attends known history) (request : Request)
    (store : Store) (holds : ∀ turn ∈ turnsOf world request store, known turn) :
    (run world request store).world.Attends known history := by
  have filed : (start world store).world.Filed := attends.filed
  refine attends_renderAll ?_ [] _ holds
  have goes := goes_perform filed request
  have performs := performs_perform filed rfl rfl request
  have begun : (start world store).world.Attends known history := attends
  cases performs with
  | done _ _ outgoing =>
    exact begun.goes_silent goes (outgoing.trans (List.append_nil _).symm) (by simp)
  | failed _ _ outgoing => exact begun.goes_silent goes outgoing (by simp)

end Cycle

namespace Session

variable {config : Config}

theorem attends_enter {session : Session} {known : Turn → Prop} {told : List Envelope}
    (attends : session.world.Attends known told) (unsent : session.world.outgoing = [])
    (entry : Entry) (holds : ∀ turn ∈ session.turns entry, known turn) :
    (session.enter entry).session.world.Attends known (told ++ (session.enter entry).sent) := by
  have filed : session.world.Filed := attends.filed
  have entered := session.entered filed entry
  -- what is to be sent is sent
  have flushed {final : World} (attends : final.Attends known told) :
      World.Attends { final with outgoing := [] } known (told ++ final.outgoing) := by
    refine ⟨attends.filed, ?_, ?_⟩
    · change World.Announced { final with outgoing := [] } (told ++ final.outgoing ++ [])
      rw [List.append_nil]
      exact attends.announced
    · change Attended known (told ++ final.outgoing ++ [])
      rw [List.append_nil]
      exact attends.attended
  generalize (session.enter entry).sent = sent, (session.enter entry).session.world = after
    at entered ⊢
  cases entered with
  | stands stands none =>
    rw [List.append_nil]
    exact attends.goes_silent (.still (World.lingers_of_stands stands))
      (stands.outgoing.trans (List.append_nil _).symm) (by simp)
  | disconnected none gone outgoing =>
    refine ⟨fun there => ?_, fun id there => ?_, ?_⟩
    · rw [gone] at there
      cases there
    · rw [World.mem_ids_iff, World.contains_eq, gone] at there
      cases there
    · rw [outgoing, List.append_nil, List.append_nil]
      have attended := attends.attended
      rwa [unsent, List.append_nil] at attended
  | unmounted ids none =>
    obtain ⟨gone, ended⟩ := World.exists_ended session.world ids session.store
    exact flushed (attends.goes_silent (.destroys _ ids session.store) ended.outgoing (by simp))
  | @ran world request store runs starts =>
    have asks := goes_asked runs
    obtain ⟨_, news, sent, status⟩ := asks.sends
    refine flushed (Cycle.attends_run ?_ request store fun turn member => holds turn ?_)
    · refine attends.goes_silent (asks.mono World.lingers_of_rests) sent fun envelope member slots => ?_
      obtain ⟨_, _, rfl⟩ := status envelope member
      nofun
    · rw [turns, runs]
      exact member

/-- The turns of some entries. -/
def IsTurn (config : Config) (entries : List Entry) (turn : Turn) : Prop :=
  ∃ entry earlier, entry :: earlier <:+ entries ∧ turn ∈ (reached config earlier).turns entry

/-- In every state, all markup was delivered by a turn. -/
theorem attends_reached (config : Config) (entries : List Entry) :
    (reached config entries).world.Attends (IsTurn config entries) (history config entries) := by
  induction entries with
  | nil =>
    refine ⟨fun there => ?_, fun id there => ?_, fun before id slots after split => ?_⟩
    · cases there
    · cases there
    · simp [history, reached, new, World.new] at split
  | cons entry earlier ih =>
    obtain ⟨_, unsent, _⟩ := covered_reached config earlier
    have wider (turn : Turn) : IsTurn config earlier turn → IsTurn config (entry :: earlier) turn := by
      rintro ⟨last, before, suffix, member⟩
      exact ⟨last, before, suffix.trans (List.suffix_cons _ _), member⟩
    exact attends_enter ⟨ih.filed, ih.announced, ih.attended.imp wider⟩ unsent entry
      fun turn member => ⟨entry, earlier, List.suffix_refl _, member⟩

/-- **Markup is sent to a component while it is subscribed**: it is delivered by a turn of the component,
and the last that the client was told is that the component is subscribed, unless the turn itself has
destroyed the component, which has not come again in it. -/
theorem delivers_of_render {entries : List Entry} {before after : List Envelope} {id : String}
    {slots : List (Option String)}
    (split : history config entries = before ++ ⟨id, .render slots⟩ :: after) :
    ∃ turn, IsTurn config entries turn ∧ turn.Delivers before id slots := by
  have attended := (attends_reached config entries).attended
  rw [(covered_reached config entries).2.1, List.append_nil] at attended
  exact attended before id slots after split

/-- A frame that shows a row until something has moved. -/
def frame (child : ComponentDef) : Draft :=
  ((Draft.empty "Frame").addChild child).addTemplate standardVariant
    "<p><% if moved %><% else %><%= child(\"Row\", \"a\") %><% end %></p>"

/-- A frame shows a row, which is unmounted; and then a page comes under the id of the row, with the frame
inside of it, which shows the row no longer. -/
def displacing (frame page : ComponentDef) : List Entry :=
  [.mount "a" page, .setIdentity "moved" (.bool true), .unmount "a", .mount "b" frame,
    .setIdentity "moved" (.bool false)]

/-- What the client is told first of a frame with a row, and then of a page that the frame destroys. -/
def displaced : List Envelope :=
  [.news .subscribed "b", .news .subscribed "a",
    ⟨"b", .render [some "<p>", some "<li></li>", some "</p>"]⟩, .news .destroyed "a",
    .news .subscribed "a", .news .destroyed "a"]

theorem exists_displacing : ∃ item inner page, row.build = .ok item ∧
    (frame item).build = .ok inner ∧
    (Draft.page inner "<%= child(\"Frame\", \"b\") %>").build = .ok page ∧
    history Config.default (displacing inner page) =
      displaced ++ [⟨"a", .render [some "<p></p>"]⟩] := by
  have checked : ComponentDef.isBuiltTo row.build (fun item =>
      ComponentDef.isBuiltTo (frame item).build fun inner => ComponentDef.isBuiltTo
      (Draft.page inner "<%= child(\"Frame\", \"b\") %>").build fun page =>
        decide (history Config.default (displacing inner page) =
          displaced ++ [⟨"a", .render [some "<p></p>"]⟩])) = true := by
    decide +kernel
  obtain ⟨item, itemBuilt, passes⟩ := ComponentDef.exists_of_isBuiltTo checked
  obtain ⟨inner, innerBuilt, passes⟩ := ComponentDef.exists_of_isBuiltTo passes
  obtain ⟨page, pageBuilt, passes⟩ := ComponentDef.exists_of_isBuiltTo passes
  exact ⟨item, inner, page, itemBuilt, innerBuilt, pageBuilt, of_decide_eq_true passes⟩

/-- The turn of a page destroys the page, and then delivers its markup. -/
theorem delivers_of_render_of_displacing : ∃ (inner page : ComponentDef) (turn : Turn),
    history Config.default (displacing inner page) =
      displaced ++ [⟨"a", .render [some "<p></p>"]⟩] ∧
    turn.Delivers displaced "a" [some "<p></p>"] ∧
    (statusesOf "a" turn.news).getLast? = some .destroyed := by
  obtain ⟨item, inner, page, _, _, _, split⟩ := exists_displacing
  obtain ⟨turn, _, delivers⟩ := delivers_of_render split
  have last : (statusesOf "a" displaced).getLast? = some .destroyed := by decide
  refine ⟨inner, page, turn, split, delivers, by_contra fun stays => ?_⟩
  have subscribed := delivers.subscribed.mpr stays
  rw [last] at subscribed
  cases subscribed

/-- **A page whose own turn destroys it is sent markup all the same**, when it is there no longer. -/
theorem not_subscribed_of_displacing : ¬ ∀ (config : Config) (entries : List Entry),
    (∀ id definition, .mount id definition ∈ entries → definition.Built) →
    ∀ (before : List Envelope) (id : String) (slots : List (Option String)) (after : List Envelope),
      history config entries = before ++ ⟨id, .render slots⟩ :: after →
      (statusesOf id before).getLast? = some .subscribed := by
  intro claimed
  obtain ⟨item, inner, page, itemBuilt, innerBuilt, pageBuilt, split⟩ := exists_displacing
  have held : inner.Built := .of_child (.intro itemBuilt nofun) rfl innerBuilt
  have built (id : String) (definition : ComponentDef)
      (member : .mount id definition ∈ displacing inner page) : definition.Built := by
    simp only [displacing, List.mem_cons, reduceCtorEq, Entry.mount.injEq, List.not_mem_nil, or_false,
      false_or] at member
    rcases member with ⟨_, rfl⟩ | ⟨_, rfl⟩
    · exact .page held pageBuilt
    · exact held
  have last : (statusesOf "a" displaced).getLast? = some .destroyed := by decide
  have subscribed := claimed _ _ built displaced "a" _ [] split
  rw [last] at subscribed
  cases subscribed

end Session

end ReactiveView
