/-
**The events of a session.**

What an entry does to the components of a session is to mount one, to destroy some, or to render some
in the turns of its cycle. In between code runs, failures are shown and markup is sent, and nothing
happens to the components.

* `World.Lingers` — nothing happens to the components, and what is sent is no news.
* `Session.eventsOf`, `Session.events` — what happens in an entry, and in some entries.
* `Session.goes_enter` — where an entry leads.
* `Session.goes_reached` — every session goes from event to event, until it is disconnected.
-/

import ReactiveView.Proofs.Session.Children
import ReactiveView.Proofs.Session.Events

namespace ReactiveView

namespace World

variable {world after : World} {id : String}

/-- **Nothing happens to the components**, and whatever is sent is no news. -/
structure Lingers (before after : World) : Prop extends Alike before after where
  outgoing : ∃ envelopes, after.outgoing = before.outgoing ++ envelopes ∧
    ∀ envelope ∈ envelopes, ∀ status, envelope.payload ≠ .status status

theorem lingers_of_rests (before after : World) (rests : before.Rests after) :
    before.Lingers after :=
  ⟨alike_of_rests before after rests, [], rests.outgoing.trans (List.append_nil _).symm, by simp⟩

theorem alike_of_lingers (before after : World) (lingers : before.Lingers after) :
    before.Alike after := lingers.toAlike

theorem lingers_of_stands (stands : world.Stands after) : world.Lingers after := by
  refine ⟨⟨fun id => ?_, stands.ids⟩, [], stands.outgoing.trans (List.append_nil _).symm, by simp⟩
  -- a likeness is the face of a component, with its view invalidated
  have same := congrArg (Option.map (Option.map
    fun face : String × ComponentDef × ClientView => (face.1, face.2.1, face.2.2.invalidate)))
    (stands.places id)
  simp only [Option.map_map, Option.map_comp_map] at same
  exact same

/-- Something is sent that is no news. -/
theorem lingers_emit (world : World) (id : String) {payload : Outbound}
    (other : ∀ status, payload ≠ .status status) : world.Lingers (world.emit id payload) :=
  ⟨⟨fun _ => rfl, rfl⟩, [⟨id, payload⟩], rfl, by simpa using other⟩

end World

namespace Cycle

/-- A failure is shown. -/
theorem goes_failure {world : World} (filed : world.Filed) (id html : String) :
    World.Goes World.Lingers world [] ((invalidated world id).emit id (.error html)) := by
  have invalidates : world.Lingers (invalidated world id) := by
    unfold invalidated
    split
    · next component known =>
      have there := World.instance?_eq_ok_iff.mp known
      have named := filed there
      subst named
      refine ⟨⟨fun other => ?_, ?_⟩, [], (List.append_nil _).symm, by simp⟩
      · change ((world.mounted.insert component.id (some _)).get? other).map _ = _
        rw [World.get?_insert_eq]
        split
        · next same =>
          rw [same, there]
          rfl
        · rfl
      · rw [World.ids_put, if_pos (World.contains_iff.mpr ⟨_, there⟩)]
    · exact World.lingers_of_rests _ _ (.refl world)
  refine .trans (.still invalidates) (.still (World.lingers_emit _ id ?_))
  rintro status ⟨⟩

theorem goes_perform {cycle : Cycle} (filed : cycle.world.Filed) (request : Request) :
    World.Goes World.Lingers cycle.world [] (cycle.perform request).world := by
  have there {reached : World} (goes : World.Goes World.Lingers cycle.world [] reached) :
      reached.Filed := (goes.mono World.alike_of_lingers).filed filed
  refine perform_induct
    (motive := fun reached => World.Goes World.Lingers cycle.world [] reached.world)
    (fun reached sofar => there sofar) ?_ ?_
    (.still (World.lingers_of_rests _ _ (.refl _))) request
  · exact fun reached world store stands sofar => sofar.trans (.still (World.lingers_of_stands stands))
  · intro reached id error sofar
    obtain ⟨html, same⟩ := world_fail reached id error
    exact same ▸ sofar.trans (goes_failure (there sofar) id html)

end Cycle

/-- What happens in a turn. -/
def Turn.events (turn : Turn) : List Event := turn.rendering.events none

namespace Cycle

theorem goes_renderOne {cycle : Cycle} (filed : cycle.world.Filed) (inlined : List String)
    {id : String} {component : Instance} (known : cycle.world.instance? id = .ok component)
    (dirty : Dirty) : World.Goes World.Lingers cycle.world (Turn.mk cycle component dirty).events
      (cycle.renderOne inlined component dirty).1.world := by
  have there := World.instance?_eq_ok_iff.mp known
  rw [← filed there] at there
  have goes := ((Turn.rendering ⟨cycle, component, dirty⟩).goes_settled cycle.world none filed there
    rfl nofun).mono World.lingers_of_rests
  have last := world_renderOne cycle inlined component dirty
  split at last
  · obtain ⟨_, html, same⟩ := last
    have failure := goes_failure ((goes.mono World.alike_of_lingers).filed filed) component.id html
    rw [same]
    exact goes.andThen failure
  · rw [last.2]
    split
    · exact goes
    · exact goes.andThen (.still (World.lingers_emit _ _ fun _ => nofun))

theorem goes_renderAll {cycle : Cycle} (filed : cycle.world.Filed) (inlined : List String)
    (affected : List (String × Dirty)) : World.Goes World.Lingers cycle.world
      ((cycle.turns inlined affected).flatMap Turn.events)
      (cycle.renderAll inlined affected).world := by
  induction affected generalizing cycle inlined with
  | nil => exact .still (World.lingers_of_rests _ _ (.refl _))
  | cons first rest ih =>
    obtain ⟨id, dirty⟩ := first
    unfold renderAll turns
    split
    · exact ih filed inlined
    · cases known : cycle.world.instance? id with
      | error error => exact ih filed inlined
      | ok component =>
        have turn := goes_renderOne filed inlined known dirty
        dsimp only
        generalize cycle.renderOne inlined component dirty = reached at turn ⊢
        exact turn.trans (ih ((turn.mono World.alike_of_lingers).filed filed) reached.2)

theorem goes_run {world : World} (filed : world.Filed) (request : Request) (store : Store) :
    World.Goes World.Lingers world ((turnsOf world request store).flatMap Turn.events)
      (run world request store).world := by
  have performs : World.Goes World.Lingers world [] ((start world store).perform request).world :=
    goes_perform (show (start world store).world.Filed from filed) request
  exact performs.trans (goes_renderAll ((performs.mono World.alike_of_lingers).filed filed) [] _)

end Cycle

/-! ### Entries -/

namespace Session

variable {config : Config}

/-- What an entry asks for before its cycle, if it is not refused. -/
def asked (session : Session) : Entry → List Event
  | .mount id definition => if (session.cycle? (.mount id definition)).isSome then [.mounts id] else []
  | .unmount id =>
    if (session.unmount id).result.isOk then
      [.destroys none [id] session.world (session.world.destroyAll [id] session.store).1]
    else []
  | _ => []

/-- What happens in an entry. -/
def eventsOf (session : Session) (entry : Entry) : List Event :=
  session.asked entry ++ (session.turns entry).flatMap Turn.events

/-- **All that happens in some entries**, the last of them first; what happens last comes last. -/
def events (config : Config) : List Entry → List Event
  | [] => []
  | entry :: earlier => events config earlier ++ (reached config earlier).eventsOf entry

/-- An entry leads through its events to a world, from which everything is sent. -/
structure Leads (session : Session) (entry : Entry) (final : World) : Prop where
  goes : World.Goes World.Lingers session.world (session.eventsOf entry) final
  sent : (session.enter entry).sent = final.outgoing
  world : (session.enter entry).session.world = { final with outgoing := [] }

section

variable {session : Session} {entry : Entry} {world : World} {request : Request} {store : Store}

/-- What comes of an entry that runs a cycle. -/
theorem enter_of_runs (runs : session.cycle? entry = some (world, request, store)) :
    session.enter entry =
      { session with
        world := (Cycle.run world request store).world
        store := (Cycle.run world request store).store : Session }.flush
          (resultOf (Cycle.run world request store)) := by
  cases opened : session.closed with
  | true => cases entry <;> simp [cycle?, opened] at runs
  | false =>
    cases entry with
    | mount id definition =>
      rcases mounting : session.world.mount id definition session.store with
        ⟨error | value, reached, stored⟩
      · simp [cycle?, opened, mounting] at runs
      · simp only [cycle?, opened, mounting, Bool.false_eq_true, if_false, Option.some.injEq,
          Prod.mk.injEq] at runs
        obtain ⟨rfl, rfl, rfl⟩ := runs
        simp [enter, mount, run, opened, mounting]
    | handle messages =>
      simp only [cycle?, opened, Bool.false_eq_true, if_false, Option.some.injEq,
        Prod.mk.injEq] at runs
      obtain ⟨rfl, rfl, rfl⟩ := runs
      simp [enter, handle, run, opened]
    | handleText text =>
      cases read : SubMessage.batchOfText text with
      | error error => simp [cycle?, opened, read] at runs
      | ok messages =>
        simp only [cycle?, opened, read, Bool.false_eq_true, if_false, Option.some.injEq,
          Prod.mk.injEq] at runs
        obtain ⟨rfl, rfl, rfl⟩ := runs
        simp [enter, handleText, handle, run, opened, read]
    | external id code =>
      simp only [cycle?, opened, Bool.false_eq_true, if_false, Option.some.injEq,
        Prod.mk.injEq] at runs
      obtain ⟨rfl, rfl, rfl⟩ := runs
      simp [enter, externalUpdate, run, opened]
    | unmount id => cases runs
    | setIdentity name value => cases runs
    | get id name => cases runs
    | outside change => cases runs
    | disconnect => cases runs

/-- A cycle starts in the world as it is, or where a component was mounted. -/
theorem goes_asked (runs : session.cycle? entry = some (world, request, store)) :
    World.Goes World.Rests session.world (session.asked entry) world := by
  have here : World.Goes World.Rests session.world [] session.world := .still (.refl _)
  cases opened : session.closed with
  | true => cases entry <;> simp [cycle?, opened] at runs
  | false =>
    cases entry with
    | mount id definition =>
      simp only [asked, runs, Option.isSome_some, if_true]
      unfold cycle? World.mount at runs
      by_cases held : session.world.contains id = true
      · simp [opened, held] at runs
      · simp only [opened, held, Bool.false_eq_true, if_false, Option.some.injEq,
          Prod.mk.injEq] at runs
        rw [← runs.1]
        have free : session.world.contains id = false := by simpa using held
        exact @World.Goes.mounts _ _ (Instance.new id definition session.store).1 free rfl
    | handle messages =>
      simp only [cycle?, opened, Bool.false_eq_true, if_false, Option.some.injEq,
        Prod.mk.injEq] at runs
      exact runs.1 ▸ here
    | handleText text =>
      cases read : SubMessage.batchOfText text with
      | error error => simp [cycle?, opened, read] at runs
      | ok messages =>
        simp only [cycle?, opened, read, Bool.false_eq_true, if_false, Option.some.injEq,
          Prod.mk.injEq] at runs
        exact runs.1 ▸ here
    | external id code =>
      simp only [cycle?, opened, Bool.false_eq_true, if_false, Option.some.injEq,
        Prod.mk.injEq] at runs
      exact runs.1 ▸ here
    | unmount id => cases runs
    | setIdentity name value => cases runs
    | get id name => cases runs
    | outside change => cases runs
    | disconnect => cases runs

variable (filed : session.world.Filed) (unsent : session.world.outgoing = [])

include unsent

/-- A component is destroyed by request, unless the request is refused. -/
theorem exists_leads_unmount (id : String) : ∃ final, session.Leads (.unmount id) final := by
  have quiet : session.turns (.unmount id) = [] := rfl
  have refused (error : Error) (same : session.unmount id = session.refuse error) :
      session.Leads (.unmount id) session.world := by
    refine ⟨?_, ?_, ?_⟩
    · simp only [eventsOf, quiet, asked, same, refuse, Except.isOk, Except.toBool]
      exact .still (World.lingers_of_stands (.refl _))
    all_goals simp only [enter, same, refuse, unsent]
    rw [← unsent]
  cases closed : session.closed with
  | true => exact ⟨_, refused .closed (by simp only [unmount, closed, if_true])⟩
  | false =>
    cases known : session.world.instance? id with
    | error error => exact ⟨_, refused error (by simp [unmount, closed, known])⟩
    | ok component =>
      refine ⟨(session.world.destroyAll [id] session.store).1, ?_, ?_, ?_⟩
      · have asks : session.asked (.unmount id) = [.destroys none [id] session.world
            (session.world.destroyAll [id] session.store).1] := by
          simp [asked, unmount, closed, known, flush, Except.isOk, Except.toBool]
        rw [eventsOf, quiet, asks]
        exact .destroys session.world [id] session.store
      all_goals simp [enter, unmount, closed, known, flush]

include filed

/-- An entry that runs no cycle leaves the components as they are, or destroys some. -/
theorem exists_leads_of_idle (idle : session.cycle? entry = none) (stays : entry ≠ .disconnect) :
    ∃ final, session.Leads entry final := by
  -- what an entry leads to that asks for nothing
  have still (quiet : session.asked entry = []) (sent : (session.enter entry).sent = [])
      (stands : session.world.Stands (session.enter entry).session.world) :
      ∃ final, session.Leads entry final := by
    have none : (session.enter entry).session.world.outgoing = [] := stands.outgoing.trans unsent
    refine ⟨(session.enter entry).session.world, ?_, by rw [sent, none], by rw [← none]⟩
    rw [eventsOf, quiet, turns, idle]
    exact .still (World.lingers_of_stands stands)
  have refused (error : Error) (same : session.enter entry = session.refuse error)
      (quiet : session.asked entry = []) : ∃ final, session.Leads entry final := by
    refine still quiet ?_ ?_
    all_goals rw [same, refuse]
    exact .refl _
  cases entry with
  | unmount id => exact exists_leads_unmount unsent id
  | disconnect => exact absurd rfl stays
  | setIdentity name value => exact still rfl rfl ⟨fun _ => rfl, rfl, rfl, rfl⟩
  | outside change => exact still rfl rfl (.refl _)
  | get id name =>
    refine still rfl rfl ?_
    simp only [enter, get]
    split
    · exact .refl _
    · next component known =>
      have there := World.instance?_eq_ok_iff.mp known
      rw [← filed there] at there
      exact World.stands_put there rfl
  | mount id definition =>
    have quiet : session.asked (.mount id definition) = [] := by simp only [asked, idle]; rfl
    cases closed : session.closed with
    | true => exact refused .closed (by simp only [enter, mount, closed, if_true]) quiet
    | false =>
      rcases mounting : session.world.mount id definition session.store with
        ⟨error | value, reached, stored⟩
      · refine refused error ?_ quiet
        simp [enter, mount, closed, mounting]
      · simp [cycle?, closed, mounting] at idle
  | handle messages =>
    cases closed : session.closed with
    | true => exact refused .closed (by simp only [enter, handle, run, closed, if_true]) rfl
    | false => simp [cycle?, closed] at idle
  | handleText text =>
    cases closed : session.closed with
    | true => exact refused .closed (by simp only [enter, handleText, closed, if_true]) rfl
    | false =>
      cases read : SubMessage.batchOfText text with
      | error error =>
        refine refused error ?_ rfl
        simp [enter, handleText, closed, read]
      | ok messages => simp [cycle?, closed, read] at idle
  | external id code =>
    cases closed : session.closed with
    | true => exact refused .closed (by simp only [enter, externalUpdate, run, closed, if_true]) rfl
    | false => simp [cycle?, closed] at idle

/-- **Where an entry leads.** -/
theorem exists_leads (stays : entry ≠ .disconnect) : ∃ final, session.Leads entry final := by
  cases runs : session.cycle? entry with
  | none => exact exists_leads_of_idle filed unsent runs stays
  | some start =>
    obtain ⟨world, request, store⟩ := start
    have asks := goes_asked runs
    refine ⟨(Cycle.run world request store).world, ?_, ?_, ?_⟩
    · rw [eventsOf, turns, runs]
      have there : world.Filed := (asks.mono World.alike_of_rests).filed filed
      exact (asks.mono World.lingers_of_rests).trans (Cycle.goes_run there request store)
    all_goals rw [enter_of_runs runs, flush]

end

/-- **A session is over** when the connection has ended: nothing is mounted any more. -/
structure Over (session : Session) : Prop where
  closed : session.closed = true
  gone : ∀ id, session.world.mounted.get? id = none

/-- After the end, no entry mounts anything. -/
theorem Over.enter {session : Session} (finished : session.Over) (entry : Entry) :
    (session.enter entry).session.Over := by
  have closed := finished.closed
  cases entry with
  | mount id definition => simpa [Session.enter, mount, refuse, closed] using finished
  | unmount id => simpa [Session.enter, unmount, refuse, closed] using finished
  | handle messages => simpa [Session.enter, handle, run, refuse, closed] using finished
  | handleText text => simpa [Session.enter, handleText, refuse, closed] using finished
  | external id code => simpa [Session.enter, externalUpdate, run, refuse, closed] using finished
  | setIdentity name value => exact ⟨closed, finished.gone⟩
  | get id name =>
    have unknown : session.world.instance? id = .error (.unknownComponent id) := by
      simp [World.instance?, finished.gone]
    simpa [Session.enter, Session.get, unknown] using finished
  | outside change => exact ⟨closed, finished.gone⟩
  | disconnect => simpa [Session.enter, disconnect, closed] using finished

/-- Only one entry ends the connection. -/
theorem closed_enter (session : Session) {entry : Entry} (stays : entry ≠ .disconnect) :
    (session.enter entry).session.closed = session.closed := by
  cases entry with
  | mount id definition =>
    simp only [enter, mount, run]
    repeat' split
    all_goals rfl
  | unmount id =>
    simp only [enter, unmount]
    repeat' split
    all_goals rfl
  | handle messages =>
    simp only [enter, handle, run]
    split <;> rfl
  | handleText text =>
    simp only [enter, handleText, handle, run]
    repeat' split
    all_goals rfl
  | external id code =>
    simp only [enter, externalUpdate, run]
    split <;> rfl
  | setIdentity name value => rfl
  | get id name =>
    simp only [enter, get]
    split <;> rfl
  | outside change => rfl
  | disconnect => exact absurd rfl stays

/-- **Every session goes from event to event**, until it is over. -/
theorem goes_reached (config : Config) (entries : List Entry) :
    ((reached config entries).closed = false ∧
      World.Goes World.Alike (Session.new config).world (events config entries)
        (reached config entries).world) ∨ (reached config entries).Over := by
  induction entries with
  | nil => exact Or.inl ⟨rfl, .still (World.alike_of_rests _ _ (.refl _))⟩
  | cons entry earlier ih =>
    rcases ih with ⟨opened, goes⟩ | finished
    · obtain ⟨filed, unsent, _⟩ := covered_reached config earlier
      by_cases ends : entry = .disconnect
      · subst ends
        refine Or.inr ?_
        change (reached config earlier).disconnect.Over
        rw [disconnect, opened]
        exact ⟨rfl, fun _ => rfl⟩
      · obtain ⟨final, leads⟩ := exists_leads filed unsent ends
        have emptied : final.Alike (reached config (entry :: earlier)).world := by
          change final.Alike ((reached config earlier).enter entry).session.world
          rw [leads.world]
          exact ⟨fun _ => rfl, rfl⟩
        exact Or.inl ⟨(closed_enter _ ends).trans opened, goes.trans
          ((leads.goes.mono World.alike_of_lingers).andThen (.still emptied))⟩
    · exact Or.inr (finished.enter entry)

end Session

end ReactiveView
