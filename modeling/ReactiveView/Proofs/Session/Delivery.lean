/-
**No part is left out before the client has all of them.**

A rendering that leaves out parts counts on the client to have them. The client has them if, since the
component last came or failed, it got a rendering of all parts, or the markup of another component
with this one inside. What was rendered inside of a rendering that failed was never sent, and still
counts as being with the client.

* `Sending`, `Session.sendings` — what is sent, each with the turn it comes from.
* `Delivered` — the client has a component in full.
* `Withheld`, `Displaced` — a turn that failed had rendered it inside, or its own turn destroyed it.
* `delivered_of_blank` — nothing else has a part left out that the client does not have.
-/

import ReactiveView.Proofs.Session.Passage
import ReactiveView.Proofs.Session.Runs

namespace ReactiveView

/-- Something that is sent, and the turn it comes from, if it comes from one. -/
structure Sending where
  envelope : Envelope
  turn : Option Turn

/-- Some envelopes, as they come from a turn. -/
def Sending.allOf (turn : Option Turn) (envelopes : List Envelope) : List Sending :=
  envelopes.map fun envelope => ⟨envelope, turn⟩

namespace Turn

variable (turn : Turn)

/-- The world after a turn. -/
def after : World := (turn.cycle.renderOne [] turn.component turn.dirty).1.world

/-- What is sent while the component is rendered. -/
def news : List Envelope :=
  turn.rendering.settled.outgoing.drop turn.cycle.world.outgoing.length

/-- All that is sent in a turn, oldest first. -/
def sendings : List Sending :=
  Sending.allOf (some turn) (turn.after.outgoing.drop turn.cycle.world.outgoing.length)

end Turn

/-- All that is sent in a cycle, oldest first. -/
def Cycle.sendings (world : World) (request : Request) (store : Store) : List Sending :=
  Sending.allOf none ((start world store).perform request).world.outgoing ++
    (turnsOf world request store).flatMap Turn.sendings

namespace Session

/-- All that an entry sends, oldest first. -/
def sendingsOf (session : Session) (entry : Entry) : List Sending :=
  match session.cycle? entry with
  | some (world, request, store) => Cycle.sendings world request store
  | none => Sending.allOf none (session.enter entry).sent

/-- **All that is sent by some entries**, the last first. -/
def sendings (config : Config) : List Entry → List Sending
  | [] => []
  | entry :: earlier =>
    ((reached config earlier).sendingsOf entry).reverse ++ sendings config earlier

end Session

/-! ### What the client has -/

namespace Sending

/-- From here on the client has nothing of a component. -/
def Resets (sending : Sending) (id : String) : Prop :=
  sending.envelope = .news .subscribed id ∨ ∃ html, sending.envelope = ⟨id, .error html⟩

/-- **The client gets all of a component**: all of its parts, or the markup of another one in which it
was rendered. -/
def Brings (sending : Sending) (id : String) : Prop := ∃ component slots,
  sending.envelope = ⟨component, .render slots⟩ ∧
    if component = id then none ∉ slots else ∃ turn ∈ sending.turn, turn.rendering.Inlines id

/-- A turn has failed in which a component was rendered. -/
def Withholds (sending : Sending) (id : String) : Prop := ∃ component html,
  sending.envelope = ⟨component, .error html⟩ ∧ ∃ turn ∈ sending.turn, turn.rendering.Inlines id

/-- The turn in which a component was rendered has destroyed it on the way. -/
def Displaces (sending : Sending) (id : String) : Prop := ∃ slots,
  sending.envelope = ⟨id, .render slots⟩ ∧ ∃ turn ∈ sending.turn, .news .destroyed id ∈ turn.news

/-- Something was sent since the last reset. -/
def Since (what : Sending → Prop) (id : String) : List Sending → Prop
  | [] => False
  | sending :: earlier => ¬ sending.Resets id ∧ (what sending ∨ Since what id earlier)

end Sending

/-- **The client has a component in full**, by what was sent. -/
def Delivered (id : String) (history : List Sending) : Prop := Sending.Since (·.Brings id) id history

/-- A turn that failed has rendered a component, of which the client got nothing. -/
def Withheld (id : String) (history : List Sending) : Prop :=
  Sending.Since (·.Withholds id) id history

/-- A component has destroyed itself on the way of its own turn. -/
def Displaced (id : String) (history : List Sending) : Prop :=
  Sending.Since (·.Displaces id) id history

/-- One of the reasons for which the view of a component may be held. -/
def Accounted (id : String) (history : List Sending) : Prop :=
  Delivered id history ∨ Withheld id history ∨ Displaced id history

/-- Whenever parts are left out, there was a reason for it. -/
def Fair (history : List Sending) : Prop := ∀ later sending earlier,
  history = later ++ sending :: earlier → ∀ id slots, sending.envelope = ⟨id, .render slots⟩ →
    none ∈ slots → Delivered id earlier ∨ Withheld id earlier ∨ Displaced id (sending :: earlier)

section

variable {id : String} {sending : Sending} {history : List Sending}

theorem Accounted.cons (quiet : ¬ sending.Resets id) (known : Accounted id history) :
    Accounted id (sending :: history) := by
  rcases known with delivered | withheld | displaced
  · exact Or.inl ⟨quiet, Or.inr delivered⟩
  · exact Or.inr (Or.inl ⟨quiet, Or.inr withheld⟩)
  · exact Or.inr (Or.inr ⟨quiet, Or.inr displaced⟩)

theorem Accounted.append {batch : List Sending} (quiet : ∀ sending ∈ batch, ¬ sending.Resets id)
    (known : Accounted id history) : Accounted id (batch ++ history) := by
  induction batch with
  | nil => exact known
  | cons sending rest ih =>
    exact (ih fun other member => quiet other (List.mem_cons_of_mem _ member)).cons
      (quiet sending List.mem_cons_self)

theorem Fair.cons (fair : Fair history) (reason : ∀ id slots, sending.envelope = ⟨id, .render slots⟩ →
      none ∈ slots → Delivered id history ∨ Withheld id history ∨ Displaced id (sending :: history)) :
    Fair (sending :: history) := by
  intro later other earlier split
  cases later with
  | nil =>
    cases split
    exact reason
  | cons first later =>
    cases split
    exact fair later other earlier rfl

/-- Nothing that brings no markup needs a reason. -/
theorem Fair.append {batch : List Sending} (other : ∀ sending ∈ batch, ∀ id slots,
      sending.envelope ≠ ⟨id, .render slots⟩) (fair : Fair history) : Fair (batch ++ history) := by
  induction batch with
  | nil => exact fair
  | cons sending rest ih =>
    refine (ih fun later member => other later (List.mem_cons_of_mem _ member)).cons fun id slots same => ?_
    exact absurd same (other sending List.mem_cons_self id slots)

end

/-! ### What is held is accounted for -/

/-- **What the session knows of the client**: all that is held is accounted for by what was sent. -/
structure World.Keeps (world : World) (history : List Sending) : Prop where
  sound : world.Sound
  accounted : ∀ id, world.Holds id → Accounted id history
  fair : Fair history

theorem Instance.Sound.of_face {component old : Instance} (sound : old.Sound)
    (same : old.face = component.face) : component.Sound := by
  have definition : old.definition = component.definition := congrArg (fun face => face.2.1) same
  have view : old.view = component.view := congrArg (fun face => face.2.2) same
  exact ⟨definition ▸ sound.built, definition ▸ view ▸ sound.view⟩

namespace World

variable {world after : World} {history : List Sending}

/-- News reset a component if they tell that it has come. -/
theorem not_resets_of_news {news : List Envelope} {id : String} {turn : Option Turn}
    (status : ∀ envelope ∈ news, ∃ status id, envelope = .news status id)
    (quiet : .news .subscribed id ∉ news) :
    ∀ sending ∈ (Sending.allOf turn news).reverse,
      ¬ sending.Resets id := by
  rintro sending member (came | ⟨html, failed⟩)
  all_goals
    obtain ⟨envelope, there, rfl⟩ := List.mem_map.mp (List.mem_reverse.mp member)
  · exact quiet (came ▸ there)
  · obtain ⟨status, other, same⟩ := status envelope there
    cases failed.symm.trans same

/-- News bring no markup. -/
theorem ne_render_of_news {news : List Envelope} {turn : Option Turn}
    (status : ∀ envelope ∈ news, ∃ status id, envelope = .news status id) :
    ∀ sending ∈ (Sending.allOf turn news).reverse, ∀ id slots,
      sending.envelope ≠ ⟨id, .render slots⟩ := by
  intro sending member id slots rendered
  obtain ⟨envelope, there, rfl⟩ := List.mem_map.mp (List.mem_reverse.mp member)
  obtain ⟨status, other, same⟩ := status envelope there
  cases rendered.symm.trans same

theorem Keeps.passes {news : List Envelope} (keeps : world.Keeps history)
    (passes : world.Passes (fun _ => False) news after) (turn : Option Turn) :
    after.Keeps ((Sending.allOf turn news).reverse ++ history) where
  sound := passes.sound
  accounted id held := by
    rcases passes.holds id held with impossible | ⟨held, quiet⟩
    · exact impossible.elim
    · exact (keeps.accounted id held).append (not_resets_of_news passes.status quiet)
  fair := keeps.fair.append (ne_render_of_news passes.status)

theorem Keeps.stands (keeps : world.Keeps history) (stands : world.Stands after) :
    after.Keeps history where
  sound := by
    refine ⟨stands.filed keeps.sound.filed, fun {id component} there => ?_⟩
    obtain ⟨old, found, same⟩ := stands.exists_of_get? there
    exact (keeps.sound.components found).of_face same
  accounted id held := by
    obtain ⟨component, there, held⟩ := held
    obtain ⟨old, found, same⟩ := stands.exists_of_get? there
    have view : old.view = component.view := congrArg (fun face => face.2.2) same
    exact keeps.accounted id ⟨old, found, view ▸ held⟩
  fair := keeps.fair

end World

/-! ### Turns -/

namespace Cycle

variable {world : World} {history : List Sending} {id other : String}

/-- A component whose view is held no longer. -/
def lapsed (component : Instance) : Instance := { component with view := component.view.invalidate }

theorem get?_invalidated (filed : world.Filed) (id other : String) :
    (invalidated world id).mounted.get? other =
      if other = id then (world.mounted.get? other).map (Option.map lapsed)
      else world.mounted.get? other := by
  unfold invalidated
  split
  · next component known =>
    have there := World.instance?_eq_ok_iff.mp known
    have named := filed there
    subst named
    refine World.get?_insert_eq.trans ?_
    split
    · next same =>
      rw [same, there]
      rfl
    · rfl
  · next error known =>
    split
    · next same =>
      subst same
      rcases there : world.mounted.get? other with _ | _ | component
      · rfl
      · rfl
      · cases known.symm.trans (World.instance?_eq_ok_iff.mpr there)
    · rfl

/-- What stands in a place after a failure stood there, and perhaps lapsed. -/
theorem exists_of_invalidated (filed : world.Filed) {component : Instance}
    (there : (invalidated world id).mounted.get? other = some (some component)) :
    ∃ old, world.mounted.get? other = some (some old) ∧
      (other = id ∧ component = lapsed old ∨ other ≠ id ∧ component = old) := by
  rw [get?_invalidated filed] at there
  split at there
  · next same =>
    rcases found : world.mounted.get? other with _ | _ | old
    · rw [found] at there
      cases there
    · rw [found] at there
      cases there
    · rw [found] at there
      exact ⟨old, rfl, Or.inl ⟨same, (Option.some.inj (Option.some.inj there)).symm⟩⟩
  · next ne => exact ⟨component, there, Or.inr ⟨ne, rfl⟩⟩

theorem sound_invalidated (sound : world.Sound) (id : String) : (invalidated world id).Sound := by
  constructor
  all_goals
    intro other component there
    obtain ⟨old, found, ⟨_, rfl⟩ | ⟨_, rfl⟩⟩ := exists_of_invalidated sound.filed there
  · exact show old.id = other from sound.filed found
  · exact sound.filed found
  · exact ⟨(sound.components found).built, nofun⟩
  · exact sound.components found

theorem outgoing_invalidated (world : World) (id : String) :
    (invalidated world id).outgoing = world.outgoing := by
  unfold invalidated
  split <;> rfl

/-- The view of a component that failed is not held. -/
theorem holds_invalidated (sound : world.Sound) (held : (invalidated world id).Holds other) :
    other ≠ id ∧ world.Holds other := by
  obtain ⟨component, there, held⟩ := held
  obtain ⟨old, found, ⟨_, rfl⟩ | ⟨ne, rfl⟩⟩ := exists_of_invalidated sound.filed there
  · cases held.1
  · exact ⟨ne, component, found, held⟩

end Cycle

namespace Turn

variable {turn : Turn} {history : List Sending}

/-- What a failing component is sent resets this component alone. -/
theorem not_resets_of_ne {component id : String} {turn : Option Turn} (ne : id ≠ component)
    (html : String) : ¬ (⟨⟨component, .error html⟩, turn⟩ : Sending).Resets id := by
  rintro (came | ⟨_, failed⟩)
  · cases came
  · cases failed
    exact ne rfl

theorem not_resets_render {component id : String} {slots : List (Option String)}
    {turn : Option Turn} : ¬ (⟨⟨component, .render slots⟩, turn⟩ : Sending).Resets id := by
  rintro (came | ⟨_, failed⟩)
  · cases came
  · cases failed

/-- What is sent in a turn: news, and then what comes of the rendering. -/
theorem sendings_eq {news last : List Envelope}
    (settled : turn.rendering.settled.outgoing = turn.cycle.world.outgoing ++ news)
    (after : turn.after.outgoing = turn.rendering.settled.outgoing ++ last) :
    turn.news = news ∧ turn.sendings.reverse =
      (Sending.allOf (some turn) last).reverse ++
        (Sending.allOf (some turn) news).reverse := by
  constructor
  · rw [Turn.news, settled, List.drop_left]
  · rw [sendings, after, settled, List.append_assoc, List.drop_left, Sending.allOf,
      List.map_append, List.reverse_append]
    rfl

section

variable {news : List Envelope} (keeps : turn.cycle.world.Keeps history)
  (passes : turn.cycle.world.Passes (turn.rendering.Renews news) news turn.rendering.settled)

include keeps passes

/-- What was held and has not come again is accounted for once the news are sent. -/
theorem accounted_of_held {id : String} (held : turn.cycle.world.Holds id)
    (quiet : .news .subscribed id ∉ news) : Accounted id
      ((Sending.allOf (some turn) news).reverse ++ history) :=
  (keeps.accounted id held).append (World.not_resets_of_news passes.status quiet)

/-- **A turn that fails** withholds what it has rendered inside. -/
theorem keeps_of_error (html : String) :
    World.Keeps ((Cycle.invalidated turn.rendering.settled turn.component.id).emit
        turn.component.id (.error html))
      (⟨⟨turn.component.id, .error html⟩, some turn⟩ ::
        ((Sending.allOf (some turn) news).reverse ++ history)) := by
  have sound := Cycle.sound_invalidated passes.sound turn.component.id
  refine ⟨⟨sound.filed, sound.components⟩, fun id held => ?_, ?_⟩
  · obtain ⟨ne, held⟩ := Cycle.holds_invalidated passes.sound held
    have quiet : ¬ (⟨⟨turn.component.id, .error html⟩, some turn⟩ : Sending).Resets id :=
      not_resets_of_ne ne html
    rcases passes.holds id held with (⟨inlines, _⟩ | ⟨same, _⟩) | ⟨held, silent⟩
    · exact Or.inr (Or.inl ⟨quiet, Or.inl ⟨_, html, rfl, turn, rfl, inlines⟩⟩)
    · exact absurd same ne
    · exact (accounted_of_held keeps passes held silent).cons quiet
  · exact (keeps.fair.append (World.ne_render_of_news passes.status)).cons fun id slots same => by
      cases same

variable {rendered : Rendered} (ok : turn.rendering.result = .ok rendered)
  (stands : turn.cycle.world.mounted.get? turn.component.id = some (some turn.component))

include ok stands

omit passes in
/-- Where parts are left out, the view was held before. -/
theorem holds_of_blank (blank : none ∈ rendered.markup) :
    turn.cycle.world.Holds turn.component.id := by
  obtain ⟨_, _, _, _, _, ran⟩ := Rendering.exists_render_of_ok ok
  have own := keeps.sound.components stands
  refine ⟨_, stands, Rendering.held_of_thin own ok (Render.dense_of_full ran blank) ?_⟩
  intro empty
  rw [Rendered.markup, empty] at blank
  cases blank

/-- **A turn without new markup** has rendered nothing inside. -/
theorem keeps_of_blank (empty : rendered.isEmpty = true) :
    turn.rendering.settled.Keeps
      ((Sending.allOf (some turn) news).reverse ++ history) := by
  refine ⟨passes.sound, fun id held => ?_,
    keeps.fair.append (World.ne_render_of_news passes.status)⟩
  obtain ⟨_, _, _, _, _, ran⟩ := Rendering.exists_render_of_ok ok
  rcases passes.holds id held with (⟨inlines, _⟩ | ⟨rfl, _, own, silent⟩) | ⟨held, silent⟩
  · have member := Rendering.mem_renderedChildren_of_inlines inlines ok
    rw [Render.renderedChildren_of_isEmpty ran empty] at member
    cases member
  · refine accounted_of_held keeps passes (holds_of_blank keeps ok stands ?_) silent
    -- a view that is held has parts, and none of them was sent
    obtain ⟨_, _, length, same⟩ := Render.view_of_render ran
    obtain ⟨slot, member⟩ : ∃ slot, slot ∈ rendered.slots := by
      refine List.exists_mem_of_ne_nil _ fun none => own.2 ?_
      rw [← List.length_eq_zero_iff, length, ← same, none]
      rfl
    refine List.mem_map.mpr ⟨slot, member, Option.isNone_iff_eq_none.mp ?_⟩
    exact List.all_eq_true.mp empty slot member
  · exact accounted_of_held keeps passes held silent

/-- **A turn with new markup** brings what it has rendered inside, and itself if no part is left out. -/
theorem keeps_of_markup (told : turn.news = news) :
    World.Keeps (turn.rendering.settled.emit turn.component.id (.render rendered.markup))
      (⟨⟨turn.component.id, .render rendered.markup⟩, some turn⟩ ::
        ((Sending.allOf (some turn) news).reverse ++ history)) := by
  refine ⟨⟨passes.sound.filed, passes.sound.components⟩, fun id held => ?_, ?_⟩
  · rcases passes.holds id held with (⟨inlines, lost⟩ | ⟨rfl, _, _, silent⟩) | ⟨held, silent⟩
    · by_cases same : id = turn.component.id
      · subst same
        exact Or.inr (Or.inr ⟨not_resets_render, Or.inl ⟨_, rfl, turn, rfl, told ▸ lost rfl⟩⟩)
      · refine Or.inl ⟨not_resets_render, Or.inl ⟨_, _, rfl, ?_⟩⟩
        rw [if_neg (Ne.symm same)]
        exact ⟨turn, rfl, inlines⟩
    · by_cases blank : none ∈ rendered.markup
      · have held := holds_of_blank keeps ok stands blank
        exact (accounted_of_held keeps passes held silent).cons not_resets_render
      · refine Or.inl ⟨not_resets_render, Or.inl ⟨_, _, rfl, ?_⟩⟩
        exact (if_pos rfl).symm ▸ blank
    · exact (accounted_of_held keeps passes held silent).cons not_resets_render
  · refine (keeps.fair.append (World.ne_render_of_news passes.status)).cons ?_
    intro id slots same blank
    cases same
    have held := holds_of_blank keeps ok stands blank
    by_cases came : .news .subscribed turn.component.id ∈ news
    · have gone := passes.came _ (World.contains_iff.mpr ⟨_, stands⟩) came
      exact Or.inr (Or.inr ⟨not_resets_render, Or.inl ⟨_, rfl, turn, rfl, told ▸ gone⟩⟩)
    · rcases accounted_of_held keeps passes held came with delivered | withheld | displaced
      · exact Or.inl delivered
      · exact Or.inr (Or.inl withheld)
      · exact Or.inr (Or.inr ⟨not_resets_render, Or.inr displaced⟩)

end

/-- **After a turn, all that is held is accounted for.** -/
theorem keeps_after (keeps : turn.cycle.world.Keeps history)
    (stands : turn.cycle.world.mounted.get? turn.component.id = some (some turn.component)) :
    turn.after.Keeps (turn.sendings.reverse ++ history) := by
  obtain ⟨news, passes⟩ := turn.rendering.exists_passes_settled _ keeps.sound stands rfl
  have comes := turn.world_renderOne []
  cases result : turn.rendering.result with
  | error error =>
    rw [result] at comes
    obtain ⟨_, html, after⟩ := comes
    change turn.after = _ at after
    have last : turn.after.outgoing =
        turn.rendering.settled.outgoing ++ [⟨turn.component.id, .error html⟩] := by
      rw [after, World.emit, Cycle.outgoing_invalidated]
    rw [(sendings_eq passes.outgoing last).2, after]
    exact keeps_of_error keeps passes html
  | ok rendered =>
    rw [result] at comes
    obtain ⟨_, after⟩ := comes
    change turn.after = _ at after
    split at after
    · next empty =>
      have last : turn.after.outgoing = turn.rendering.settled.outgoing ++ [] := by
        rw [after, List.append_nil]
      rw [(sendings_eq passes.outgoing last).2, after]
      exact keeps_of_blank keeps passes result stands empty
    · next filled =>
      have last : turn.after.outgoing = turn.rendering.settled.outgoing ++
          [⟨turn.component.id, .render rendered.markup⟩] := by rw [after, World.emit]
      obtain ⟨told, sendings⟩ := sendings_eq passes.outgoing last
      rw [sendings, after]
      exact keeps_of_markup keeps passes result stands told

end Turn

/-! ### Cycles and sessions -/

namespace Cycle

variable {history : List Sending}

/-- Code runs behind the faces of the components, and failures reset them. -/
theorem keeps_perform {world : World}
    (keeps : world.Keeps ((Sending.allOf none world.outgoing).reverse ++ history))
    (request : Request) (store : Store) :
    let executed := (start world store).perform request
    executed.world.Keeps ((Sending.allOf none executed.world.outgoing).reverse ++ history) := by
  refine perform_induct (motive := fun cycle =>
      cycle.world.Keeps ((Sending.allOf none cycle.world.outgoing).reverse ++ history))
    (fun cycle keeps => keeps.sound.filed) ?_ ?_ keeps request
  · intro cycle world store stands keeps
    change world.Keeps ((Sending.allOf none world.outgoing).reverse ++ history)
    rw [stands.outgoing]
    exact keeps.stands stands
  · intro cycle id error keeps
    obtain ⟨html, failed⟩ := world_fail cycle id error
    have sound := sound_invalidated keeps.sound id
    rw [failed, World.emit, outgoing_invalidated, Sending.allOf, List.map_append,
      List.reverse_append]
    refine ⟨⟨sound.filed, sound.components⟩, fun other held => ?_, keeps.fair.cons ?_⟩
    · obtain ⟨ne, held⟩ := holds_invalidated keeps.sound held
      exact (keeps.accounted other held).cons (Turn.not_resets_of_ne ne html)
    · intro other slots same
      cases same

theorem keeps_turn {cycle : Cycle} (keeps : cycle.world.Keeps history) {id : String}
    {component : Instance} (known : cycle.world.instance? id = .ok component)
    (inlined : List String) (dirty : Dirty) :
    (cycle.renderOne inlined component dirty).1.world.Keeps
      ((Turn.mk cycle component dirty).sendings.reverse ++ history) := by
  have there := World.instance?_eq_ok_iff.mp known
  rw [← keeps.sound.filed there] at there
  have same : (Turn.mk cycle component dirty).after =
      (cycle.renderOne inlined component dirty).1.world :=
    congrArg Cycle.world (renderOne_fst cycle inlined component dirty).symm
  rw [← same]
  exact Turn.keeps_after (show (Turn.mk cycle component dirty).cycle.world.Keeps history
    from keeps) there

/-- After the turns of a cycle, all that is held is accounted for. -/
theorem keeps_renderAll {cycle : Cycle} (keeps : cycle.world.Keeps history) (inlined : List String)
    (affected : List (String × Dirty)) : (cycle.renderAll inlined affected).world.Keeps
      (((cycle.turns inlined affected).flatMap Turn.sendings).reverse ++ history) := by
  induction affected generalizing cycle inlined history with
  | nil => exact keeps
  | cons first rest ih =>
    obtain ⟨id, dirty⟩ := first
    unfold renderAll turns
    split
    · exact ih keeps inlined
    · cases known : cycle.world.instance? id with
      | error error => exact ih keeps inlined
      | ok component =>
        have turn := keeps_turn keeps known inlined dirty
        dsimp only
        generalize cycle.renderOne inlined component dirty = reached at turn ⊢
        rw [List.flatMap_cons, List.reverse_append, List.append_assoc]
        exact ih turn reached.2

theorem keeps_run {world : World}
    (keeps : world.Keeps ((Sending.allOf none world.outgoing).reverse ++ history))
    (request : Request) (store : Store) : (run world request store).world.Keeps ((sendings world request store).reverse ++ history) := by
  have executed := keeps_perform keeps request store
  have rendered := keeps_renderAll executed []
    (((start world store).perform request).affected (newcomer? request))
  rw [sendings, List.reverse_append, List.append_assoc]
  exact rendered

end Cycle

namespace Session

variable {config : Config} {history : List Sending}

/-- Where the cycle of an entry starts, all that is held is accounted for. -/
theorem Starts.keeps {session : Session} {entry : Entry} {world : World}
    (starts : session.Starts entry world) (keeps : session.world.Keeps history)
    (unsent : session.world.outgoing = [])
    (built : ∀ id definition, entry = .mount id definition → definition.Built) :
    world.Keeps ((Sending.allOf none world.outgoing).reverse ++ history) := by
  cases starts with
  | here =>
    rw [unsent]
    exact keeps
  | @mounted component free view =>
    have passes := World.passes_mount keeps.sound (built _ _ rfl) free view
    rw [passes.outgoing, unsent, List.nil_append]
    exact keeps.passes passes none

theorem keeps_enter {session : Session} (keeps : session.world.Keeps history)
    (unsent : session.world.outgoing = []) {entry : Entry}
    (built : ∀ id definition, entry = .mount id definition → definition.Built) :
    (session.enter entry).session.world.Keeps ((session.sendingsOf entry).reverse ++ history) ∧
      (session.enter entry).session.world.outgoing = [] := by
  have entered := session.entered keeps.sound.filed entry
  -- the sendings of an entry that runs no cycle
  have idle (none : session.cycle? entry = none) : session.sendingsOf entry =
      Sending.allOf .none (session.enter entry).sent := by rw [sendingsOf, none]
  generalize (session.enter entry).sent = sent, (session.enter entry).session.world = after
    at entered idle ⊢
  cases entered with
  | stands stands none =>
    rw [idle none]
    exact ⟨keeps.stands stands, stands.outgoing.trans unsent⟩
  | disconnected none gone outgoing =>
    rw [idle none]
    refine ⟨⟨⟨fun there => ?_, fun there => ?_⟩, ?_, keeps.fair⟩, outgoing⟩
    · rw [gone] at there
      cases there
    · rw [gone] at there
      cases there
    · rintro id ⟨component, there, _⟩
      rw [gone] at there
      cases there
  | unmounted ids none =>
    obtain ⟨removed, ended⟩ := World.exists_ended session.world ids session.store
    have passes := keeps.passes (World.passes_of_ended keeps.sound ended) .none
    rw [idle none, ended.outgoing, unsent, List.nil_append]
    exact ⟨⟨⟨passes.sound.filed, passes.sound.components⟩, passes.accounted, passes.fair⟩, rfl⟩
  | @ran world request store runs starts =>
    have ran := Cycle.keeps_run (starts.keeps keeps unsent built) request store
    rw [sendingsOf, runs]
    exact ⟨⟨⟨ran.sound.filed, ran.sound.components⟩, ran.accounted, ran.fair⟩, rfl⟩

/-- In every state, all that is held is accounted for by what was sent. -/
theorem keeps_reached {entries : List Entry}
    (built : ∀ id definition, .mount id definition ∈ entries → definition.Built) :
    (reached config entries).world.Keeps (sendings config entries) ∧
      (reached config entries).world.outgoing = [] := by
  induction entries with
  | nil => exact ⟨⟨⟨nofun, nofun⟩, nofun, fun later _ _ split => by cases later <;> cases split⟩, rfl⟩
  | cons entry earlier ih =>
    obtain ⟨keeps, unsent⟩ := ih fun id definition member =>
      built id definition (List.mem_cons_of_mem _ member)
    exact keeps_enter keeps unsent fun id definition same =>
      built id definition (same ▸ List.mem_cons_self)

/-- **No part is left out before the client has all of them**, but where a turn that failed had
rendered the component, or the component was destroyed in its own turn. -/
theorem delivered_of_blank {entries : List Entry}
    (built : ∀ id definition, .mount id definition ∈ entries → definition.Built)
    {later earlier : List Sending} {sending : Sending}
    (split : sendings config entries = later ++ sending :: earlier) {id : String}
    {slots : List (Option String)} (rendered : sending.envelope = ⟨id, .render slots⟩)
    (blank : none ∈ slots) (brought : ¬ Withheld id earlier)
    (stays : ¬ Displaced id (sending :: earlier)) : Delivered id earlier := by
  rcases (keeps_reached built).1.fair later sending earlier split id slots rendered blank with
    delivered | withheld | displaced
  · exact delivered
  · exact absurd withheld brought
  · exact absurd displaced stays

/-- Rows with a label, which an action changes. -/
def labelledRow : Draft :=
  (((Draft.empty "Row").addReactive "label" (.literal (.string ""))).addAction "relabel"
    (.plain fun _ => .ask (.set "label" (.str "x")) fun _ => .done (.ok ()))).addTemplate
      standardVariant "<li><%= label %></li>"

/-- Nothing that was sent is an error, and nothing was sent while `id` was destroyed. -/
def isCalm (id : String) (history : List Sending) : Bool := history.all fun sending =>
  (match sending.envelope.payload with
    | .error _ => false
    | _ => true) &&
  sending.turn.all fun turn => !decide (.news .destroyed id ∈ turn.news)

theorem exists_of_since {what : Sending → Prop} {id : String} {history : List Sending}
    (since : Sending.Since what id history) : ∃ sending ∈ history, what sending := by
  induction history with
  | nil => cases since
  | cons sending earlier ih =>
    rcases since.2 with here | before
    · exact ⟨sending, List.mem_cons_self, here⟩
    · obtain ⟨other, member, holds⟩ := ih before
      exact ⟨other, List.mem_cons_of_mem _ member, holds⟩

theorem not_withheld_of_isCalm {id : String} {history : List Sending}
    (calm : isCalm id history = true) : ¬ Withheld id history := by
  intro withheld
  obtain ⟨sending, member, component, html, same, _⟩ := exists_of_since withheld
  have here := List.all_eq_true.mp calm sending member
  rw [same, Bool.and_eq_true] at here
  cases here.1

theorem not_displaced_of_isCalm {id : String} {history : List Sending}
    (calm : isCalm id history = true) : ¬ Displaced id history := by
  intro displaced
  obtain ⟨sending, member, slots, _, turn, own, gone⟩ := exists_of_since displaced
  have here := List.all_eq_true.mp calm sending member
  rw [own, Bool.and_eq_true] at here
  exact absurd gone (by simpa using here.2)

/-- A row is mounted, and then its label changes. -/
theorem delivered_of_blank_of_relabelled : ∃ row sending earlier, labelledRow.build = .ok row ∧
    sendings Config.default [.handle [.action "a" "relabel" none], .mount "a" row] =
      sending :: earlier ∧
    sending.envelope = ⟨"a", .render [none, some "x", none]⟩ ∧ Delivered "a" earlier := by
  have checked : ComponentDef.isBuiltTo labelledRow.build (fun row =>
      match sendings Config.default [.handle [.action "a" "relabel" none], .mount "a" row] with
      | [] => false
      | sending :: earlier =>
        decide (sending.envelope = ⟨"a", .render [none, some "x", none]⟩) &&
          isCalm "a" (sending :: earlier)) = true := by decide +kernel
  obtain ⟨row, ok, passes⟩ := ComponentDef.exists_of_isBuiltTo checked
  split at passes
  · cases passes
  · next sending earlier split =>
    rw [Bool.and_eq_true, decide_eq_true_eq] at passes
    obtain ⟨rendered, calm⟩ := passes
    have built (id : String) (definition : ComponentDef) (member : .mount id definition ∈
        [Entry.handle [.action "a" "relabel" none], .mount "a" row]) : definition.Built := by
      simp only [List.mem_cons, reduceCtorEq, Entry.mount.injEq, List.not_mem_nil, or_false,
        false_or] at member
      rw [member.2]
      exact .intro ok nofun
    have before : isCalm "a" earlier = true := (Bool.and_eq_true_iff.mp calm).2
    exact ⟨row, sending, earlier, ok, split, rendered,
      delivered_of_blank built
        (show sendings _ [.handle [.action "a" "relabel" none], .mount "a" row] =
          [] ++ sending :: earlier from split) rendered (by simp)
        (not_withheld_of_isCalm before) (not_displaced_of_isCalm calm)⟩

/--
**A row inside of a page that fails is never sent in full**: its label changes, and a rendering is sent
with nothing but the label.
-/
theorem not_delivered_of_failing : ¬ ∀ (config : Config) (entries : List Entry),
    (∀ id definition, .mount id definition ∈ entries → definition.Built) →
    ∀ (later : List Sending) (sending : Sending) (earlier : List Sending),
      sendings config entries = later ++ sending :: earlier →
      ∀ (id : String) (slots : List (Option String)), sending.envelope = ⟨id, .render slots⟩ →
        none ∈ slots → Delivered id earlier := by
  intro claimed
  have checked : ComponentDef.isBuiltTo labelledRow.build (fun row => ComponentDef.isBuiltTo
      (Draft.page row "<%= child(\"Row\", \"a\") %><%= missing %>").build fun page =>
      match sendings Config.default [.handle [.action "a" "relabel" none], .mount "p" page] with
      | [] => false
      | sending :: earlier =>
        decide (sending.envelope = ⟨"a", .render [none, some "x", none]⟩) &&
          earlier.all fun other => match other.envelope.payload with
            | .render _ => false
            | _ => true) = true := by decide +kernel
  obtain ⟨row, rowBuilt, passes⟩ := ComponentDef.exists_of_isBuiltTo checked
  obtain ⟨page, pageBuilt, passes⟩ := ComponentDef.exists_of_isBuiltTo passes
  split at passes
  · cases passes
  · next sending earlier split =>
    rw [Bool.and_eq_true, decide_eq_true_eq, List.all_eq_true] at passes
    obtain ⟨rendered, unsent⟩ := passes
    have built (id : String) (definition : ComponentDef) (member : .mount id definition ∈
        [Entry.handle [.action "a" "relabel" none], .mount "p" page]) : definition.Built := by
      simp only [List.mem_cons, reduceCtorEq, Entry.mount.injEq, List.not_mem_nil, or_false,
        false_or] at member
      rw [member.2]
      exact .page (.intro rowBuilt nofun) pageBuilt
    have delivered := claimed _ _ built [] sending earlier split "a" _ rendered (by simp)
    obtain ⟨other, member, component, slots, same, _⟩ := exists_of_since delivered
    have here := unsent other member
    rw [same] at here
    cases here

end Session

end ReactiveView
