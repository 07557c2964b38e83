/-
**What may be sent in one cycle.**

A cycle sends markup or an error for a component at most once, and never for one that came with the
markup of another before. It fails if and only if it sends an error, and fails with the first one sent.

* `Sending.Speaks`, `Sending.Carries` — markup or an error of a component, and markup that brings it.
* `Turn.Tells` — what is sent in one turn, and what comes of it.
* `Disciplined` — no component is spoken of twice, nor after it was carried.
* `Reports` — the errors among some envelopes, and the failure that they report.
* `Session.disciplined_cycle` — every cycle of every session is disciplined, and reports its failure.
-/

import ReactiveView.Proofs.Session.Delivery
import ReactiveView.Proofs.Session.History

namespace ReactiveView

namespace World

variable {world after : World} {events : List Event}

/-- On the way of a rendering nothing but news is sent. -/
theorem Goes.sends (goes : Goes Rests world events after) : after.config = world.config ∧
    ∃ news, after.outgoing = world.outgoing ++ news ∧
      ∀ envelope ∈ news, ∃ status id, envelope = .news status id := by
  induction goes with
  | still rests => exact ⟨rests.config, [], rests.outgoing.trans (List.append_nil _).symm, by simp⟩
  | @mounts world component free view =>
    exact ⟨rfl, [.news .subscribed component.id], rfl, by simp⟩
  | destroys world ids store =>
    obtain ⟨gone, ended⟩ := exists_ended world ids store
    exact ⟨ended.config, _, ended.outgoing, by simp⟩
  | @renders world rendering place stands taken _ _ ih =>
    obtain ⟨config, news, sent, status⟩ := ih
    obtain ⟨gone, ended⟩ := rendering.exists_ended
    refine ⟨?_, news ++ gone.map (.news .destroyed), ?_, ?_⟩
    · rw [rendering.config_settled, ended.config, config, taken]
      rfl
    · rw [rendering.outgoing_settled, ended.outgoing, sent, taken, List.append_assoc]
      rfl
    · simpa [or_imp, forall_and] using status
  | trans _ _ first second =>
    obtain ⟨config, news, sent, status⟩ := first
    obtain ⟨config', later, more, status'⟩ := second
    refine ⟨config'.trans config, news ++ later, by rw [more, sent, List.append_assoc], ?_⟩
    exact fun envelope member => (List.mem_append.mp member).elim (status envelope) (status' envelope)

end World

/-! ### Markup and errors -/

namespace Sending

/-- **Markup or an error of a component**, sent for the component itself. -/
def Speaks (sending : Sending) (id : String) : Prop :=
  (∃ slots, sending.envelope = ⟨id, .render slots⟩) ∨ ∃ html, sending.envelope = ⟨id, .error html⟩

/-- **Markup that brings another component along**, at any depth. -/
def Carries (sending : Sending) (id : String) : Prop :=
  (∃ component slots, sending.envelope = ⟨component, .render slots⟩) ∧
    ∃ turn ∈ sending.turn, turn.rendering.Inlines id

end Sending

/-- **No component is spoken of twice**, nor after it was carried. -/
structure Disciplined (sendings : List Sending) : Prop where
  once : sendings.Pairwise fun first second => ∀ id, first.Speaks id → ¬ second.Speaks id
  carried : sendings.Pairwise fun first second => ∀ id, first.Carries id → ¬ second.Speaks id

theorem not_speaks_of_news {status : Status} {id other : String} {turn : Option Turn} :
    ¬ (⟨.news status id, turn⟩ : Sending).Speaks other := by
  rintro (⟨_, same⟩ | ⟨_, same⟩) <;> cases same

theorem not_carries_of_news {status : Status} {id other : String} {turn : Option Turn} :
    ¬ (⟨.news status id, turn⟩ : Sending).Carries other := by
  rintro ⟨⟨_, _, same⟩, _⟩
  cases same

/-- After some news, one envelope more is disciplined. -/
theorem disciplined_of_news {news last : List Envelope} {turn : Option Turn}
    (status : ∀ envelope ∈ news, ∃ status id, envelope = .news status id)
    (single : last.length ≤ 1) : Disciplined (Sending.allOf turn (news ++ last)) := by
  have alone (relation : Sending → Sending → Prop) :
      (Sending.allOf turn last).Pairwise relation := by
    match last, single with
    | [], _ => exact .nil
    | [_], _ => exact List.pairwise_singleton ..
  have quiet {sending : Sending} (member : sending ∈ Sending.allOf turn news) (id : String) :
      ¬ sending.Speaks id ∧ ¬ sending.Carries id := by
    obtain ⟨envelope, there, rfl⟩ := List.mem_map.mp member
    obtain ⟨_, _, rfl⟩ := status envelope there
    exact ⟨not_speaks_of_news, not_carries_of_news⟩
  constructor
  all_goals
    rw [Sending.allOf, List.map_append]
    refine List.pairwise_append.mpr ⟨?_, alone _, fun first member second _ id speaks =>
      absurd speaks ?_⟩
  · exact List.pairwise_of_forall_mem_list fun first member _ _ id speaks =>
      absurd speaks (quiet member id).1
  · exact (quiet member id).1
  · exact List.pairwise_of_forall_mem_list fun first member _ _ id carries =>
      absurd carries (quiet member id).2
  · exact (quiet member id).2

/-- Two disciplined lists are disciplined together if nothing of the first forbids the second. -/
theorem Disciplined.append {sendings later : List Sending} (disciplined : Disciplined sendings)
    (rest : Disciplined later)
    (apart : ∀ first ∈ sendings, ∀ second ∈ later, ∀ id, first.Speaks id ∨ first.Carries id →
      ¬ second.Speaks id) : Disciplined (sendings ++ later) where
  once := List.pairwise_append.mpr ⟨disciplined.once, rest.once, fun first member second after id
    speaks => apart first member second after id (Or.inl speaks)⟩
  carried := List.pairwise_append.mpr ⟨disciplined.carried, rest.carried, fun first member second
    after id carries => apart first member second after id (Or.inr carries)⟩

/-- No envelope shows an error. -/
def Calm (envelopes : List Envelope) : Prop :=
  ∀ envelope ∈ envelopes, ∀ html, envelope.payload ≠ .error html

/-- **The failure that some envelopes report**: the first error that they show, if they show one. -/
def Reports (config : Config) : Option Error → List Envelope → Prop
  | none, envelopes => Calm envelopes
  | some error, envelopes => ∃ before id className after, Calm before ∧
    envelopes = before ++ ⟨id, .error (Diagnostic.html className error config.diagnostics)⟩ :: after

section

variable {config : Config} {failure later : Option Error} {envelopes more : List Envelope}

theorem Calm.append (calm : Calm envelopes) (rest : Calm more) : Calm (envelopes ++ more) :=
  fun envelope member => (List.mem_append.mp member).elim (calm envelope) (rest envelope)

theorem calm_of_status (status : ∀ envelope ∈ envelopes, ∃ status id, envelope = .news status id) :
    Calm envelopes := by
  intro envelope member html shown
  obtain ⟨news, id, rfl⟩ := status envelope member
  cases shown

theorem Reports.append (reports : Reports config failure envelopes)
    (rest : Reports config later more) : Reports config (failure.or later) (envelopes ++ more) := by
  cases failure with
  | some error =>
    obtain ⟨before, id, className, after, calm, rfl⟩ := reports
    exact ⟨before, id, className, after ++ more, calm, by simp⟩
  | none =>
    cases later with
    | none => exact Calm.append reports rest
    | some error =>
      obtain ⟨before, id, className, after, calm, rfl⟩ := rest
      exact ⟨envelopes ++ before, id, className, after, Calm.append reports calm, by simp⟩

end

/-! ### Turns -/

namespace Cycle

theorem config_invalidated (world : World) (id : String) :
    (invalidated world id).config = world.config := by
  unfold invalidated
  split <;> rfl

end Cycle

namespace Turn

/-- What is sent last in a turn, and its failure: markup, if there is any, or an error. -/
inductive Says (turn : Turn) : List Envelope → Option Error → Prop
  | nothing : Says turn [] none
  | markup {rendered : Rendered} (ok : turn.rendering.result = .ok rendered) :
    Says turn [⟨turn.component.id, .render rendered.markup⟩] none
  | failure (className : String) (error : Error) : Says turn
    [⟨turn.component.id,
      .error (Diagnostic.html className error turn.cycle.world.config.diagnostics)⟩] (some error)

/-- **What is sent in a turn**: news, and what is said last. -/
structure Tells (turn : Turn) (inlined : List String) (news last : List Envelope)
    (failure : Option Error) (next : Cycle × List String) : Prop where
  status : ∀ envelope ∈ news, ∃ status id, envelope = .news status id
  said : turn.Says last failure
  sendings : turn.sendings = Sending.allOf (some turn) (news ++ last)
  outgoing : next.1.world.outgoing = turn.cycle.world.outgoing ++ (news ++ last)
  failure : next.1.failure = turn.cycle.failure.or failure
  config : next.1.world.config = turn.cycle.world.config
  filed : next.1.world.Filed
  kept : inlined ⊆ next.2
  inlined : ∀ rendered, turn.rendering.result = .ok rendered → rendered.renderedChildren ⊆ next.2

variable {turn : Turn} {inlined : List String}

theorem exists_tells (filed : turn.cycle.world.Filed)
    (stands : turn.cycle.world.mounted.get? turn.component.id = some (some turn.component)) :
    ∃ news last failure, turn.Tells inlined news last failure
      (turn.cycle.renderOne inlined turn.component turn.dirty) := by
  have goes := turn.rendering.goes_settled turn.cycle.world none filed stands rfl nofun
  obtain ⟨config, news, sent, status⟩ := goes.sends
  have there : turn.rendering.settled.Filed := (goes.mono World.alike_of_rests).filed filed
  obtain ⟨store, same⟩ := Cycle.exists_renderOne_eq turn inlined
  -- what is sent does not depend on what was inlined before
  have sendings {last : List Envelope} (outgoing :
      (turn.cycle.renderOne inlined turn.component turn.dirty).1.world.outgoing =
        turn.cycle.world.outgoing ++ (news ++ last)) :
      turn.sendings = Sending.allOf (some turn) (news ++ last) := by
    rw [Cycle.renderOne_fst] at outgoing
    rw [Turn.sendings, Turn.after, outgoing, List.drop_left]
  generalize turn.cycle.renderOne inlined turn.component turn.dirty = next at same sendings ⊢
  subst same
  cases result : turn.rendering.result with
  | error error =>
    obtain ⟨className, fails⟩ := Cycle.exists_fail_eq
      { turn.cycle with world := turn.rendering.settled, store } turn.component.id error
    simp only [result, fails] at sendings ⊢
    have outgoing : ((Cycle.invalidated turn.rendering.settled turn.component.id).emit
        turn.component.id (.error (Diagnostic.html className error
          turn.rendering.settled.config.diagnostics))).outgoing = turn.cycle.world.outgoing ++
        (news ++ [⟨turn.component.id, .error (Diagnostic.html className error
          turn.cycle.world.config.diagnostics)⟩]) := by
      rw [World.emit, Cycle.outgoing_invalidated, sent, config, List.append_assoc]
    refine ⟨news, _, _, status, .failure className error, sendings outgoing, outgoing, rfl,
      (Cycle.config_invalidated _ _).trans config, ?_, List.Subset.refl _, ?_⟩
    · exact ((Cycle.goes_failure there _ _).mono World.alike_of_lingers).filed there
    · simp [result]
  | ok rendered =>
    simp only [result] at sendings ⊢
    have within (other : Rendered) (ok : turn.rendering.result = .ok other) :
        other.renderedChildren ⊆ inlined ++ rendered.renderedChildren := by
      cases result.symm.trans ok
      exact List.subset_append_right _ _
    by_cases empty : rendered.isEmpty = true
    · simp only [empty, if_true] at sendings ⊢
      have outgoing : turn.rendering.settled.outgoing =
          turn.cycle.world.outgoing ++ (news ++ []) := by rw [sent, List.append_nil]
      exact ⟨news, [], none, status, .nothing, sendings outgoing, outgoing, (Option.or_none).symm,
        config, there, List.subset_append_left _ _, within⟩
    · simp only [empty] at sendings ⊢
      have outgoing : (turn.rendering.settled.emit turn.component.id
          (.render rendered.markup)).outgoing = turn.cycle.world.outgoing ++
            (news ++ [⟨turn.component.id, .render rendered.markup⟩]) := by
        rw [World.emit, sent, List.append_assoc]
      exact ⟨news, _, none, status, .markup result, sendings outgoing, outgoing,
        (Option.or_none).symm, config, there, List.subset_append_left _ _, within⟩

section

variable {news last : List Envelope} {failure : Option Error} {next : Cycle × List String}
  (tells : turn.Tells inlined news last failure next)

include tells

theorem Tells.disciplined : Disciplined turn.sendings := by
  rw [tells.sendings]
  refine disciplined_of_news tells.status ?_
  cases tells.said <;> simp

/-- A turn speaks of its own component. -/
theorem Tells.eq_of_speaks {sending : Sending} (member : sending ∈ turn.sendings) {id : String}
    (speaks : sending.Speaks id) : id = turn.component.id := by
  rw [tells.sendings] at member
  obtain ⟨envelope, there, rfl⟩ := List.mem_map.mp member
  rcases List.mem_append.mp there with early | late
  · obtain ⟨_, _, rfl⟩ := tells.status envelope early
    exact absurd speaks not_speaks_of_news
  · cases tells.said with
    | nothing => cases late
    | markup ok =>
      cases List.mem_singleton.mp late
      rcases speaks with ⟨_, same⟩ | ⟨_, same⟩ <;> cases same
      rfl
    | failure className error =>
      cases List.mem_singleton.mp late
      rcases speaks with ⟨_, same⟩ | ⟨_, same⟩ <;> cases same
      rfl

/-- What is carried in a turn is known afterwards. -/
theorem Tells.mem_of_carries {sending : Sending} (member : sending ∈ turn.sendings) {id : String}
    (carries : sending.Carries id) : id ∈ next.2 := by
  rw [tells.sendings] at member
  obtain ⟨envelope, there, rfl⟩ := List.mem_map.mp member
  rcases List.mem_append.mp there with early | late
  · obtain ⟨_, _, rfl⟩ := tells.status envelope early
    exact absurd carries not_carries_of_news
  · obtain ⟨⟨_, _, same⟩, _, own, inlines⟩ := carries
    cases own
    cases tells.said with
    | nothing => cases late
    | markup ok =>
      exact tells.inlined _ ok (Rendering.mem_renderedChildren_of_inlines inlines ok)
    | failure className error =>
      cases List.mem_singleton.mp late
      cases same

/-- The failure of a turn is reported. -/
theorem Tells.reports :
    Reports turn.cycle.world.config failure (turn.sendings.map Sending.envelope) := by
  have plain : (Sending.allOf (some turn) (news ++ last)).map Sending.envelope = news ++ last := by
    rw [Sending.allOf, List.map_map]
    exact List.map_id _
  rw [tells.sendings, plain]
  have calm : Reports turn.cycle.world.config none news := calm_of_status tells.status
  have ends : Reports turn.cycle.world.config failure last := by
    cases tells.said with
    | nothing => simp [Reports, Calm]
    | markup ok => simp [Reports, Calm]
    | failure className error => exact ⟨[], _, className, [], by simp [Calm], rfl⟩
  simpa using calm.append ends

end

end Turn

/-! ### Cycles -/

namespace Cycle

/-- What is rendered in a cycle: each component once, and none that failed. -/
theorem affected_distinct (cycle : Cycle) (newcomer : Option String) :
    ((cycle.affected newcomer).map Prod.fst).Nodup := by
  refine List.Sublist.nodup ?_ cycle.world.mounted.nodup
  unfold affected
  induction cycle.world.mounted.entries with
  | nil => exact .slnil
  | cons entry rest ih =>
    rw [List.filterMap_cons, List.map_cons]
    cases cycle.dirtyOf newcomer entry.1 entry.2 with
    | none => exact ih.cons _
    | some dirty => exact ih.cons_cons _

theorem not_failed_of_affected {cycle : Cycle} {newcomer : Option String} {id : String}
    (member : id ∈ (cycle.affected newcomer).map Prod.fst) :
    newcomer = some id ∨ id ∉ cycle.failed := by
  obtain ⟨⟨_, dirty⟩, there, rfl⟩ := List.mem_map.mp member
  obtain ⟨⟨known, place⟩, _, found⟩ := List.mem_filterMap.mp there
  obtain ⟨_, dirties, same⟩ := Option.map_eq_some_iff.mp found
  cases same
  unfold dirtyOf at dirties
  split at dirties
  · next new => exact Or.inl new
  · split at dirties
    · cases dirties
    · next sound => exact Or.inr (by simpa using sound)

/-- **The turns of a cycle are disciplined**: they speak of affected components, but of none that was
carried before. -/
theorem disciplined_renderAll {cycle : Cycle} (filed : cycle.world.Filed) (inlined : List String)
    {affected : List (String × Dirty)} (distinct : (affected.map Prod.fst).Nodup) :
    let sendings := (cycle.turns inlined affected).flatMap Turn.sendings
    Disciplined sendings ∧ ∀ sending ∈ sendings, ∀ id, sending.Speaks id →
      id ∈ affected.map Prod.fst ∧ id ∉ inlined := by
  induction affected generalizing cycle inlined with
  | nil => exact ⟨⟨.nil, .nil⟩, fun _ => nofun⟩
  | cons first rest ih =>
    obtain ⟨id, dirty⟩ := first
    obtain ⟨new, others⟩ := List.nodup_cons.mp distinct
    -- what holds of the rest holds of all
    have skip (inlined : List String) {sendings : List Sending}
        (speaks : ∀ sending ∈ sendings, ∀ other, sending.Speaks other →
          other ∈ rest.map Prod.fst ∧ other ∉ inlined) :
        ∀ sending ∈ sendings, ∀ other, sending.Speaks other →
          other ∈ ((id, dirty) :: rest).map Prod.fst ∧ other ∉ inlined :=
      fun sending member other spoken =>
        (speaks sending member other spoken).imp_left (List.mem_cons_of_mem _)
    unfold turns
    split
    · exact (ih filed inlined others).imp_right (skip inlined)
    · next free =>
      cases known : cycle.world.instance? id with
      | error error => exact (ih filed inlined others).imp_right (skip inlined)
      | ok component =>
        have there := World.instance?_eq_ok_iff.mp known
        have named := filed there
        subst named
        obtain ⟨news, last, failure, tells⟩ :=
          @Turn.exists_tells ⟨cycle, component, dirty⟩ inlined filed there
        dsimp only at tells ⊢
        generalize cycle.renderOne inlined component dirty = reached at tells ⊢
        obtain ⟨disciplined, speaks⟩ := ih tells.filed reached.2 others
        rw [List.flatMap_cons]
        refine ⟨tells.disciplined.append disciplined fun first early second late other spoken again =>
          ?_, fun sending member other spoken => ?_⟩
        · obtain ⟨listed, left⟩ := speaks second late other again
          rcases spoken with own | carries
          · exact new (tells.eq_of_speaks early own ▸ listed)
          · exact left (tells.mem_of_carries early carries)
        · rcases List.mem_append.mp member with early | late
          · have own := tells.eq_of_speaks early spoken
            subst own
            exact ⟨List.mem_cons_self, by simpa using free⟩
          · obtain ⟨listed, left⟩ := speaks sending late other spoken
            exact ⟨List.mem_cons_of_mem _ listed, fun member => left (tells.kept member)⟩

/-- **The turns of a cycle report its failure**, and send nothing but their sendings. -/
theorem exists_reports_renderAll {cycle : Cycle} (filed : cycle.world.Filed) (inlined : List String)
    (affected : List (String × Dirty)) :
    let sendings := (cycle.turns inlined affected).flatMap Turn.sendings
    (cycle.renderAll inlined affected).world.outgoing =
        cycle.world.outgoing ++ sendings.map Sending.envelope ∧
      ∃ failure, (cycle.renderAll inlined affected).failure = cycle.failure.or failure ∧
        Reports cycle.world.config failure (sendings.map Sending.envelope) := by
  induction affected generalizing cycle inlined with
  | nil => exact ⟨(List.append_nil _).symm, none, (Option.or_none).symm, fun _ => nofun⟩
  | cons first rest ih =>
    obtain ⟨id, dirty⟩ := first
    unfold renderAll turns
    split
    · exact ih filed inlined
    · cases known : cycle.world.instance? id with
      | error error => exact ih filed inlined
      | ok component =>
        have there := World.instance?_eq_ok_iff.mp known
        rw [← filed there] at there
        obtain ⟨news, last, failure, tells⟩ :=
          @Turn.exists_tells ⟨cycle, component, dirty⟩ inlined filed there
        dsimp only at tells ⊢
        generalize cycle.renderOne inlined component dirty = reached at tells ⊢
        obtain ⟨sent, later, fails, reports⟩ := ih tells.filed reached.2
        have told : (Turn.mk cycle component dirty).sendings.map Sending.envelope = news ++ last := by
          rw [tells.sendings, Sending.allOf, List.map_map]
          exact List.map_id _
        rw [List.flatMap_cons, List.map_append]
        refine ⟨?_, failure.or later, ?_, tells.reports.append (tells.config ▸ reports)⟩
        · rw [sent, tells.outgoing, told, List.append_assoc]
        · rw [fails, tells.failure, Option.or_assoc]

/-- **What a cycle does before anything is rendered**: all that is asked, or it fails once. -/
inductive Performs (world : World) (next : Cycle) : Prop
  | done (failure : next.failure = none) (failed : next.failed = [])
    (outgoing : next.world.outgoing = world.outgoing) (config : next.world.config = world.config)
  | failed {id className : String} {error : Error} (failure : next.failure = some error)
    (failed : next.failed = [id]) (outgoing : next.world.outgoing = world.outgoing ++
      [⟨id, .error (Diagnostic.html className error world.config.diagnostics)⟩])
    (config : next.world.config = world.config)

theorem Performs.of_same {world middle : World} {next : Cycle} (performs : Performs middle next)
    (sent : middle.outgoing = world.outgoing) (settings : middle.config = world.config) :
    Performs world next := by
  cases performs with
  | done failure failed outgoing config =>
    exact .done failure failed (outgoing.trans sent) (config.trans settings)
  | failed failure failed outgoing config =>
    exact .failed failure failed (sent ▸ settings ▸ outgoing) (config.trans settings)

/-- What a cycle has sent before anything is rendered: some news, and its failure. -/
structure Began (world : World) (next : Cycle) : Prop where
  disciplined : Disciplined (Sending.allOf none next.world.outgoing)
  failed : ∀ sending ∈ Sending.allOf none next.world.outgoing, ∀ id, sending.Speaks id →
    id ∈ next.failed
  reports : Reports world.config next.failure next.world.outgoing
  config : next.world.config = world.config

theorem Performs.began {world : World} {next : Cycle} (performs : Performs world next)
    (status : ∀ envelope ∈ world.outgoing, ∃ status id, envelope = .news status id) :
    Began world next := by
  cases performs with
  | done failure failed outgoing config =>
    refine ⟨?_, fun sending member id speaks => ?_, ?_, config⟩
    · rw [outgoing, ← List.append_nil world.outgoing]
      exact disciplined_of_news status (Nat.zero_le 1)
    · obtain ⟨envelope, there, rfl⟩ := List.mem_map.mp (outgoing ▸ member)
      obtain ⟨_, _, rfl⟩ := status envelope there
      exact absurd speaks not_speaks_of_news
    · rw [failure, outgoing]
      exact calm_of_status status
  | @failed id className error failure failed outgoing config =>
    refine ⟨?_, fun sending member other speaks => ?_, ?_, config⟩
    · rw [outgoing]
      exact disciplined_of_news status le_rfl
    · obtain ⟨envelope, there, rfl⟩ := List.mem_map.mp (outgoing ▸ member)
      rcases List.mem_append.mp there with early | late
      · obtain ⟨_, _, rfl⟩ := status envelope early
        exact absurd speaks not_speaks_of_news
      · cases List.mem_singleton.mp late
        rcases speaks with ⟨_, same⟩ | ⟨_, same⟩ <;> cases same
        rw [failed]
        exact List.mem_singleton_self _
    · rw [failure]
      exact ⟨world.outgoing, id, className, [], calm_of_status status, outgoing⟩

theorem performs_after {cycle : Cycle} (fine : cycle.failure = none) (sound : cycle.failed = [])
    (id : String) {done : Except Error Unit × World × Store} (behind : cycle.world.Stands done.2.1) :
    Performs cycle.world (cycle.after id done) := by
  obtain ⟨result, world, store⟩ := done
  cases result with
  | ok value => exact .done fine sound behind.outgoing behind.config
  | error error =>
    have sent : world.outgoing = cycle.world.outgoing := behind.outgoing
    have settings : world.config = cycle.world.config := behind.config
    obtain ⟨className, same⟩ := exists_fail_eq { cycle with world, store } id error
    change Performs cycle.world (fail { cycle with world, store } id error)
    rw [same]
    refine @Performs.failed _ _ id className error ?_ ?_ ?_ ?_
    · simp only [fine, Option.none_or]
    · simp only [sound]
    · simp only [World.emit, outgoing_invalidated, sent, settings]
    · exact (config_invalidated world id).trans settings

theorem performs_perform {cycle : Cycle} (filed : cycle.world.Filed) (fine : cycle.failure = none)
    (sound : cycle.failed = []) (request : Request) :
    Performs cycle.world (cycle.perform request) := by
  cases request with
  | messages messages =>
    change Performs cycle.world (cycle.executeAll messages)
    induction messages generalizing cycle with
    | nil => exact .done fine sound rfl rfl
    | cons message rest ih =>
      have behind := stands_execute filed message cycle.store
      have next := performs_after fine sound message.component behind
      have there : (cycle.after message.component
          (execute cycle.world message cycle.store)).world.Filed := by
        refine after_induct (motive := fun reached => reached.world.Filed)
          (fun _ _ _ stands filed => stands.filed filed) (fun reached id error filed => ?_) filed
          message.component behind
        obtain ⟨html, same⟩ := world_fail reached id error
        exact same ▸ ((goes_failure filed id html).mono World.alike_of_lingers).filed filed
      unfold executeAll
      dsimp only
      split
      · exact next
      · next unfailed =>
        cases next with
        | failed failure => simp [failure] at unfailed
        | done failure failed outgoing config =>
          exact (ih there failure failed).of_same outgoing config
  | external id code =>
    exact performs_after fine sound id (stands_executeExternal filed id code cycle.store)
  | mounted id => exact .done fine sound rfl rfl

/-- **Every cycle is disciplined, and reports its failure.** -/
theorem disciplined_run {world : World} (filed : world.Filed)
    (status : ∀ envelope ∈ world.outgoing, ∃ status id, envelope = .news status id)
    (request : Request) (store : Store) :
    Disciplined (sendings world request store) ∧
      (run world request store).world.outgoing =
        (sendings world request store).map Sending.envelope ∧
      Reports world.config (run world request store).failure
        ((sendings world request store).map Sending.envelope) := by
  have performs : Performs world ((start world store).perform request) :=
    performs_perform (show (start world store).world.Filed from filed) rfl rfl request
  have there : ((start world store).perform request).world.Filed :=
    ((goes_perform (show (start world store).world.Filed from filed) request).mono
      World.alike_of_lingers).filed filed
  have began := performs.began status
  -- a component that has just been mounted has not failed yet
  have newcomer {id : String} (new : newcomer? request = some id) :
      ((start world store).perform request).failed = [] := by
    cases request with
    | messages messages => cases new
    | external id code => cases new
    | mounted id => rfl
  unfold sendings run turnsOf
  dsimp only
  generalize (start world store).perform request = executed at there began newcomer ⊢
  obtain ⟨disciplined, speaks⟩ :=
    disciplined_renderAll there [] (affected_distinct executed (newcomer? request))
  obtain ⟨sent, failure, fails, reports⟩ :=
    exists_reports_renderAll there [] (executed.affected (newcomer? request))
  have plain : (Sending.allOf none executed.world.outgoing).map Sending.envelope =
      executed.world.outgoing := by
    rw [Sending.allOf, List.map_map]
    exact List.map_id _
  refine ⟨began.disciplined.append disciplined fun first early second late id spoken again => ?_,
    ?_, ?_⟩
  · rcases spoken with own | ⟨_, turn, taken, _⟩
    · have failing := began.failed first early id own
      rcases not_failed_of_affected (speaks second late id again).1 with new | sound
      · rw [newcomer new] at failing
        cases failing
      · exact sound failing
    · obtain ⟨envelope, _, rfl⟩ := List.mem_map.mp early
      cases taken
  · rw [sent, List.map_append, plain]
  · rw [fails, List.map_append, plain]
    exact began.reports.append (began.config ▸ reports)

end Cycle

/-! ### Sessions -/

namespace Session

/-- **Every cycle of every session is disciplined**: what an entry sends speaks of no component twice,
nor of one that was carried before; and the entry fails if and only if it sends an error, with the
first one that is sent. -/
theorem disciplined_cycle (config : Config) (earlier : List Entry) (entry : Entry)
    (runs : ((reached config earlier).cycle? entry).isSome = true) :
    Disciplined ((reached config earlier).sendingsOf entry) ∧
      ((reached config earlier).sendingsOf entry).map Sending.envelope =
        sent config (entry :: earlier) ∧
      match ((reached config earlier).enter entry).result with
      | .ok _ => Calm (sent config (entry :: earlier))
      | .error error =>
        Reports (reached config earlier).config (some error) (sent config (entry :: earlier)) := by
  obtain ⟨filed, unsent, _⟩ := covered_reached config earlier
  obtain ⟨⟨world, request, store⟩, runs⟩ := Option.isSome_iff_exists.mp runs
  have asks := goes_asked runs
  obtain ⟨settings, news, begun, status⟩ := asks.sends
  rw [unsent, List.nil_append] at begun
  obtain ⟨disciplined, outgoing, reports⟩ := Cycle.disciplined_run
    ((asks.mono World.alike_of_rests).filed filed) (begun ▸ status) request store
  have told : sent config (entry :: earlier) = (Cycle.run world request store).world.outgoing := by
    change ((reached config earlier).enter entry).sent = _
    rw [enter_of_runs runs]
    rfl
  have sendings : (reached config earlier).sendingsOf entry = Cycle.sendings world request store := by
    rw [sendingsOf, runs]
  rw [sendings, told, outgoing, enter_of_runs runs]
  refine ⟨disciplined, rfl, ?_⟩
  change match resultOf (Cycle.run world request store) with
    | .ok _ => _
    | .error error => Reports (reached config earlier).world.config _ _
  rw [settings] at reports
  unfold resultOf
  generalize (Cycle.run world request store).failure = failure at reports ⊢
  cases failure with
  | none => exact reports
  | some error => exact reports

/-- A page fails after it has rendered a row, and this is what the client is told. -/
theorem disciplined_cycle_of_failing : ∃ item page error, row.build = .ok item ∧
    (Draft.page item "<%= child(\"Row\", \"a\") %><%= missing %>").build = .ok page ∧
    Disciplined ((reached Config.default []).sendingsOf (.mount "p" page)) ∧
    ((reached Config.default []).enter (.mount "p" page)).result = .error error ∧
    Reports (reached Config.default []).config (some error)
      (sent Config.default [.mount "p" page]) := by
  have checked : ComponentDef.isBuiltTo row.build (fun item => ComponentDef.isBuiltTo
      (Draft.page item "<%= child(\"Row\", \"a\") %><%= missing %>").build fun page =>
        ((reached Config.default []).cycle? (.mount "p" page)).isSome &&
        !((reached Config.default []).enter (.mount "p" page)).result.isOk) = true := by
    decide +kernel
  obtain ⟨item, built, passes⟩ := ComponentDef.exists_of_isBuiltTo checked
  obtain ⟨page, made, passes⟩ := ComponentDef.exists_of_isBuiltTo passes
  rw [Bool.and_eq_true, Bool.not_eq_true'] at passes
  obtain ⟨disciplined, _, reports⟩ := disciplined_cycle Config.default [] (.mount "p" page) passes.1
  cases result : ((reached Config.default []).enter (.mount "p" page)).result with
  | ok value =>
    rw [result] at passes
    cases passes.2
  | error error =>
    rw [result] at reports
    exact ⟨item, page, error, built, made, disciplined, result, reports⟩

end Session

end ReactiveView
