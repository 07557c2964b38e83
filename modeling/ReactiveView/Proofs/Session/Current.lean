/-
**Which parts show the identity values of today.**

Identity values are read by templates and by helpers, and nothing is marked when they are set. When a component
is rendered because a variable has changed, the parts that depend on the component itself, on one of its helpers
or on such a variable are evaluated, and so they show what is made of the identity values that the session has
now. A part that reads an identity value by its name alone is left out.

* `Instance.Current` — a part shows what evaluating it has given, with these identity values.
* `Rendering.allCurrent_rendered` — what a rendering does to such parts.
* `World.Goes.allCurrent_of_renders` — they stay as they are until the end of an entry.
* `Session.current_of_rendered` — parts that depend on the component, a helper, or what has changed.
* `Session.not_current_of_renamed` — a part that reads an identity value by its name.
-/

import ReactiveView.Proofs.Data.Entries
import ReactiveView.Proofs.Render.Evaluated
import ReactiveView.Proofs.Session.Identity
import ReactiveView.Proofs.Session.Pictures
import ReactiveView.Proofs.Session.Sites

namespace ReactiveView

/-- **What a part is evaluated to** in a rendering that comes to it. -/
def Rendering.evaluated? (rendering : Rendering) (position : Nat) : Option String :=
  match rendering.nesting, rendering.component.definition.template rendering.component.variant with
  | nesting + 1, .ok template =>
    Render.evaluated? template rendering.dirty rendering.component.view
      (scope nesting rendering.component) rendering.world.config
      ⟨rendering.component.container, rendering.world⟩ rendering.store position
  | _, _ => none

namespace Instance

variable {component other : Instance} {events : List Event} {identity : OrderedMap String Value}
  {kind : ComponentDef → DynamicPart → Prop} {position : Nat} {part : DynamicPart}

/-- The part of a template that a component shows at a position. -/
def part? (component : Instance) (position : Nat) : Option DynamicPart :=
  match component.view.variant with
  | some variant =>
    match component.definition.template variant with
    | .ok template =>
      match template.parts[position]? with
      | some (.dynamic part) => some part
      | _ => none
    | .error _ => none
  | none => none

theorem part?_eq_some_iff : component.part? position = some part ↔ ∃ variant template,
    component.view.variant = some variant ∧ component.definition.template variant = .ok template ∧
      template.parts[position]? = some (.dynamic part) := by
  unfold part?
  constructor
  · intro found
    split at found
    · next variant shown =>
      split at found
      · next template known =>
        split at found
        · next there =>
          cases found
          exact ⟨variant, template, shown, known, there⟩
        · cases found
      · cases found
    · cases found
  · rintro ⟨variant, template, shown, known, there⟩
    simp only [shown, known, there]

/-- **A part of a component is current**: it shows what it was evaluated to in some rendering of the component,
that succeeded, with these identity values. -/
inductive Current (component : Instance) (events : List Event) (identity : OrderedMap String Value)
    (position : Nat) : Prop
  | intro {rendering : Rendering} {place : Option (String × Nat)} {html : String}
    (happened : .renders rendering place ∈ events)
    (named : rendering.component.id = component.id)
    (definition : rendering.component.definition = component.definition)
    (sees : rendering.world.identity = identity)
    (ok : ∃ rendered, rendering.result = .ok rendered)
    (evaluated : rendering.evaluated? position = some html)
    (fragment : component.view.fragments[position]? = some (some html))

/-- All parts of a kind are current that a component shows. -/
def AllCurrent (component : Instance) (kind : ComponentDef → DynamicPart → Prop) (events : List Event)
    (identity : OrderedMap String Value) : Prop :=
  component.definition.Built → ∀ {position part}, component.part? position = some part →
    kind component.definition part → component.Current events identity position

/-- A component of which the client has got nothing shows nothing old. -/
theorem allCurrent_of_empty (empty : component.view = ClientView.empty) :
    component.AllCurrent kind events identity := by
  intro _ _ _ shown
  rw [part?, empty] at shown
  cases shown

/-- What is current does not depend on anything that others do not see. -/
theorem AllCurrent.of_likeness (same : component.likeness = other.likeness)
    (current : component.AllCurrent kind events identity) :
    other.AllCurrent kind events identity := by
  have id : component.id = other.id := congrArg (fun likeness => likeness.1) same
  have definition : component.definition = other.definition :=
    congrArg (fun likeness => likeness.2.1) same
  have variant : component.view.variant = other.view.variant :=
    congrArg (fun likeness => likeness.2.2.variant) same
  have fragments : component.view.fragments = other.view.fragments :=
    congrArg (fun likeness => likeness.2.2.fragments) same
  unfold AllCurrent part? at current ⊢
  rw [← definition, ← variant]
  intro built position part there ofKind
  obtain ⟨happened, named, defined, sees, ok, evaluated, fragment⟩ := current built there ofKind
  exact ⟨happened, named.trans id, defined.trans definition, sees, ok, evaluated, fragments ▸ fragment⟩

end Instance

/-! ### What a rendering does -/

namespace Rendering

variable {rendering : Rendering} {rendered : Rendered} {template : Template} {position : Nat}
  {part : DynamicPart} {events : List Event} {identity : OrderedMap String Value}
  {kind : ComponentDef → DynamicPart → Prop} {place : Option (String × Nat)}

/-- **What the client has of a part after a rendering**: what it was evaluated to, or what the client had
before; the second only if the part depends on nothing that has changed. -/
theorem fragment_cases (ok : rendering.result = .ok rendered)
    (known : rendering.component.definition.template rendering.component.variant = .ok template)
    (there : template.parts[position]? = some (.dynamic part)) :
    (∃ html, rendering.evaluated? position = some html ∧
      rendering.rendered.view.fragments[position]? = some (some html)) ∨
    ((∀ name ∈ part.dependencies, rendering.dirty.contains name = false) ∧
      rendering.component.view.variant = some template.variant ∧
      rendering.rendered.view.fragments[position]? =
        some rendering.component.view.fragments[position]?.join) := by
  obtain ⟨other, completes⟩ := exists_completes ok
  cases known.symm.trans completes.known
  cases rendering.course with
  | refused error =>
    rw [ok] at error
    cases error
  | failed _ _ _ error =>
    rw [ok] at error
    cases error
  | @done nesting other slots _ _ _ _ depth known' _ ran _ _ _ _ result =>
    cases ok.symm.trans result
    cases known.symm.trans known'
    obtain ⟨slot, found, ⟨same, filled, shown⟩ | ⟨bare, unaffected⟩⟩ :=
      Render.yields_of_render (congrArg Prod.fst ran) there
    · obtain ⟨html, new⟩ := Option.isSome_iff_exists.mp filled
      obtain ⟨ids, children⟩ := Option.isSome_iff_exists.mp shown
      refine Or.inl ⟨html, ?_, ?_⟩
      · unfold evaluated?
        rw [depth, known]
        exact same.symm.trans new
      · rw [completes.view]
        exact (ClientView.getElem?_commit_of_some found new children).1
    · subst bare
      obtain ⟨_, thin⟩ := completes.bare _ (List.mem_of_getElem? found) rfl
      refine Or.inr ⟨fun name member => ?_, completes.thin thin, ?_⟩
      · rw [← Bool.not_eq_true]
        intro changed
        rw [Render.isAffected_of_mem member changed] at unaffected
        cases unaffected
      · rw [completes.view]
        exact (ClientView.getElem?_commit_of_none thin found rfl rfl).1

/-- **What is current stays current in a rendering**, and becomes so in one that succeeds, if it depends on
something that has changed. -/
theorem allCurrent_rendered (happened : .renders rendering place ∈ events)
    (sees : rendering.world.identity = identity)
    (either : rendering.component.AllCurrent kind events identity ∨
      ((∃ rendered, rendering.result = .ok rendered) ∧
        ∀ part, kind rendering.component.definition part →
          ∃ name ∈ part.dependencies, rendering.dirty.contains name = true)) :
    rendering.rendered.AllCurrent kind events identity := by
  obtain ⟨id, definition, _⟩ := rendering.rendered_face
  cases result : rendering.result with
  | error error =>
    rcases either with current | ⟨⟨_, ok⟩, _⟩
    · refine current.of_likeness ?_
      unfold Instance.likeness
      rw [id, definition, view_of_error result]
    · cases ok.symm.trans result
  | ok rendered =>
    obtain ⟨found, completes⟩ := exists_completes result
    intro built position part there ofKind
    rw [definition] at built ofKind
    obtain ⟨variant, template, shown, known, there⟩ := Instance.part?_eq_some_iff.mp there
    -- the template that is shown is the one that was rendered
    rw [completes.variant] at shown
    cases shown
    rw [definition] at known
    have rendered := completes.known
    rw [← built.variant_eq rendered] at rendered
    cases known.symm.trans rendered
    rcases fragment_cases result completes.known there with
      ⟨html, evaluated, fragment⟩ | ⟨unchanged, before, kept⟩
    · exact ⟨happened, id.symm, definition.symm, sees, ⟨_, result⟩, evaluated, fragment⟩
    · rcases either with current | ⟨_, touches⟩
      · obtain ⟨earlier, named, defined, sees, ok, evaluated, fragment⟩ :=
          current built (Instance.part?_eq_some_iff.mpr ⟨_, _, before, known, there⟩) ofKind
        rw [fragment] at kept
        exact ⟨earlier, named.trans id.symm, defined.trans definition.symm, sees, ok, evaluated, kept⟩
      · obtain ⟨name, member, changed⟩ := touches part ofKind
        rw [unchanged name member] at changed
        cases changed

end Rendering

/-! ### From event to event -/

namespace World.Goes

variable {world after : World} {events all : List Event} {id : String}
  {identity : OrderedMap String Value} {kind : ComponentDef → DynamicPart → Prop}
  {classes : ComponentDef → Prop}
  (sees : ∀ {rendering place}, .renders rendering place ∈ all → rendering.world.identity = identity)

include sees

/-- Whatever comes is current from the start, and what is current stays so; a component of some classes may
stay as it is. -/
theorem allCurrent_or (goes : Goes Alike world events after) (happens : events ⊆ all)
    (before : ∀ component, world.mounted.get? id = some (some component) →
      classes component.definition ∨ component.AllCurrent kind all identity) {component : Instance}
    (there : after.mounted.get? id = some (some component)) :
    classes component.definition ∨ component.AllCurrent kind all identity := by
  by_contra stale
  have back : ∃ old, world.mounted.get? id = some (some old) ∧
      ¬ (classes old.definition ∨ old.AllCurrent kind all identity) := by
    refine goes.exists_before (fun old new same stale current => stale ?_)
      (fun new _ _ view stale => stale ?_) (fun rendering place members _ _ stale current => stale ?_)
      there stale
    · have definition : old.definition = new.definition :=
        congrArg (fun likeness => likeness.2.1) same
      rw [← definition]
      exact current.imp_right (Instance.AllCurrent.of_likeness same)
    · exact Or.inr (Instance.allCurrent_of_empty view)
    · have member := happens
        (members (.renders rendering place) (by simp [Rendering.events, Rendering.ends]))
      rw [rendering.rendered_face.2.1]
      exact current.imp_right fun current =>
        Rendering.allCurrent_rendered member (sees member) (Or.inl current)
  obtain ⟨old, found, stale⟩ := back
  exact stale (before old found)

/-- **What is current stays current**, and so does what comes. -/
theorem allCurrent_after (goes : Goes Alike world events after) (happens : events ⊆ all)
    (before : ∀ component, world.mounted.get? id = some (some component) →
      component.AllCurrent kind all identity) {component : Instance}
    (there : after.mounted.get? id = some (some component)) :
    component.AllCurrent kind all identity :=
  (@allCurrent_or _ _ _ all id identity kind (fun _ => False) sees goes happens
    (fun component found => Or.inr (before component found)) component there).resolve_left not_false

/-- **What is affected by a rendering is current in the end**, if the rendering succeeds. -/
theorem allCurrent_of_renders (goes : Goes Alike world events after) (happens : events ⊆ all)
    (before : ∀ component, world.mounted.get? id = some (some component) →
      classes component.definition ∨ component.AllCurrent kind all identity)
    {rendering : Rendering} {place : Option (String × Nat)}
    (member : .renders rendering place ∈ events) (named : rendering.component.id = id)
    (ok : ∃ rendered, rendering.result = .ok rendered)
    (touches : classes rendering.component.definition → ∀ part,
      kind rendering.component.definition part →
        ∃ name ∈ part.dependencies, rendering.dirty.contains name = true)
    {component : Instance} (there : after.mounted.get? id = some (some component)) :
    component.AllCurrent kind all identity := by
  induction goes generalizing component with
  | still => cases member
  | mounts => simp at member
  | destroys => simp at member
  | @renders world outer shown stands taken inside parent ih =>
    have within : outer.inside ⊆ all := fun _ member => happens (List.mem_append_left _ member)
    rcases Rendering.cases_of_settled there with ⟨rfl, stays, same⟩ | reached
    · cases same
      rcases List.mem_append.mp member with inner | ends
      · -- the component keeps its place, so nothing is rendered in it meanwhile
        have silent := Rendering.not_tells_inside inside stays inner
        simp [Event.tells, named] at silent
      · obtain ⟨rfl, rfl⟩ := Rendering.renders_mem_ends.mp ends
        refine Rendering.allCurrent_rendered (happens member) (sees (happens member)) ?_
        rcases before _ stands with own | current
        · exact Or.inr ⟨ok, touches own⟩
        · exact Or.inl current
    · rw [taken] at ih inside
      rcases List.mem_append.mp member with inner | ends
      · refine ih within (fun other found => ?_) inner reached
        rw [get?_takeOut] at found
        split at found
        · cases found
        · exact before other found
      · -- another component has come into the place of the one that was rendered
        obtain ⟨rfl, rfl⟩ := Rendering.renders_mem_ends.mp ends
        refine inside.allCurrent_after sees within (fun other found => ?_) reached
        rw [get?_takeOut, if_pos named.symm] at found
        cases found
  | @trans world middle after first second early late ih ih' =>
    have front : first ⊆ all := fun _ member => happens (List.mem_append_left _ member)
    have back : second ⊆ all := fun _ member => happens (List.mem_append_right _ member)
    rcases List.mem_append.mp member with here | later
    · exact late.allCurrent_after sees back (fun other found => ih front before here found) there
    · exact ih' back (fun other found => early.allCurrent_or sees front before found) later there

end World.Goes

/-! ### Cycles and sessions -/

namespace Cycle

variable {cycle : Cycle} {inlined : List String} {affected : List (String × Dirty)} {turn : Turn}

/-- A component takes its turn for what it was found to be affected by. -/
theorem mem_affected_of_mem_turns (filed : cycle.world.Filed) (taken : turn ∈ cycle.turns inlined affected) :
    (turn.component.id, turn.dirty) ∈ affected := by
  induction affected generalizing cycle inlined with
  | nil => cases taken
  | cons first rest ih =>
    obtain ⟨id, dirty⟩ := first
    unfold turns at taken
    split at taken
    · exact List.mem_cons_of_mem _ (ih filed taken)
    · split at taken
      · exact List.mem_cons_of_mem _ (ih filed taken)
      · next component known =>
        rcases List.mem_cons.mp taken with rfl | later
        · dsimp only
          rw [filed (World.instance?_eq_ok_iff.mp known)]
          exact List.mem_cons_self
        · have goes := (goes_renderOne filed inlined known dirty).mono World.alike_of_lingers
          exact List.mem_cons_of_mem _ (ih (goes.filed filed) later)

/-- **For some names a component is rendered only if a variable has changed**, and then for itself and all of
its helpers as well. -/
theorem exists_of_mem_affected {newcomer : Option String} {id : String} {changed : NameSet}
    (owed : (id, .names changed) ∈ cycle.affected newcomer) : ∃ component,
      cycle.world.mounted.get? id = some (some component) ∧ ∀ name,
        name = Template.componentName ∨ component.definition.hasHelper name = true → name ∈ changed := by
  obtain ⟨⟨known, place⟩, entry, made⟩ := List.mem_filterMap.mp owed
  obtain ⟨dirty, found, same⟩ := Option.map_eq_some_iff.mp made
  cases same
  dsimp only at found
  unfold dirtyOf at found
  split at found
  · cases found
  · split at found
    · cases found
    · cases place with
      | none => cases found
      | some component =>
        refine ⟨component, OrderedMap.mem_entries_iff.mp entry, fun name reached => ?_⟩
        dsimp only at found
        split at found
        · cases found
        · next filled =>
          cases found
          obtain ⟨other, member⟩ := List.exists_mem_of_ne_nil _ fun nothing =>
            filled (List.isEmpty_iff.mpr nothing)
          refine Instance.mem_dirty.mpr (Or.inr ⟨?_, reached⟩)
          rcases Instance.mem_dirty.mp member with own | ⟨some, _⟩
          · exact ⟨other, own⟩
          · exact some

end Cycle

/-- **A part depends on its component**, on one of its helpers, or on one of some names. -/
def ComponentDef.Touches (definition : ComponentDef) (changed : NameSet) (part : DynamicPart) : Prop :=
  ∃ name ∈ part.dependencies,
    name = Template.componentName ∨ definition.hasHelper name = true ∨ name ∈ changed

namespace Session

/-- When a turn for some names succeeds, what depends on them is current after the entry. -/
theorem allCurrent_of_turn {session : Session} {entry : Entry} (filed : session.world.Filed)
    {turn : Turn} (taken : turn ∈ session.turns entry) {changed : NameSet}
    (names : turn.dirty = .names changed) (ok : ∃ rendered, turn.rendering.result = .ok rendered)
    {component : Instance} (there : (session.enter entry).session.world.mounted.get?
      turn.component.id = some (some component)) :
    component.AllCurrent (fun definition part => definition.Touches changed part)
      (session.eventsOf entry) session.world.identity := by
  cases runs : session.cycle? entry with
  | none =>
    rw [turns, runs] at taken
    cases taken
  | some cycle =>
    obtain ⟨world, request, store⟩ := cycle
    rw [enter_of_runs runs] at there
    rw [turns, runs] at taken
    have happens : (Cycle.turnsOf world request store).flatMap Turn.events ⊆ session.eventsOf entry := by
      rw [eventsOf, turns, runs]
      exact List.subset_append_right _ _
    have begun : (Cycle.start world store).world.Filed :=
      ((goes_asked runs).mono World.alike_of_rests).filed filed
    have performed : ((Cycle.start world store).perform request).world.Filed :=
      ((Cycle.goes_perform begun request).mono World.alike_of_lingers).filed begun
    have owed := Cycle.mem_affected_of_mem_turns performed taken
    rw [names] at owed
    obtain ⟨old, found, whole⟩ := Cycle.exists_of_mem_affected owed
    have goes := (Cycle.goes_renderAll performed [] (((Cycle.start world store).perform request).affected
      (Cycle.newcomer? request))).mono World.alike_of_lingers
    have member : Event.renders turn.rendering none ∈
        (Cycle.turnsOf world request store).flatMap Turn.events :=
      List.mem_flatMap.mpr ⟨turn, taken, List.mem_append_right _
        (Rendering.renders_mem_ends.mpr ⟨rfl, rfl⟩)⟩
    refine @World.Goes.allCurrent_of_renders _ _ _ _ _ _ _ (· = old.definition)
      identity_of_mem_eventsOf goes happens (fun component same => ?_) _ _ member rfl ok
      (fun own part touches => ?_) _ there
    · cases found.symm.trans same
      exact Or.inl rfl
    · obtain ⟨name, member, reads⟩ := touches
      refine ⟨name, member, ?_⟩
      change turn.dirty.contains name = true
      rw [names]
      refine NameSet.contains_iff.mpr ?_
      rw [own, ← or_assoc] at reads
      exact reads.elim (whole name) fun changed => changed

variable {config : Config}

/--
**What is rendered because of a variable shows the identity values of today**, as far as it depends on the
component itself, on one of its helpers or on what has changed: when the entry is over, the client has what the
part was evaluated to in it, with the identity values that the session has now.
-/
theorem current_of_rendered {entry : Entry} {earlier : List Entry}
    (built : ∀ id definition, .mount id definition ∈ entry :: earlier → definition.Built)
    {turn : Turn} (taken : turn ∈ (reached config earlier).turns entry) {changed : NameSet}
    (names : turn.dirty = .names changed) (ok : ∃ rendered, turn.rendering.result = .ok rendered)
    {component : Instance} (there : (reached config (entry :: earlier)).world.mounted.get?
      turn.component.id = some (some component))
    {position : Nat} {part : DynamicPart} (placed : component.part? position = some part)
    (touches : component.definition.Touches changed part) :
    component.Current ((reached config earlier).eventsOf entry)
      (reached config (entry :: earlier)).world.identity position := by
  obtain ⟨keeps, _⟩ := @keeps_reached config (entry :: earlier) built
  obtain ⟨filed, _, _⟩ := covered_reached config earlier
  have current := allCurrent_of_turn filed taken names ok there (keeps.sound.components there).built
    placed touches
  obtain ⟨cycle, runs⟩ : ∃ cycle, (reached config earlier).cycle? entry = some cycle := by
    unfold turns at taken
    split at taken
    · next runs => exact ⟨_, runs⟩
    · cases taken
  rw [← identity_enter runs] at current
  exact current

/-- A helper that gives the user of the session. -/
def calling : HelperCode := fun _ _ => .ask (.identity "user") fun answer =>
  .done (answer.mapError .error)

/-- Code that gives a page its number. -/
def numbering : ActionCode := fun _ => .ask (.set "n" (.int 1)) fun _ => .done (.ok ())

/-- A page with a number, that calls the user by a helper and by name. -/
def greeting : Draft := (((Draft.empty "Page").addReactive "n" .absent).addHelper "called" calling).addTemplate
  standardVariant "<%= n %>|<%= called() %>|<%= user %>"

/-- A page comes, and then there is another user. -/
def renamed (page : ComponentDef) : List Entry :=
  [.setIdentity "user" (.str "b"), .mount "p" page, .setIdentity "user" (.str "a")]

/-- The page gets its number. -/
def numbered : Entry := .external "p" numbering

/-- The part that a component shows at a position, and its markup, pass a check after an entry in which the
component had a turn for some names that succeeded. -/
def isRenewed (earlier : List Entry) (entry : Entry) (id : String) (position : Nat)
    (check : Instance → NameSet → DynamicPart → Bool) : Bool :=
  ((reached Config.default (entry :: earlier)).world.mounted.get? id).join.any fun component =>
    ((reached Config.default earlier).turns entry).any fun turn =>
      turn.component.id == id && turn.rendering.result.isOk &&
        match turn.dirty with
        | .names changed => (component.part? position).any fun part => check component changed part
        | .all => false

theorem exists_of_isRenewed {earlier : List Entry} {entry : Entry} {id : String} {position : Nat}
    {check : Instance → NameSet → DynamicPart → Bool}
    (renewed : isRenewed earlier entry id position check = true) :
    ∃ (component : Instance) (turn : Turn) (changed : NameSet) (part : DynamicPart),
      (reached Config.default (entry :: earlier)).world.mounted.get? id = some (some component) ∧
      turn ∈ (reached Config.default earlier).turns entry ∧ turn.component.id = id ∧
      turn.dirty = .names changed ∧ (∃ rendered, turn.rendering.result = .ok rendered) ∧
      component.part? position = some part ∧ check component changed part = true := by
  unfold isRenewed at renewed
  simp only [Option.any_eq_true, List.any_eq_true, Bool.and_eq_true, beq_iff_eq] at renewed
  obtain ⟨component, there, turn, taken, ⟨named, ok⟩, passes⟩ := renewed
  have succeeds : ∃ rendered, turn.rendering.result = .ok rendered := by
    cases result : turn.rendering.result with
    | ok rendered => exact ⟨rendered, rfl⟩
    | error error =>
      rw [result] at ok
      cases ok
  cases names : turn.dirty with
  | all =>
    rw [names] at passes
    cases passes
  | names changed =>
    rw [names] at passes
    obtain ⟨part, placed, passes⟩ := (Option.any_eq_true ..).mp passes
    exact ⟨component, turn, changed, part, Option.join_eq_some_iff.mp there, taken, named, names,
      succeeds, placed, passes⟩

theorem built_of_renamed {page : ComponentDef} (ok : greeting.build = .ok page) :
    ∀ id definition, .mount id definition ∈ numbered :: renamed page → definition.Built := by
  intro id definition member
  simp only [numbered, renamed, List.mem_cons, reduceCtorEq, Entry.mount.injEq, List.not_mem_nil, false_or,
    or_false] at member
  rw [member.2]
  exact .intro ok fun found => by cases found

/-- The part that calls the user by a helper shows the user of today. -/
theorem current_of_rendered_of_called : ∃ (page : ComponentDef) (component : Instance),
    greeting.build = .ok page ∧
    (reached Config.default (numbered :: renamed page)).world.mounted.get? "p" = some (some component) ∧
    component.Current ((reached Config.default (renamed page)).eventsOf numbered)
      (reached Config.default (numbered :: renamed page)).world.identity 2 ∧
    component.view.fragments[2]? = some (some "b") := by
  have checked : ComponentDef.isBuiltTo greeting.build (fun page =>
      isRenewed (renamed page) numbered "p" 2 fun component _ part =>
        decide (Template.componentName ∈ part.dependencies) &&
          decide (component.view.fragments[2]? = some (some "b"))) = true := by
    decide +kernel
  obtain ⟨page, ok, passes⟩ := ComponentDef.exists_of_isBuiltTo checked
  obtain ⟨component, turn, changed, part, there, taken, named, names, succeeds, placed, passes⟩ :=
    exists_of_isRenewed passes
  rw [Bool.and_eq_true, decide_eq_true_eq, decide_eq_true_eq] at passes
  refine ⟨page, component, ok, there, ?_, passes.2⟩
  rw [← named] at there
  exact current_of_rendered (built_of_renamed ok) taken names succeeds there placed
    ⟨_, passes.1, Or.inl rfl⟩

/-- What an event evaluates a part to. -/
def evaluationOf (position : Nat) : Event → Option String
  | .renders rendering _ => rendering.evaluated? position
  | _ => none

/-- **The part that has the user by name does not show the user of today**, although the page is rendered
because it gets a number. -/
theorem not_current_of_renamed : ¬ ∀ (config : Config) (entry : Entry) (earlier : List Entry),
    (∀ id definition, .mount id definition ∈ entry :: earlier → definition.Built) →
    ∀ turn ∈ (reached config earlier).turns entry, ∀ changed, turn.dirty = .names changed →
    (∃ rendered, turn.rendering.result = .ok rendered) → ∀ component,
    (reached config (entry :: earlier)).world.mounted.get? turn.component.id = some (some component) →
    ∀ position part, component.part? position = some part →
    (∃ name ∈ part.dependencies, component.definition.declares name = false ∧
      ((reached config (entry :: earlier)).world.identity.get? name).isSome = true) →
    component.Current ((reached config earlier).eventsOf entry)
      (reached config (entry :: earlier)).world.identity position := by
  intro claimed
  have checked : ComponentDef.isBuiltTo greeting.build (fun page =>
      isRenewed (renamed page) numbered "p" 4 fun component _ part =>
        decide ("user" ∈ part.dependencies) && !component.definition.declares "user" &&
        ((reached Config.default (numbered :: renamed page)).world.identity.get? "user").isSome &&
        ((reached Config.default (renamed page)).eventsOf numbered).all fun event =>
          decide (evaluationOf 4 event ≠ component.view.fragments[4]?.join)) = true := by
    decide +kernel
  obtain ⟨page, ok, passes⟩ := ComponentDef.exists_of_isBuiltTo checked
  obtain ⟨component, turn, changed, part, there, taken, named, names, succeeds, placed, passes⟩ :=
    exists_of_isRenewed passes
  simp only [Bool.and_eq_true, decide_eq_true_eq, Bool.not_eq_true', List.all_eq_true] at passes
  obtain ⟨⟨⟨member, foreign⟩, given⟩, old⟩ := passes
  rw [← named] at there
  obtain ⟨happened, _, _, _, _, evaluated, fragment⟩ := claimed Config.default numbered (renamed page)
    (built_of_renamed ok) turn taken changed names succeeds component there 4 part placed
    ⟨"user", member, foreign, given⟩
  refine old _ happened ?_
  rw [fragment]
  exact evaluated

end Session

end ReactiveView
