/-
**Components are rendered independently.**

What is sent of a component when it is rendered depends on the component itself, the variables of the
session, the identity values and the settings, and on nothing else. Where all components are rendered on
their own, two cycles, even of two sessions, in which a component finds all this alike send the same of it:
whatever else is mounted, in whatever order, and whether the renderings of others fail or not.

* `Cycle.rendered` — what is sent of a component while a cycle renders.
* `Cycle.Likeness` — two cycles in which a component finds everything alike.
* `Session.rendered_eq_of_likeness` — then the same is sent of it.
-/

import ReactiveView.Proofs.Session.Separate

namespace ReactiveView

open Render

namespace Cycle

/-- **What is sent of a component while a cycle renders**, once all that was asked is done. -/
def rendered (cycle : Cycle) (newcomer : Option String) (id : String) : List Envelope :=
  ((cycle.renderAll [] (cycle.affected newcomer)).world.outgoing.drop
    cycle.world.outgoing.length).filter fun envelope => envelope.component == id

/-! ### What is sent of one component -/

section

variable {cycle : Cycle} {newcomer : Option String} {id : String}

theorem filter_component_of_others {envelopes : List Envelope}
    (others : ∀ envelope ∈ envelopes, envelope.component ≠ id) :
    envelopes.filter (fun envelope => envelope.component == id) = [] :=
  List.filter_eq_nil_iff.mpr fun envelope member => by simpa using others envelope member

/-- Nothing is sent of a component that is not to be rendered. -/
theorem Apart.rendered_of_clean (apart : cycle.Apart ComponentDef.Regular)
    (stored : cycle.world.Stored) {component : Instance}
    (there : cycle.world.mounted.get? id = some (some component))
    (clean : cycle.dirtyOf newcomer id (some component) = none) :
    cycle.rendered newcomer id = [] := by
  have absent : id ∉ (cycle.affected newcomer).map Prod.fst := by
    intro member
    obtain ⟨⟨_, dirty⟩, affected, rfl⟩ := List.mem_map.mp member
    rw [mem_affected_iff there, clean] at affected
    cases affected
  obtain ⟨envelopes, sent, others⟩ := (apart.passes_renderAll stored absent).outgoing
  rw [rendered, sent, List.drop_left, filter_component_of_others others]

/-- **What is sent of a component comes of its own turn**, which comes when others had theirs. -/
theorem Apart.exists_rendered_eq (apart : cycle.Apart ComponentDef.Regular)
    (stored : cycle.world.Stored) {component : Instance} {dirty : Dirty}
    (there : cycle.world.mounted.get? id = some (some component))
    (asked : cycle.dirtyOf newcomer id (some component) = some dirty) :
    ∃ middle, Passes id cycle middle ∧ middle.Apart ComponentDef.Regular ∧
      cycle.rendered newcomer id =
      envelopesOf cycle.world.config component
        (middle.world.render component dirty middle.store).1 := by
  obtain ⟨middle, last, early, separate, turned, late⟩ := apart.exists_turn stored
    (cycle.affected_distinct newcomer) ((mem_affected_iff there).mpr asked) there
  refine ⟨middle, early, separate, ?_⟩
  obtain ⟨before, sent, others⟩ := early.outgoing
  obtain ⟨after, sent', others'⟩ := late.outgoing
  have own : (envelopesOf cycle.world.config component
      (middle.world.render component dirty middle.store).1).filter
        (fun envelope => envelope.component == id) = envelopesOf cycle.world.config component
          (middle.world.render component dirty middle.store).1 :=
    List.filter_eq_self.mpr fun envelope member => by
      rw [component_of_mem_envelopesOf member, apart.filed there]
      exact beq_self_eq_true id
  rw [rendered, sent', turned.outgoing, sent, early.config, List.append_assoc, List.append_assoc,
    List.drop_left, List.filter_append, List.filter_append, filter_component_of_others others, own,
    filter_component_of_others others', List.append_nil, List.nil_append]

end

/-! ### Two cycles -/

/-- **Two cycles in which a component finds everything alike**: itself and what is marked of it, the
variables of the session that it declares and what is marked of these, the identity values and the
settings. -/
structure Likeness (pairing : Pairing) (component other : Instance) (first second : Cycle) : Prop where
  paired : Store.Paired pairing first.store second.store
  here : first.world.mounted.get? component.id = some (some component)
  there : second.world.mounted.get? component.id = some (some other)
  face : other.face = component.face
  variant : other.variant = component.variant
  own : ∀ name, Option.Rel (Value.Paired pairing) (component.container.values.get? name)
    (other.container.values.get? name)
  shared : ∀ name, component.definition.isShared name = true →
    Option.Rel (Value.Paired pairing) (first.world.shared.values.get? name)
      (second.world.shared.values.get? name)
  identity : ∀ name, Option.Rel (Value.Paired pairing) (first.world.identity.get? name)
    (second.world.identity.get? name)
  config : second.world.config = first.world.config
  ownChanges : other.container.changes second.store = component.container.changes first.store
  sharedChanges : other.sharedChanges (second.world.shared.changes second.store) =
    component.sharedChanges (first.world.shared.changes first.store)
  failed : second.failed.contains component.id = first.failed.contains component.id

namespace Likeness

variable {pairing : Pairing} {component other : Instance} {first second : Cycle}
  (like : Likeness pairing component other first second)
include like

theorem definition : other.definition = component.definition :=
  congrArg (fun face => face.2.1) like.face

/-- The component is to be rendered for the same names. -/
theorem dirtyOf_eq {newcomer newcomer' : Option String}
    (new : newcomer = some component.id ↔ newcomer' = some component.id) :
    second.dirtyOf newcomer' component.id (some other) =
      first.dirtyOf newcomer component.id (some component) := by
  have dirty : other.dirty (second.world.shared.changes second.store) second.store =
      component.dirty (first.world.shared.changes first.store) first.store := by
    unfold Instance.dirty
    rw [like.ownChanges, like.sharedChanges, like.definition]
  unfold dirtyOf
  dsimp only
  rw [like.failed, dirty]
  simp only [new]

/-- Turns of others leave everything alike. -/
theorem match_of_passes {middle opposite : Cycle} (left : Passes component.id first middle)
    (right : Passes component.id second opposite)
    (stored : Variables.Stored component.definition first.world.shared) :
    Variables.Match component.definition middle.world.identity opposite.world.identity pairing
      (middle.world.variablesOf component, middle.store)
      (opposite.world.variablesOf other, opposite.store) where
  paired := like.paired.extend left.lasts right.lasts
  identity name := by
    rw [left.identity, right.identity]
    exact like.identity name
  known name declared := by
    unfold Variables.known World.variablesOf
    dsimp only
    rw [left.shared, right.shared]
    cases own : component.definition.isReactive name with
    | true => exact like.own name
    | false =>
      rw [ComponentDef.declares, own, Bool.false_or] at declared
      exact like.shared name declared
  stored := by
    rw [show (middle.world.variablesOf component).shared = first.world.shared from left.shared]
    exact stored

/-- **The component is rendered alike**, whichever others were rendered before it. -/
theorem render_eq {middle opposite : Cycle} (left : Passes component.id first middle)
    (right : Passes component.id second opposite) (stored : first.world.Stored)
    (apart : middle.Apart ComponentDef.Regular) (apart' : opposite.Apart ComponentDef.Regular)
    (dirty : Dirty) : (opposite.world.render other dirty opposite.store).1 =
      (middle.world.render component dirty middle.store).1 := by
  have here := left.place.trans like.here
  have there := right.place.trans like.there
  have regular := apart.kind here
  have same := like.match_of_passes left right (stored like.here)
  have renders : middle.world.Renders component dirty middle.store _ _ _ :=
    World.renders_render regular.toSolitary (apart.bare here regular.toSolitary) dirty middle.store
  have renders' : opposite.world.Renders other dirty opposite.store _ _ _ :=
    World.renders_render (apart'.kind there).toSolitary
      (apart'.bare there (apart'.kind there).toSolitary) dirty opposite.store
  rw [renders.result_eq, renders'.result_eq, right.config, left.config, like.config]
  have face := like.face
  have variant := like.variant
  obtain ⟨id, definition, container, view, chosen⟩ := component
  obtain ⟨id', definition', container', view', chosen'⟩ := other
  cases face
  cases variant
  dsimp only
  cases found : definition.template chosen with
  | error error => rfl
  | ok template => exact (render_ofReached_eq regular found dirty view _ same).symm

/-- **The same is sent of the component** while both cycles render. -/
theorem rendered_eq (apart : first.Apart ComponentDef.Regular) (stored : first.world.Stored)
    (apart' : second.Apart ComponentDef.Regular) (stored' : second.world.Stored)
    {newcomer newcomer' : Option String} (new : newcomer = some component.id ↔ newcomer' = some component.id) :
    second.rendered newcomer' component.id = first.rendered newcomer component.id := by
  have same := like.dirtyOf_eq new
  cases asked : first.dirtyOf newcomer component.id (some component) with
  | none =>
    rw [apart.rendered_of_clean stored like.here asked,
      apart'.rendered_of_clean stored' like.there (same.trans asked)]
  | some dirty =>
    obtain ⟨middle, left, separate, sent⟩ := apart.exists_rendered_eq stored like.here asked
    obtain ⟨opposite, right, separate', sent'⟩ :=
      apart'.exists_rendered_eq stored' like.there (same.trans asked)
    rw [sent, sent', like.render_eq left right stored separate separate' dirty, like.config]
    -- what is sent names the component and its class, and these are the same
    have named : other.id = component.id := congrArg Prod.fst like.face
    unfold envelopesOf
    rw [named, like.definition]

end Likeness

end Cycle

/-! ### Sessions -/

namespace Session

section

variable {config config' : Config} {entries entries' : List Entry} {entry entry' : Entry}
  {world world' : World} {request request' : Request} {store store' : Store} {pairing : Pairing}
  {component other : Instance}

/-- **Components are rendered independently**: in any two cycles, of one session or of two, of regular
components for which all variables of the session have values, a component that finds everything alike is
sent the same while they render. Which others are mounted, and in which order, does not matter, nor what
comes of their renderings. -/
theorem rendered_eq_of_likeness
    (runs : (reached config entries).cycle? entry = some (world, request, store))
    (runs' : (reached config' entries').cycle? entry' = some (world', request', store'))
    (regular : (Cycle.executed world request store).world.Of ComponentDef.Regular)
    (stored : (Cycle.executed world request store).world.Stored)
    (regular' : (Cycle.executed world' request' store').world.Of ComponentDef.Regular)
    (stored' : (Cycle.executed world' request' store').world.Stored)
    (new : Cycle.newcomer? request = some component.id ↔
      Cycle.newcomer? request' = some component.id)
    (like : Cycle.Likeness pairing component other (Cycle.executed world request store)
      (Cycle.executed world' request' store')) :
    (Cycle.executed world' request' store').rendered (Cycle.newcomer? request') component.id =
      (Cycle.executed world request store).rendered (Cycle.newcomer? request) component.id :=
  like.rendered_eq (apart_executed runs regular) stored (apart_executed runs' regular') stored' new

end

end Session

/-! ### Cycles that are alike in plain values -/

/-- Whether the same plain values are under the same names. -/
def OrderedMap.isLike (left right : OrderedMap String Value) : Bool :=
  decide (left.entries = right.entries) && left.values.all fun value => value.ref?.isNone

theorem OrderedMap.rel_of_isLike {left right : OrderedMap String Value}
    (like : left.isLike right = true) (pairing : Pairing) (name : String) :
    Option.Rel (Value.Paired pairing) (left.get? name) (right.get? name) := by
  simp only [isLike, Bool.and_eq_true, decide_eq_true_eq, List.all_eq_true,
    Option.isNone_iff_eq_none] at like
  obtain ⟨same, plain⟩ := like
  obtain rfl : left = right := ext_entries same
  cases found : left.get? name with
  | none => exact .none
  | some value => exact .some (.scalar (plain value ((mem_values_iff left value).mpr ⟨name, found⟩)))

/-- Whether the variables of the session that components declare have values. -/
def World.isStored (world : World) : Bool := world.mounted.values.all fun place =>
  match place with
  | some component => component.definition.declared.shared.keys.all world.shared.values.contains
  | none => true

theorem World.stored_of_isStored {world : World} (stored : world.isStored = true) : world.Stored := by
  intro id component there name declared
  have held := List.all_eq_true.mp stored _ ((OrderedMap.mem_values_iff _ _).mpr ⟨id, there⟩)
  exact List.all_eq_true.mp held name ((OrderedMap.mem_keys_iff _ _).mpr declared)

namespace Cycle

/-- Whether two components of one class, in two cycles, find plain values alike. -/
def isLike (component other : Instance) (first second : Cycle) : Bool :=
  decide (other.id = component.id) &&
  decide (other.variant = component.variant) &&
  decide (other.view.variant = component.view.variant) &&
  other.view.staticSent == component.view.staticSent &&
  decide (other.view.fragments = component.view.fragments) &&
  decide (other.view.children = component.view.children) &&
  component.container.values.isLike other.container.values &&
  first.world.shared.values.isLike second.world.shared.values &&
  first.world.identity.isLike second.world.identity &&
  decide (second.world.config = first.world.config) &&
  decide (other.container.changes second.store = component.container.changes first.store) &&
  decide (second.world.shared.changes second.store = first.world.shared.changes first.store) &&
  second.failed.contains component.id == first.failed.contains component.id

theorem likeness_of_isLike {id : String} {component other : Instance} {first second : Cycle}
    (here : first.world.mounted.get? id = some (some component))
    (there : second.world.mounted.get? id = some (some other)) (filed : first.world.Filed)
    (like : isLike component other first second = true)
    (definition : other.definition = component.definition) :
    component.id = id ∧ Likeness (fun _ _ => False) component other first second := by
  simp only [isLike, Bool.and_eq_true, decide_eq_true_eq, beq_iff_eq] at like
  obtain ⟨⟨⟨⟨⟨⟨⟨⟨⟨⟨⟨⟨named, variant⟩, chosen⟩, sent⟩, fragments⟩, children⟩, own⟩, shared⟩,
    identity⟩, config⟩, ownChanges⟩, sharedChanges⟩, failed⟩ := like
  obtain rfl : component.id = id := filed here
  have view : other.view = component.view := by
    obtain ⟨_, _, _, ⟨_, _, _, _⟩, _⟩ := component
    obtain ⟨_, _, _, ⟨_, _, _, _⟩, _⟩ := other
    cases chosen
    cases sent
    cases fragments
    cases children
    rfl
  exact ⟨rfl, {
    paired := .nothing _ _
    here, there, variant, config, ownChanges, failed
    face := by rw [Instance.face, named, definition, view]; rfl
    own := OrderedMap.rel_of_isLike own _
    shared := fun name _ => OrderedMap.rel_of_isLike shared _ name
    identity := OrderedMap.rel_of_isLike identity _
    sharedChanges := by rw [Instance.sharedChanges, sharedChanges, definition]; rfl }⟩

end Cycle

namespace Session

/-- Whether a component finds plain values alike in the cycles of two entries, and the variables of both
sessions have values. -/
def isLike (session opposite : Session) (entry entry' : Entry) (id : String) : Bool :=
  match session.cycle? entry, opposite.cycle? entry' with
  | some (world, request, store), some (world', request', store') =>
    let first := Cycle.executed world request store
    let second := Cycle.executed world' request' store'
    decide (Cycle.newcomer? request' = Cycle.newcomer? request) && first.world.isStored &&
      second.world.isStored &&
      match first.world.mounted.get? id, second.world.mounted.get? id with
      | some (some component), some (some other) =>
        decide (other.definition.className = component.definition.className) &&
          Cycle.isLike component other first second
      | _, _ => false
  | _, _ => false

/-- Whether this is sent of a component while the cycle of an entry renders. -/
def isRendered (session : Session) (entry : Entry) (id : String) (envelopes : List Envelope) : Bool :=
  match session.cycle? entry with
  | some (world, request, store) =>
    decide ((Cycle.executed world request store).rendered (Cycle.newcomer? request) id = envelopes)
  | none => false

theorem rendered_of_isRendered {session : Session} {entry : Entry} {id : String}
    {envelopes : List Envelope} (sent : session.isRendered entry id envelopes = true) {world : World}
    {request : Request} {store : Store}
    (runs : session.cycle? entry = some (world, request, store)) :
    (Cycle.executed world request store).rendered (Cycle.newcomer? request) id = envelopes := by
  rw [isRendered, runs] at sent
  exact of_decide_eq_true sent

/-- Two cycles in which a component finds plain values alike, among components of some classes that
differ in name. -/
theorem exists_of_isLike {config : Config} {entries entries' : List Entry} {entry entry' : Entry}
    {id : String} {kind : ComponentDef → Prop}
    (solitary : ∀ definition, kind definition → definition.Solitary)
    (apart : ∀ definition other, kind definition → kind other →
      other.className = definition.className → other = definition)
    (mounted : ∀ id definition, .mount id definition ∈ entry :: entries → kind definition)
    (mounted' : ∀ id definition, .mount id definition ∈ entry' :: entries' → kind definition)
    (like : (reached config entries).isLike (reached config entries') entry entry' id = true) :
    ∃ world request store world' request' store' component other,
      (reached config entries).cycle? entry = some (world, request, store) ∧
      (reached config entries').cycle? entry' = some (world', request', store') ∧
      (Cycle.executed world request store).world.Of kind ∧
      (Cycle.executed world request store).world.Stored ∧
      (Cycle.executed world' request' store').world.Of kind ∧
      (Cycle.executed world' request' store').world.Stored ∧
      Cycle.newcomer? request' = Cycle.newcomer? request ∧ component.id = id ∧
      Cycle.Likeness (fun _ _ => False) component other (Cycle.executed world request store)
        (Cycle.executed world' request' store') := by
  unfold isLike at like
  split at like
  · next world request store world' request' store' runs runs' =>
    simp only [Bool.and_eq_true, decide_eq_true_eq] at like
    obtain ⟨⟨⟨new, stored⟩, stored'⟩, like⟩ := like
    split at like
    · next component other here there =>
      have all := of_executed (of_reached solitary fun id definition member =>
        mounted id definition (List.mem_cons_of_mem _ member))
        (fun id definition same => mounted id definition (same ▸ List.mem_cons_self)) runs
      have all' := of_executed (of_reached solitary fun id definition member =>
        mounted' id definition (List.mem_cons_of_mem _ member))
        (fun id definition same => mounted' id definition (same ▸ List.mem_cons_self)) runs'
      obtain ⟨named, like⟩ := Bool.and_eq_true_iff.mp like
      have found := Cycle.likeness_of_isLike here there (apart_executed runs all).filed like
        (apart _ _ (all here) (all' there) (of_decide_eq_true named))
      exact ⟨world, request, store, world', request', store', component, other, runs, runs', all,
        World.stored_of_isStored stored, all', World.stored_of_isStored stored', new, found⟩
    · cases like
  · cases like

end Session

namespace ComponentDef

variable {definition : ComponentDef}

/-- Whether no template calls for a child. -/
def isChildless (definition : ComponentDef) : Bool :=
  definition.declared.templates.values.all fun template =>
    Template.everyPart (fun part => decide ("child" ∉ part.node.calls)) template.parts

theorem childless_of_isChildless (childless : definition.isChildless = true) {variant : String}
    {template : Template} (found : definition.template variant = .ok template) (part : DynamicPart)
    (member : Part.dynamic part ∈ template.parts) : "child" ∉ part.node.calls :=
  of_decide_eq_true (check_of_template childless found member)

end ComponentDef

namespace Session

/-- A page that shows a variable of the session. -/
def board (className source : String) : Draft :=
  ((Draft.empty className).addShared "n" .absent).addTemplate standardVariant source

theorem regular_board {className source : String} {definition : ComponentDef}
    (ok : (board className source).build = .ok definition)
    (childless : definition.isChildless = true) :
    definition.Regular ∧ definition.className = className := by
  have faithful := ComponentDef.faithful_of_build ok rfl rfl (ComponentDef.childless_of_isChildless childless)
  obtain ⟨_, _, templates, _, rfl⟩ := ComponentDef.eq_of_build ok
  exact ⟨⟨faithful, fun found => by cases found⟩, rfl⟩

/-- Code that assigns a variable of the session. -/
def counting : ActionCode := fun _ => .ask (.set "n" (.int 1)) fun _ => .done (.ok ())

/-- **Two pages, one of which cannot be rendered**: the other one is sent the same in whatever order they
were mounted. -/
theorem rendered_eq_of_likeness_of_boards : ∃ (page broken : ComponentDef) (world world' : World)
    (request request' : Request) (store store' : Store),
    (reached Config.default [.mount "b" broken, .mount "a" page]).cycle? (.external "a" counting) =
      some (world, request, store) ∧
    (reached Config.default [.mount "a" page, .mount "b" broken]).cycle? (.external "a" counting) =
      some (world', request', store') ∧
    (Cycle.executed world request store).rendered (Cycle.newcomer? request) "a" =
      [⟨"a", .render [some "1"]⟩] ∧
    (Cycle.executed world' request' store').rendered (Cycle.newcomer? request') "a" =
      [⟨"a", .render [some "1"]⟩] := by
  have checked : ComponentDef.isBuiltTo (board "Page" "<%= n %>").build (fun page =>
      ComponentDef.isBuiltTo (board "Broken" "<%= 1 / 0 %>").build fun broken =>
        page.isChildless && broken.isChildless &&
        (reached Config.default [.mount "b" broken, .mount "a" page]).isLike
          (reached Config.default [.mount "a" page, .mount "b" broken]) (.external "a" counting)
          (.external "a" counting) "a" &&
        (reached Config.default [.mount "b" broken, .mount "a" page]).isRendered
          (.external "a" counting) "a" [⟨"a", .render [some "1"]⟩]) = true := by decide +kernel
  obtain ⟨page, built, passes⟩ := ComponentDef.exists_of_isBuiltTo checked
  obtain ⟨broken, built', passes⟩ := ComponentDef.exists_of_isBuiltTo passes
  simp only [Bool.and_eq_true] at passes
  obtain ⟨⟨⟨childless, childless'⟩, like⟩, sent⟩ := passes
  obtain ⟨regular, named⟩ := regular_board built childless
  obtain ⟨regular', named'⟩ := regular_board built' childless'
  let kind (definition : ComponentDef) : Prop := definition = page ∨ definition = broken
  have all (definition : ComponentDef) (given : kind definition) : definition.Regular := by
    rcases given with rfl | rfl
    · exact regular
    · exact regular'
  obtain ⟨world, request, store, world', request', store', component, other, runs, runs', of, stored,
    of', stored', new, own, like⟩ := @exists_of_isLike _ _ _ _ _ _ kind
      (fun definition given => (all definition given).toSolitary) (by
        rintro _ _ (rfl | rfl) (rfl | rfl) same
        · rfl
        · rw [named, named'] at same
          exact absurd same (by decide)
        · rw [named, named'] at same
          exact absurd same (by decide)
        · rfl)
      (by
        intro id definition member
        simp at member
        exact member.symm.imp And.right And.right)
      (by
        intro id definition member
        simp at member
        exact member.imp And.right And.right) like
  refine ⟨page, broken, world, world', request, request', store, store', runs, runs',
    rendered_of_isRendered sent runs, ?_⟩
  have same := rendered_eq_of_likeness runs runs' (fun _ _ there => all _ (of there)) stored
    (fun _ _ there => all _ (of' there)) stored' (by rw [new]) like
  rw [own] at same
  exact same.trans (rendered_of_isRendered sent runs)

/-! ### Code that sees more -/

/-- In any two cycles of sessions with components of some kind, for which all variables of the session have
values, a component that finds everything alike is sent the same. -/
def Independent (kind : ComponentDef → Prop) : Prop :=
  ∀ (config config' : Config) (entries entries' : List Entry) (entry entry' : Entry)
    (world world' : World) (request request' : Request) (store store' : Store) (pairing : Pairing)
    (component other : Instance),
    (reached config entries).cycle? entry = some (world, request, store) →
    (reached config' entries').cycle? entry' = some (world', request', store') →
    (Cycle.executed world request store).world.Of kind →
    (Cycle.executed world request store).world.Stored →
    (Cycle.executed world' request' store').world.Of kind →
    (Cycle.executed world' request' store').world.Stored →
    (Cycle.newcomer? request = some component.id ↔
      Cycle.newcomer? request' = some component.id) →
    Cycle.Likeness pairing component other (Cycle.executed world request store)
      (Cycle.executed world' request' store') →
    (Cycle.executed world' request' store').rendered (Cycle.newcomer? request') component.id =
      (Cycle.executed world request store).rendered (Cycle.newcomer? request) component.id

/-- Where a page finds everything alike and yet is sent something else, its class is to blame. -/
theorem not_independent_of_sent {kind : ComponentDef → Prop} {page : ComponentDef}
    (solitary : page.Solitary) (given : kind page) {entries entries' : List Entry} {entry : Entry}
    {id : String} {envelopes others : List Envelope}
    (mounted : ∀ id definition, .mount id definition ∈ entry :: entries → definition = page)
    (mounted' : ∀ id definition, .mount id definition ∈ entry :: entries' → definition = page)
    (like : (reached Config.default entries).isLike (reached Config.default entries') entry entry id =
      true) (sent : (reached Config.default entries).isRendered entry id envelopes = true)
    (sent' : (reached Config.default entries').isRendered entry id others = true)
    (differ : others ≠ envelopes) : ¬ Independent kind := by
  intro independent
  obtain ⟨world, request, store, world', request', store', component, other, runs, runs', of, stored,
    of', stored', new, rfl, alike⟩ := @exists_of_isLike _ _ _ _ _ _ (· = page)
      (by rintro _ rfl; exact solitary) (by rintro _ _ rfl rfl _; rfl) mounted mounted' like
  have same := independent _ _ _ _ _ _ _ _ _ _ _ _ _ component other runs runs'
    (fun _ _ there => of there ▸ given) stored (fun _ _ there => of' there ▸ given) stored'
    (by rw [new]) alike
  rw [rendered_of_isRendered sent runs, rendered_of_isRendered sent' runs'] at same
  exact differ same

/-- A list that is made before anything is mounted. -/
def prepared : Entry := .outside fun store => (store.newList []).2

/-- A default that takes a ticket: it counts how often it was asked for. -/
def ticket : Program Empty Value := .look fun store =>
  .perform (.listPush 0 .nil) fun _ => .done (.int (Int64.ofNat (store.items 0).length))

/-- A page that shows its ticket. -/
def ticketed : Draft :=
  ((Draft.empty "Page").addReactive "n" (.factory ticket)).addTemplate standardVariant "<%= n %>"

/-- A helper that looks how many watch a list. -/
def peeking : HelperCode := fun _ _ => .look fun store =>
  .done (.ok (.int (Int64.ofNat (store.bindings 0).length)))

/-- A page that shows how many watch a list. -/
def peeped : Draft := (((Draft.empty "Page").addReactive "x" .absent).addHelper "peek"
  peeking).addTemplate standardVariant "<%= peek() %>"

/-- Code that assigns the list to a variable. -/
def holding : ActionCode := fun _ => .ask (.set "x" (.list 0)) fun _ => .done (.ok ())

theorem solitary_peeped {page : ComponentDef} (ok : peeped.build = .ok page)
    (childless : page.isChildless = true) : page.Solitary ∧ ∀ name default,
      page.declared.reactive.get? name = some default → default.Determined := by
  have childless := @ComponentDef.childless_of_isChildless page childless
  obtain ⟨_, _, templates, _, rfl⟩ := ComponentDef.eq_of_build ok
  refine ⟨⟨.intro ok fun found => (by cases found), fun {name helper} found owner arguments => ?_,
    childless⟩, fun name default found => ?_⟩
  · rcases get?_insert_eq_some found with ⟨_, rfl⟩ | ⟨_, none⟩
    · exact fun _ => trivial
    · cases none
  · rcases get?_insert_eq_some found with ⟨_, rfl⟩ | ⟨_, none⟩
    · exact VarDefault.determined_absent
    · cases none

/-- **A page that takes a ticket** is sent another one when it is mounted once more, although it finds
everything alike; and so is a page with a helper that only reads, but looks how many watch a list. -/
theorem not_independent : ¬ Independent ComponentDef.Faithful ∧
    ¬ Independent (fun definition => definition.Solitary ∧ ∀ name default,
      definition.declared.reactive.get? name = some default → default.Determined) := by
  constructor
  · have checked : ComponentDef.isBuiltTo ticketed.build (fun page => page.isChildless &&
        (reached Config.default [prepared]).isLike
          (reached Config.default [.unmount "a", .mount "a" page, prepared]) (.mount "a" page)
          (.mount "a" page) "a" &&
        (reached Config.default [prepared]).isRendered (.mount "a" page) "a"
          [⟨"a", .render [some "0"]⟩] &&
        (reached Config.default [.unmount "a", .mount "a" page, prepared]).isRendered
          (.mount "a" page) "a" [⟨"a", .render [some "1"]⟩]) = true := by decide +kernel
    obtain ⟨page, built, passes⟩ := ComponentDef.exists_of_isBuiltTo checked
    simp only [Bool.and_eq_true] at passes
    obtain ⟨⟨⟨childless, like⟩, sent⟩, sent'⟩ := passes
    have faithful := ComponentDef.faithful_of_build built rfl rfl
      (ComponentDef.childless_of_isChildless childless)
    exact not_independent_of_sent faithful.toSolitary faithful (by simp [prepared])
      (by simp [prepared]) like sent sent' (by decide)
  · have checked : ComponentDef.isBuiltTo peeped.build (fun page => page.isChildless &&
        (reached Config.default [prepared]).isLike
          (reached Config.default [.external "b" holding, .mount "b" page, prepared])
          (.mount "a" page) (.mount "a" page) "a" &&
        (reached Config.default [prepared]).isRendered (.mount "a" page) "a"
          [⟨"a", .render [some "0"]⟩] &&
        (reached Config.default [.external "b" holding, .mount "b" page, prepared]).isRendered
          (.mount "a" page) "a" [⟨"a", .render [some "1"]⟩]) = true := by decide +kernel
    obtain ⟨page, built, passes⟩ := ComponentDef.exists_of_isBuiltTo checked
    simp only [Bool.and_eq_true] at passes
    obtain ⟨⟨⟨childless, like⟩, sent⟩, sent'⟩ := passes
    have given := solitary_peeped built childless
    refine not_independent_of_sent given.1 given (by simp [prepared]) (fun id definition member => ?_)
      like sent sent' (by decide)
    simp only [prepared, List.mem_cons, Entry.mount.injEq, reduceCtorEq, List.not_mem_nil, or_false,
      false_or] at member
    exact member.elim And.right And.right

end Session

end ReactiveView
