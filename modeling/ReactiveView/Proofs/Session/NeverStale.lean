/-
**A session never shows anything stale.**

In a session in good order all code is careful, defaults and helpers are determined, and identity values
come before the first component. After every entry of such a session the client has what a rendering in
full of the current state would give, for each component of which it got markup last.

* `Session.Orderly`, `Session.Orderlies` — an entry in good order, and entries one after the other.
* `Session.settled_reached` — all that the client has is true in every state.
* `Session.html_eq_render` — so what is shown for a component is what it would be rendered to.
* `Session.stale_of_adopted` — code that writes to an identity value by way of a variable is not noticed.
-/

import ReactiveView.Proofs.Session.Received

namespace ReactiveView

namespace Session

variable {config : Config} {session : Session} {entry : Entry}

/--
**An entry in good order**: a component that is mounted has determined defaults and helpers, all code is
careful, identity values come before the first component, and outside of the session values are only made
and read.
-/
structure Orderly (rule : WriteRule) (session : Session) (entry : Entry) : Prop where
  mounted : ∀ {id definition}, entry = .mount id definition → definition.Steady
  careful : ∀ {world request store}, session.cycle? entry = some (world, request, store) →
    request.Careful rule (.start world store)
  identity : ∀ {name value}, entry = .setIdentity name value →
    session.componentIds = [] ∧ value.Finite session.store
  outside : ∀ {change}, entry = .outside change → session.store.Reads (change session.store)

/-- **Entries in good order**, the last of them first. -/
def Orderlies (rule : WriteRule) (config : Config) : List Entry → Prop
  | [] => True
  | entry :: earlier => (reached config earlier).Orderly rule entry ∧ Orderlies rule config earlier

/-! ### Entries -/

section

variable {world : World} {request : Request} {store : Store}

/-- Where the cycle of an entry starts, all that the client has is true. -/
theorem settled_start (settled : session.world.Settled session.store)
    (orderly : session.Orderly World.Permits entry)
    (runs : session.cycle? entry = some (world, request, store)) : world.Settled store := by
  cases opened : session.closed with
  | true => cases entry <;> simp [cycle?, opened] at runs
  | false =>
    cases entry with
    | mount id definition =>
      unfold cycle? World.mount at runs
      by_cases held : session.world.contains id = true
      · simp [opened, held] at runs
      · simp only [opened, held, Bool.false_eq_true, if_false, Option.some.injEq,
          Prod.mk.injEq] at runs
        obtain ⟨rfl, _, rfl⟩ := runs
        exact (settled.mount (orderly.mounted rfl) id).send _
    | handle messages =>
      simp only [cycle?, opened, Bool.false_eq_true, if_false, Option.some.injEq,
        Prod.mk.injEq] at runs
      obtain ⟨rfl, _, rfl⟩ := runs
      exact settled
    | handleText text =>
      cases read : SubMessage.batchOfText text with
      | error error => simp [cycle?, opened, read] at runs
      | ok messages =>
        simp only [cycle?, opened, read, Bool.false_eq_true, if_false, Option.some.injEq,
          Prod.mk.injEq] at runs
        obtain ⟨rfl, _, rfl⟩ := runs
        exact settled
    | external id code =>
      simp only [cycle?, opened, Bool.false_eq_true, if_false, Option.some.injEq,
        Prod.mk.injEq] at runs
      obtain ⟨rfl, _, rfl⟩ := runs
      exact settled
    | unmount id => cases runs
    | setIdentity name value => cases runs
    | get id name => cases runs
    | outside change => cases runs
    | disconnect => cases runs

/-- **An entry in good order leaves all that the client has true.** -/
theorem settled_enter (opened : session.closed = false)
    (settled : session.world.Settled session.store)
    (orderly : session.Orderly World.Permits entry) (stays : entry ≠ .disconnect) :
    (session.enter entry).session.world.Settled (session.enter entry).session.store := by
  rcases runs : session.cycle? entry with _ | ⟨world, request, store⟩
  · cases entry with
    | mount id definition =>
      rcases mounting : session.world.mount id definition session.store with
        ⟨error | value, reached, stored⟩
      · simp only [enter, mount, opened, mounting, Bool.false_eq_true, if_false]
        exact settled
      · simp [cycle?, opened, mounting] at runs
    | unmount id =>
      simp only [enter, unmount, opened, Bool.false_eq_true, if_false]
      cases session.world.instance? id with
      | error error => exact settled
      | ok component => exact (settled.destroyAll [id]).send []
    | handle messages => simp [cycle?, opened] at runs
    | handleText text =>
      cases read : SubMessage.batchOfText text with
      | error error =>
        simp only [enter, handleText, opened, read, Bool.false_eq_true, if_false]
        exact settled
      | ok messages => simp [cycle?, opened, read] at runs
    | external id code => simp [cycle?, opened] at runs
    | setIdentity name value =>
      obtain ⟨empty, finite⟩ := orderly.identity rfl
      exact settled.identify empty name finite
    | get id name =>
      simp only [enter, get]
      cases known : session.world.instance? id with
      | error error => exact settled
      | ok component =>
        have there := World.instance?_eq_ok_iff.mp known
        have named : component.id = id := by
          obtain ⟨_, _, pictured⟩ := settled
          exact pictured.filed there
        exact settled.get (named ▸ there) name
    | outside change => exact settled.onStore (orderly.outside rfl)
    | disconnect => exact absurd rfl stays
  · rw [enter_of_runs runs]
    exact ((settled_start settled orderly runs).run (orderly.careful runs)).send []

/-- **After an entry in good order the views say so** of which components the client has got markup. -/
theorem serves_enter {history : List Envelope} (serves : session.world.Serves history)
    (settled : session.world.Settled session.store) (orderly : session.Orderly World.Permits entry) :
    (session.enter entry).session.world.Serves (history ++ (session.enter entry).sent) := by
  have filed : session.world.Filed := by
    obtain ⟨_, _, pictured⟩ := settled
    exact pictured.filed
  have entered := session.entered filed entry
  generalize (session.enter entry).sent = sent, (session.enter entry).session.world = after
    at entered ⊢
  cases entered with
  | stands stands idle =>
    rw [List.append_nil]
    exact serves.stands stands
  | disconnected idle gone outgoing => exact fun id component there => nomatch (gone id).symm.trans there
  | unmounted ids idle => exact (serves.destroyAll ids session.store).flush
  | @ran world request store runs starts =>
    have started : world.Serves history := by
      cases starts with
      | here => exact serves
      | @mounted component free view =>
        refine World.Serves.emit serves (fun {other held} ne there => ?_) ?_ rfl
        · refine ⟨held, ?_, rfl⟩
          change (session.world.mounted.insert component.id _).get? other = _ at there
          rwa [OrderedMap.get?_insert_of_ne _ ne] at there
        · exact fun _ render => nomatch render
    exact (started.run (settled_start settled orderly runs) (orderly.careful runs)).flush

end

/-! ### Sessions -/

/-- **In every session that is in good order, all that the client has is true**, until it is over. -/
theorem settled_reached {entries : List Entry} (orderly : Orderlies World.Permits config entries) :
    ((reached config entries).closed = false ∧
      (reached config entries).world.Settled (reached config entries).store ∧
      (reached config entries).world.Serves (history config entries)) ∨
        (reached config entries).Over := by
  induction entries with
  | nil =>
    exact Or.inl ⟨rfl, World.settled_new config, fun _ _ there => nomatch there⟩
  | cons entry earlier ih =>
    obtain ⟨own, before⟩ := orderly
    rcases ih before with ⟨opened, settled, serves⟩ | finished
    · by_cases ends : entry = .disconnect
      · subst ends
        refine Or.inr ?_
        change (reached config earlier).disconnect.Over
        rw [disconnect, opened]
        exact ⟨rfl, fun _ => rfl⟩
      · exact Or.inl ⟨(closed_enter _ ends).trans opened, settled_enter opened settled own ends,
          serves_enter serves settled own⟩
    · exact Or.inr (finished.enter entry)

/--
**A session never shows anything stale**: after every entry of a session in good order, whether or not it
failed, a component of which the client got markup last can be rendered in full, and what the client shows
for it is what this rendering would give.
-/
theorem html_eq_render {entries : List Entry} (orderly : Orderlies World.Permits config entries)
    {id : String} {component : Instance}
    (there : (reached config entries).world.mounted.get? id = some (some component))
    (received : Received id (history config entries)) :
    ∃ rendered, ((reached config entries).world.render component .all
        (reached config entries).store).1 = .ok rendered ∧
      (reached config entries).html id =
        .ok (String.join (rendered.markup.filterMap fun slot => slot)) := by
  obtain ⟨_, unsent, _⟩ := covered_reached config entries
  rcases settled_reached orderly with ⟨_, ⟨ledger, books, pictured⟩, serves⟩ | finished
  · have sent := serves id component there (by rwa [unsent, List.append_nil])
    have steady := pictured.steady there
    obtain ⟨template, rendered, found, whole, shown⟩ :=
      (pictured.pictured there sent).render_eq steady component.view
    have renders : (reached config entries).world.Renders component .all _ _ _ _ :=
      World.renders_render steady.toSolitary (pictured.alone there) .all (reached config entries).store
    generalize (reached config entries).world.render component .all (reached config entries).store =
      answer at renders ⊢
    obtain ⟨result, after, stored⟩ := answer
    dsimp only at renders ⊢
    have html : (reached config entries).html id = .ok component.view.html := by
      rw [html, World.instance?_eq_ok_iff.mpr there]
      rfl
    have same : result = .ok rendered := by
      cases renders with
      | failed refused _ path => exact (refused found).symm.trans whole
      | done known ran path =>
        cases found.symm.trans known
        rw [ran] at whole
        exact whole
    refine ⟨rendered, same, ?_⟩
    rw [html, ClientView.html, shown]
    rfl
  · rw [finished.gone] at there
    cases there

end Session

/-! ### Where the only variable is a basket -/

namespace World

variable {world : World} {store : Store} {site : Site} {name : String}

/-- The variables that have values. -/
def holdings (world : World) : List (Site × String) :=
  world.shared.values.keys.map (fun name => (none, name)) ++ world.mounted.entries.flatMap fun entry =>
    match entry.2 with
    | some component => component.container.values.keys.map fun name => (some entry.1, name)
    | none => []

theorem mem_holdings_iff :
    (site, name) ∈ world.holdings ↔ ∃ value, world.value? site name = some value := by
  have keys (container : Container) :
      name ∈ container.values.keys ↔ ∃ value, container.values.get? name = some value :=
    (OrderedMap.mem_keys_iff _ name).trans Option.isSome_iff_exists
  unfold holdings
  rw [List.mem_append, List.mem_map, List.mem_flatMap]
  constructor
  · rintro (⟨_, member, same⟩ | ⟨⟨id, place⟩, entry, member⟩)
    · cases same
      exact (keys world.shared).mp member
    · cases place with
      | none => cases member
      | some component =>
        obtain ⟨_, member, same⟩ := List.mem_map.mp member
        cases same
        obtain ⟨value, has⟩ := (keys component.container).mp member
        have there := OrderedMap.mem_entries_iff.mp entry
        exact ⟨value, value?_eq_some_iff.mpr ⟨_, container?_of_mounted there, has⟩⟩
  · rintro ⟨value, has⟩
    obtain ⟨container, found, has⟩ := value?_eq_some_iff.mp has
    cases site with
    | none =>
      cases found
      exact Or.inl ⟨name, (keys _).mpr ⟨value, has⟩, rfl⟩
    | some id =>
      obtain ⟨component, there, rfl⟩ := exists_of_container? found
      exact Or.inr ⟨(id, some component), OrderedMap.mem_entries_iff.mpr there,
        List.mem_map.mpr ⟨name, (keys _).mpr ⟨value, has⟩, rfl⟩⟩

end World

/-- A node that was read out of the only variable that holds it. -/
def World.PermitsSole (world : World) (store : Store) (read : ReadOut) (target : Ref) : Prop :=
  ∃ site name value, world.value? site name = some value ∧ store.Within target value ∧
    read site name target ∧ ∀ {other holder held}, world.value? other holder = some held →
      store.Within target held → (other, holder) = (site, name)

/-- A basket, shown by a template. -/
def Draft.basket (source : String) : Draft :=
  ((Draft.empty "Basket").addReactive "items" .absent).addTemplate standardVariant source

/-- Code that puts a new list into a basket. -/
def renewing : ActionCode := fun _ => .perform (.newList []) fun reply =>
  match reply with
  | .value items => .ask (.set "items" items) fun _ => .done (.ok ())
  | _ => .done (.ok ())

/-- Code that puts an identity value into a basket. -/
def adopting : ActionCode := fun _ => .ask (.identity "stock") fun answer =>
  match answer with
  | .ok items => .ask (.set "items" items) fun _ => .done (.ok ())
  | .error _ => .done (.ok ())

/-- Code that adds an item to the list in a basket. -/
def growing : ActionCode := fun _ => .ask (.get "items") fun answer =>
  match answer with
  | .ok (.list items) => .perform (.listPush items (.int 1)) fun _ => .done (.ok ())
  | _ => .done (.ok ())

section

variable {rule : WriteRule} {world : World} {component : Instance} {store : Store}

theorem careful_renewing : world.Careful rule component renewing store := by
  refine ⟨nofun, fun name value same => ?_, trivial⟩
  cases same
  exact Value.finite_newList nofun

theorem careful_adopting (finite : ∀ value ∈ world.identity.values, value.Finite store) :
    world.Careful rule component adopting store := by
  refine ⟨nofun, fun name value same => ?_, trivial⟩
  cases same
  cases found : world.identity.get? "stock" with
  | none => exact nofun
  | some value => exact finite value ((OrderedMap.mem_values_iff _ value).mpr ⟨"stock", found⟩)

theorem careful_growing (own : component.definition.isReactive "items" = true)
    {value : Value} (has : component.container.values.get? "items" = some value)
    (finite : (world.update component (world.variablesOf component)).Finite store)
    (allowed : ∀ ref, value = .list ref →
      rule (world.update component (world.variablesOf component)) store
        (ReadOut.nothing.add (some component.id) "items" value) ref) :
    world.Careful rule component growing store := by
  have known : Variables.known component.definition (world.variablesOf component) "items" =
      some value := by
    rw [Variables.known_eq, Variables.holder, own]
    exact has
  have declared : component.definition.declares "items" = true := by
    rw [ComponentDef.declares, own, Bool.true_or]
  have site : component.definition.site component.id "items" = some component.id := by
    rw [ComponentDef.site, if_pos own]
  have reads : (world.variablesOf component).read component.definition component.owner "items" store =
      (.ok value, world.variablesOf component, store) := Variables.read_of_known declared known ..
  change (Program.ask (.get "items") _).Careful rule world component _ _ _
  unfold Program.Careful
  simp only [ActionQuestion.answer, World.begin, reads, ReadOut.asked, site]
  refine ⟨fun _ _ same => (by cases same), ?_⟩
  cases value with
  | list items =>
    refine ⟨fun target same => ?_, trivial⟩
    cases same
    refine ⟨allowed items rfl, fun {site name held} has ref handle => ?_⟩
    refine (finite has ref handle).mutate fun part member deeper held => ?_
    -- what the list holds afterwards is what it held, and a number
    rcases List.mem_append.mp member with old | new
    · refine ⟨part, ?_, held⟩
      unfold Store.items at old
      split at old
      · next same => exact same ▸ old
      · cases old
    · cases List.mem_singleton.mp new
      cases held
  | _ => trivial

end

/-- Whether a template calls for no child and binds nothing inside the branch of a choice. -/
def Template.isPlain (template : Template) : Bool := everyPart
  (fun part => decide ("child" ∉ part.node.calls) && decide (part.node.branchBinds = [])) template.parts

theorem steady_basket {source : String} {basket : ComponentDef}
    (ok : (Draft.basket source).build = .ok basket)
    (plain : basket.declared.templates.values.all Template.isPlain = true) : basket.Steady := by
  obtain ⟨_, _, templates, _, same⟩ := ComponentDef.eq_of_build ok
  have parts {variant : String} {template : Template}
      (found : basket.template variant = .ok template) (part : DynamicPart)
      (member : Part.dynamic part ∈ template.parts) :
      "child" ∉ part.node.calls ∧ part.node.branchBinds = [] := by
    simpa using ComponentDef.check_of_template plain found member
  refine ⟨⟨ComponentDef.faithful_of_build ok rfl rfl fun found part member =>
    (parts found part member).1, fun {name default} found => ?_⟩, fun found => ?_,
    fun found part member => (parts found part member).2⟩
  · rw [same] at found
    rcases get?_insert_eq_some found with ⟨_, rfl⟩ | ⟨_, none⟩
    · exact VarDefault.determined_absent
    · cases none
  · rw [same] at found
    cases found

namespace Session

variable {rule : WriteRule} {config : Config}

/-- Code that runs from outside is in good order if it is careful. -/
theorem orderly_external {session : Session} {id : String} {code : ActionCode}
    (careful : ∀ component, session.world.mounted.get? id = some (some component) →
      session.world.Careful rule component code (session.world.resetChanges session.store)) :
    session.Orderly rule (.external id code) := by
  refine ⟨nofun, fun {world request store} runs => ?_, nofun, nofun⟩
  cases opened : session.closed with
  | true => simp [cycle?, opened] at runs
  | false =>
    simp only [cycle?, opened, Bool.false_eq_true, if_false, Option.some.injEq,
      Prod.mk.injEq] at runs
    obtain ⟨rfl, rfl, rfl⟩ := runs
    exact careful

theorem orderly_mount {session : Session} {definition : ComponentDef} (steady : definition.Steady)
    (id : String) : session.Orderly rule (.mount id definition) := by
  refine ⟨fun same => ?_, fun {world request store} runs => ?_, nofun, nofun⟩
  · cases same
    exact steady
  · cases opened : session.closed with
    | true => simp [cycle?, opened] at runs
    | false =>
      rcases mounting : session.world.mount id definition session.store with
        ⟨error | value, mounted, stored⟩
      · simp [cycle?, opened, mounting] at runs
      · simp only [cycle?, opened, mounting, Bool.false_eq_true, if_false, Option.some.injEq,
          Prod.mk.injEq] at runs
        obtain ⟨rfl, rfl, rfl⟩ := runs
        trivial

/-- Whether there is only one variable, a basket with its items. -/
def isBasket (session : Session) (id : String) : Bool :=
  session.world.holdings == [(some id, "items")] && match session.world.mounted.get? id with
    | some (some component) => component.definition.isReactive "items"
    | _ => false

/-- **Adding an item is in good order** where the items of a basket are all that there is, if the rule
allows to write to what was read out of the only variable. -/
theorem orderly_growing {entries : List Entry} {id : String}
    (orderly : Orderlies World.Permits config entries)
    (basket : (reached config entries).isBasket id = true)
    (allowed : ∀ {world : World} {store : Store} {value : Value} {ref : Ref},
      world.value? (some id) "items" = some value → (∀ {site name held},
        world.value? site name = some held → (site, name) = (some id, "items") ∧ held = value) →
      world.identity = (reached config entries).world.identity → value = .list ref →
      rule world store (ReadOut.nothing.add (some id) "items" value) ref) :
    (reached config entries).Orderly rule (.external id growing) := by
  refine orderly_external fun component there => ?_
  rcases settled_reached orderly with ⟨_, settled, _⟩ | finished
  · have reset := settled.reset.fresh
    rw [isBasket, Bool.and_eq_true, beq_iff_eq] at basket
    obtain ⟨only, own⟩ := basket
    simp only [there] at own
    generalize (reached config entries).world.resetChanges (reached config entries).store = store
      at reset ⊢
    have named : component.id = id := reset.filed there
    have placed : (reached config entries).world.mounted.get? component.id = some (some component) :=
      named ▸ there
    obtain ⟨value, has⟩ := World.mem_holdings_iff.mp (only ▸ List.mem_singleton_self _ :
      (some id, "items") ∈ (reached config entries).world.holdings)
    have sole {site : Site} {name : String} {held : Value}
        (found : (reached config entries).world.value? site name = some held) :
        (site, name) = (some id, "items") ∧ held = value := by
      have member := World.mem_holdings_iff.mpr ⟨held, found⟩
      rw [only, List.mem_singleton] at member
      refine ⟨member, ?_⟩
      cases member
      exact Option.some.inj (found.symm.trans has)
    have entered := reset.enter placed
    have same (site : Site) (name : String) : ((reached config entries).world.update component
        ((reached config entries).world.variablesOf component)).value? site name =
        (reached config entries).world.value? site name := by
      unfold World.value?
      rw [World.update_variablesOf_places placed]
    have known := World.known_eq_value? there "items"
    rw [ComponentDef.site, if_pos own, has, Variables.known_eq, Variables.holder, own] at known
    obtain ⟨_, _, pictured⟩ := entered
    refine careful_growing own known pictured.finite fun ref handle => ?_
    rw [named]
    exact allowed ((same ..).trans has) (fun found => sole ((same ..).symm.trans found)) rfl handle
  · cases (finished.gone id).symm.trans there

/-- Putting an identity value into a basket is in good order. -/
theorem orderly_adopting {entries : List Entry} (orderly : Orderlies World.Permits config entries)
    (id : String) : (reached config entries).Orderly rule (.external id adopting) := by
  refine orderly_external fun component there => ?_
  rcases settled_reached orderly with ⟨_, settled, _⟩ | finished
  · obtain ⟨_, _, pictured⟩ := settled.reset
    exact careful_adopting pictured.identities
  · exact nomatch (finished.gone id).symm.trans there

/-! ### Baskets that are filled -/

/-- Whether the client shows a text for a component. -/
def isShown (session : Session) (id text : String) : Bool :=
  match session.world.instance? id with
  | .ok component => component.view.html == text
  | .error _ => false

theorem exists_of_isShown {session : Session} {id text : String}
    (shown : session.isShown id text = true) : ∃ component,
      session.world.mounted.get? id = some (some component) ∧ session.html id = .ok text := by
  unfold isShown at shown
  split at shown
  · next component found =>
    refine ⟨component, World.instance?_eq_ok_iff.mp found, ?_⟩
    rw [Session.html, found, ← eq_of_beq shown]
    rfl
  · cases shown

/-- Whether a rendering in full of a component gives a text. -/
def isRenderedTo (session : Session) (id text : String) : Bool :=
  match session.world.instance? id with
  | .ok component =>
    match (session.world.render component .all session.store).1 with
    | .ok rendered => String.join (rendered.markup.filterMap fun slot => slot) == text
    | .error _ => false
  | .error _ => false

theorem join_of_isRenderedTo {session : Session} {id text : String} {component : Instance}
    {rendered : Rendered} (whole : session.isRenderedTo id text = true)
    (there : session.world.mounted.get? id = some (some component))
    (ok : (session.world.render component .all session.store).1 = .ok rendered) :
    String.join (rendered.markup.filterMap fun slot => slot) = text := by
  simp only [isRenderedTo, World.instance?_eq_ok_iff.mpr there, ok] at whole
  exact eq_of_beq whole

/-- A basket comes, gets a list, and the list gets an item. -/
def filling (basket : ComponentDef) : List Entry :=
  [.external "b" growing, .external "b" renewing, .mount "b" basket]

theorem orderlies_filling {source : String} {basket : ComponentDef}
    (ok : (Draft.basket source).build = .ok basket)
    (plain : basket.declared.templates.values.all Template.isPlain = true)
    (only : (reached Config.default (filling basket).tail).isBasket "b" = true)
    (free : (reached Config.default (filling basket).tail).world.identity.values = []) :
    Orderlies World.Permits Config.default (filling basket) := by
  have earlier : Orderlies World.Permits Config.default (filling basket).tail :=
    ⟨orderly_external fun _ _ => careful_renewing, orderly_mount (steady_basket ok plain) "b", trivial⟩
  refine ⟨orderly_growing earlier only fun has sole identity handle => ⟨fun found _ => ?_, ?_⟩, earlier⟩
  · obtain ⟨same, rfl⟩ := sole found
    cases same
    exact Or.inr (Or.inr ⟨rfl, rfl, by rw [handle]; rfl⟩)
  · rw [identity]
    exact fun value member => nomatch (free ▸ member : value ∈ [])

/-- The client sees what is in a basket. -/
theorem html_eq_render_of_filling : ∃ (basket : ComponentDef) (component : Instance)
    (rendered : Rendered),
    (reached Config.default (filling basket)).world.mounted.get? "b" = some (some component) ∧
    ((reached Config.default (filling basket)).world.render component .all
      (reached Config.default (filling basket)).store).1 = .ok rendered ∧
    (reached Config.default (filling basket)).html "b" = .ok "<li>1</li>" ∧
    String.join (rendered.markup.filterMap fun slot => slot) = "<li>1</li>" := by
  have checked : ComponentDef.isBuiltTo
      (Draft.basket "<% for i in items %><li><%= i %></li><% end %>").build (fun basket =>
        basket.declared.templates.values.all Template.isPlain &&
        (reached Config.default (filling basket).tail).isBasket "b" &&
        (reached Config.default (filling basket).tail).world.identity.values.isEmpty &&
        decide (Envelope.last? "b" (history Config.default (filling basket)) =
          some (.render [some "<li>1</li>"])) &&
        (reached Config.default (filling basket)).isShown "b" "<li>1</li>") = true := by
    decide +kernel
  obtain ⟨basket, ok, passes⟩ := ComponentDef.exists_of_isBuiltTo checked
  simp only [Bool.and_eq_true, decide_eq_true_eq, List.isEmpty_iff] at passes
  obtain ⟨⟨⟨⟨plain, only⟩, free⟩, last⟩, shown⟩ := passes
  obtain ⟨component, there, shown⟩ := exists_of_isShown shown
  obtain ⟨rendered, whole, same⟩ := html_eq_render (orderlies_filling ok plain only free) there ⟨_, last⟩
  exact ⟨basket, component, rendered, there, whole, shown, Except.ok.inj (same.symm.trans shown)⟩

/-- A basket comes, is given a list that is an identity value, and the list gets an item. -/
def adopted (basket : ComponentDef) : List Entry :=
  [.external "b" growing, .external "b" adopting, .mount "b" basket, .setIdentity "stock" (.list 0),
    .outside fun store => (store.newList []).2]

theorem orderlies_adopted {source : String} {basket : ComponentDef}
    (ok : (Draft.basket source).build = .ok basket)
    (plain : basket.declared.templates.values.all Template.isPlain = true)
    (only : (reached Config.default (adopted basket).tail).isBasket "b" = true) :
    Orderlies World.PermitsSole Config.default (adopted basket) := by
  -- before the list gets an item nothing is written to
  have earlier (rule : WriteRule) :
      Orderlies rule Config.default [.mount "b" basket, .setIdentity "stock" (.list 0),
        .outside fun store => (store.newList []).2] := by
    refine ⟨orderly_mount (steady_basket ok plain) "b", ⟨nofun, fun runs => (nomatch runs), ?_, nofun⟩,
      ⟨nofun, fun runs => (nomatch runs), nofun, ?_⟩, trivial⟩
    · intro name value same
      cases same
      exact ⟨rfl, @Value.finite_newList (reached Config.default []).store [] nofun⟩
    · intro change same
      cases same
      exact (Store.peruses_newList _ []).toReads
  have adopting (rule : WriteRule) : Orderlies rule Config.default (adopted basket).tail :=
    ⟨orderly_adopting (earlier World.Permits) "b", earlier rule⟩
  refine ⟨orderly_growing (adopting World.Permits) only fun has sole _ handle => ?_,
    adopting World.PermitsSole⟩
  subst handle
  exact ⟨some "b", "items", _, has, ⟨_, rfl, .refl⟩, Or.inr ⟨rfl, rfl, rfl⟩,
    fun found _ => (sole found).1⟩

/-- **What is written to an identity value is not noticed**, although it was read out of the only variable
that holds it. -/
theorem stale_of_adopted : ¬ ∀ (config : Config) (entries : List Entry) (id : String)
    (component : Instance), Orderlies World.PermitsSole config entries →
    (reached config entries).world.mounted.get? id = some (some component) →
    Received id (history config entries) →
    ∃ rendered, ((reached config entries).world.render component .all
        (reached config entries).store).1 = .ok rendered ∧
      (reached config entries).html id =
        .ok (String.join (rendered.markup.filterMap fun slot => slot)) := by
  intro claimed
  have checked : ComponentDef.isBuiltTo (Draft.basket "<%= stock.len() %>").build (fun basket =>
      basket.declared.templates.values.all Template.isPlain &&
      (reached Config.default (adopted basket).tail).isBasket "b" &&
      decide (Envelope.last? "b" (history Config.default (adopted basket)) = some (.render [some "0"])) &&
      (reached Config.default (adopted basket)).isShown "b" "0" &&
      (reached Config.default (adopted basket)).isRenderedTo "b" "1") = true := by
    decide +kernel
  obtain ⟨basket, ok, passes⟩ := ComponentDef.exists_of_isBuiltTo checked
  simp only [Bool.and_eq_true, decide_eq_true_eq] at passes
  obtain ⟨⟨⟨⟨plain, only⟩, last⟩, shown⟩, whole⟩ := passes
  obtain ⟨component, there, shown⟩ := exists_of_isShown shown
  obtain ⟨rendered, ok', same⟩ :=
    claimed _ _ "b" component (orderlies_adopted ok plain only) there ⟨_, last⟩
  rw [shown, join_of_isRenderedTo whole there ok'] at same
  exact absurd (Except.ok.inj same) (by decide)

end Session

end ReactiveView
