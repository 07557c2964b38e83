/-
**What renderings make of the pictures that the client has.**

A component that shows no other is rendered by itself: its variables are read, and given defaults. Before
a cycle renders, each component is depicted except for the names for which it is to be rendered; each turn
renders one component for all names that are still owed to it, or shows its error instead. In the end
nothing is owed to anyone.

* `World.Renders` — the rendering of a component that shows no other.
* `World.Pictured.renders` — the picture of a component is true once it was rendered.
* `Cycle.Owed` — the names for which components are still to be rendered.
* `Cycle.settled_renderAll` — at the end of a cycle all pictures are true.
-/

import ReactiveView.Proofs.Data.Entries
import ReactiveView.Proofs.Session.Changes
import ReactiveView.Proofs.Session.Discipline

namespace ReactiveView

open Render

/-! ### Views -/

namespace ClientView

/-- A view that shows no child shows none after a rendering that brings none. -/
theorem alone_commit {view : ClientView} (alone : view.children.flatten = []) (variant : String)
    {rendered : Rendered} (bare : childrenOf rendered.slots = []) :
    (view.commit variant rendered).children.flatten = [] := by
  have each (slot : Slot) (member : slot ∈ rendered.slots) : slot.children.getD [] = [] :=
    List.flatMap_eq_nil_iff.mp bare slot member
  have laid (olds : List (List String)) (slots : List Slot)
      (olds' : ∀ ids ∈ olds, ids = []) (slots' : ∀ slot ∈ slots, slot.children.getD [] = []) :
      ∀ ids ∈ overlay [] Slot.children olds slots, ids = [] := by
    induction slots generalizing olds with
    | nil => cases olds <;> exact fun _ member => nomatch member
    | cons slot rest ih =>
      have bare := slots' slot List.mem_cons_self
      have others := fun slot member => slots' slot (List.mem_cons_of_mem _ member)
      cases olds with
      | nil =>
        rintro ids (_ | ⟨_, member⟩)
        · exact bare
        · exact ih [] nofun others ids member
      | cons old olds =>
        have blank := olds' old List.mem_cons_self
        rintro ids (_ | ⟨_, member⟩)
        · exact blank ▸ bare
        · exact ih olds (fun ids there => olds' ids (List.mem_cons_of_mem _ there)) others ids member
  unfold commit
  split
  · exact List.flatten_eq_nil_iff.mpr fun ids member => by
      obtain ⟨slot, there, rfl⟩ := List.mem_map.mp member
      exact each slot there
  · exact List.flatten_eq_nil_iff.mpr
      (laid view.children rendered.slots (List.flatten_eq_nil_iff.mp alone) each)

end ClientView

namespace World

variable {world after : World} {component : Instance} {dirty : Dirty} {store stored : Store}
  {reached left : Variables} {except : String → String → Prop}

/-! ### The rendering of a component that shows no other -/

/-- **The rendering of a component that shows no other**: its variables are read, and if it succeeds the
client has what it brings. -/
inductive Renders (world : World) (component : Instance) (dirty : Dirty) (store : Store) :
    Except Error Rendered → World → Store → Prop
  | failed {error : Error} {left : Variables} {stored : Store}
    (refused : ∀ {template}, component.definition.template component.variant = .ok template →
      (Render.render template dirty component.view
        (Scope.ofReached component.definition component.owner world.identity) world.config
        (world.variablesOf component) store).1 = .error error)
    (unknown : ∀ {other}, component.definition.template component.variant = .error other →
      error = other)
    (path : Relation.ReflTransGen (Variables.Step component.definition component.owner)
      (world.variablesOf component, store) (left, stored)) :
    Renders world component dirty store (.error error) (world.update component left) stored
  | done {template : Template} {rendered : Rendered} {view : ClientView} {left : Variables}
    {stored : Store} (found : component.definition.template component.variant = .ok template)
    (ran : Render.render template dirty component.view
      (Scope.ofReached component.definition component.owner world.identity) world.config
      (world.variablesOf component) store = (.ok rendered, view, left, stored))
    (path : Relation.ReflTransGen (Variables.Step component.definition component.owner)
      (world.variablesOf component, store) (left, stored)) :
    Renders world component dirty store (.ok rendered) (world.update { component with view } left)
      stored

namespace Renders

variable {result : Except Error Rendered} {held : Instance}

/-- All other components are as they were. -/
theorem get?_of_ne (renders : world.Renders component dirty store result after stored) {other : String}
    (ne : other ≠ component.id) : after.mounted.get? other = world.mounted.get? other := by
  cases renders <;> exact (get?_update ..).trans (if_neg ne)

theorem outgoing (renders : world.Renders component dirty store result after stored) :
    after.outgoing = world.outgoing := by
  cases renders <;> rfl

/-- The component is where it was, and its view says that the client has got it if it could be
rendered. -/
theorem own (renders : world.Renders component dirty store result after stored)
    (there : after.mounted.get? component.id = some (some held)) : held.id = component.id ∧
      (held.view = component.view ∨ held.view.staticSent = true) ∧
      (result.isOk = true → held.view.staticSent = true) := by
  cases renders with
  | failed _ _ path =>
    rw [get?_update, if_pos rfl] at there
    cases there
    exact ⟨rfl, Or.inl rfl, nofun⟩
  | @done template rendered view left _ found ran path =>
    rw [get?_update, if_pos rfl] at there
    cases there
    have committed := (slots_of_render (congrArg Prod.fst ran)).2
    rw [ran] at committed
    obtain ⟨dense, rfl⟩ : rendered.dense = isDense template dirty component.view ∧
      view = component.view.commit template.variant rendered := committed
    have sent : (component.view.commit template.variant rendered).staticSent = true := by
      unfold ClientView.commit
      split
      · rfl
      · next sparse => exact (isDense_eq_false (dense.symm.trans (by simpa using sparse))).2.1
    exact ⟨rfl, Or.inr sent, fun _ => sent⟩

end Renders

/-- Such a rendering brings no child. -/
theorem bare_of_render {template : Template} {identity : OrderedMap String Value} {view seen : ClientView}
    {config : Config} {rendered : Rendered}
    (ran : Render.render template dirty view
      (Scope.ofReached component.definition component.owner identity) config reached store =
        (.ok rendered, seen, left, stored)) :
    childrenOf rendered.slots = [] ∧ rendered.renderedChildren = [] := by
  obtain ⟨shown, answered, named, within⟩ := answers_of_render template dirty view
    (Scope.ofReached component.definition component.owner identity) config reached store ran
  -- whoever calls for a child is refused
  have none : shown = [] := by
    generalize calls template dirty view _ config reached store = called at answered
    cases answered with
    | nil => rfl
    | cons answer _ =>
      obtain ⟨child, around, answer, _⟩ := answer
      cases answer
  rw [named, within, none]
  exact ⟨rfl, rfl⟩

/-- A component is rendered away from its place. -/
theorem render_eq (component : Instance) (dirty : Dirty) (store : Store) :
    world.render component dirty store =
      let (result, component, around, stored) := renderWith
        (renderChild (renderNested 4095) component.definition) component dirty
        (world.takeOut component.id) store
      (result, putBack around component stored) := by
  unfold render renderInPlace
  rw [show renderDepthLimit = 4095 + 1 from rfl, renderNested]

theorem renders_render (solitary : component.definition.Solitary)
    (alone : component.view.children.flatten = []) (dirty : Dirty) (store : Store) :
    world.Renders component dirty store (world.render component dirty store).1
      (world.render component dirty store).2.1 (world.render component dirty store).2.2 := by
  -- the component is put back where it was taken out
  have back (reached : Variables) (component' : Instance) (same : component'.id = component.id)
      (stored : Store) : putBack { world.takeOut component.id with shared := reached.shared }
        { component' with container := reached.own } stored =
          (world.update component' reached, stored) := by
    unfold putBack takeOut update put
    dsimp only
    rw [same, OrderedMap.get?_insert_self]
    dsimp only
    rw [OrderedMap.insert_insert]
  have kept : putBack (world.takeOut component.id) component store =
      (world.update component (world.variablesOf component), store) :=
    back (world.variablesOf component) component rfl store
  rw [render_eq]
  unfold renderWith
  cases found : component.definition.template component.variant with
  | error error =>
    dsimp only
    rw [kept]
    exact .failed (fun same => by cases found.symm.trans same)
      (fun same => Except.error.inj (found.symm.trans same)) .refl
  | ok template =>
    have twin := @render_scopeOf (renderChild (renderNested 4095) component.definition) component
      (world.takeOut component.id) solitary template found dirty component.view world.config store
    rcases ran : Render.render template dirty component.view
      (scopeOf (renderChild (renderNested 4095) component.definition) component) world.config
      ⟨component.container, world.takeOut component.id⟩ store with ⟨result, seen, state, stored⟩
    rcases here : Render.render template dirty component.view
      (Scope.ofReached component.definition component.owner world.identity) world.config
      (world.variablesOf component) store with ⟨answer, view, left, after⟩
    rw [ran, show (world.takeOut component.id).variablesOf component = world.variablesOf component
      from rfl, show (world.takeOut component.id).identity = world.identity from rfl, here] at twin
    obtain ⟨rfl, rfl, rfl, rfl, path⟩ := twin
    dsimp only [takeOut] at ran ⊢
    rw [ran]
    cases result with
    | error error =>
      have same : seen = component.view := by
        rcases Render.render_eq template dirty component.view
          (Scope.ofReached component.definition component.owner world.identity) world.config
          (world.variablesOf component) store with ⟨_, _, _, same⟩ | ⟨_, _, _, ok, _⟩
        · rw [here] at same
          exact same
        · rw [here] at ok
          cases ok
      subst same
      have placed := back left component rfl stored
      dsimp only [takeOut] at placed ⊢
      rw [placed]
      refine .failed (fun {other} same => ?_) (fun same => by cases found.symm.trans same) path
      cases found.symm.trans same
      rw [here]
    | ok rendered =>
      have gone : (component.view.liveChildren.diff seen.liveChildren).names = [] := by
        unfold ClientView.liveChildren
        rw [alone]
        rfl
      have placed := back left { component with view := seen } rfl stored
      dsimp only [takeOut] at placed ⊢
      rw [gone, destroyAll]
      dsimp only
      rw [placed]
      exact .done found here path

/-! ### Pictures and renderings -/

variable {ledger : Ledger} {read : ReadOut}

theorem Books.steps (steady : component.definition.Steady)
    (books : (world.update component reached).Books store ledger read)
    {later : Variables × Store} (path : Relation.ReflTransGen
      (Variables.Step component.definition component.owner) (reached, store) later) :
    ∃ ledger, (world.update component later.1).Books later.2 ledger read := by
  induction path with
  | refl => exact ⟨ledger, books⟩
  | tail _ step ih =>
    obtain ⟨ledger, books⟩ := ih
    rcases Variables.step_cases steady step with ⟨same, reads⟩ | ⟨name, default, value, stage, found,
      _, made, rfl⟩
    · rw [same]
      refine ⟨ledger, books.onStore (books.booked.keeps_reads reads) fun member => ?_⟩
      simpa only [Store.marked, reads.changesets] using member
    · exact books.default (steady.defaults found) made

theorem Pictured.steps (steady : component.definition.Steady)
    (pictured : (world.update component reached).Pictured store except)
    {later : Variables × Store} (path : Relation.ReflTransGen
      (Variables.Step component.definition component.owner) (reached, store) later) :
    (world.update component later.1).Pictured later.2 except := by
  induction path with
  | refl => exact pictured
  | tail _ step ih =>
    rcases Variables.step_cases steady step with ⟨same, reads⟩ | ⟨name, default, value, stage, found,
      lacks, made, rfl⟩
    · rw [same]
      exact ih.extend reads.toGrows.extends
    · exact ih.default (steady.defaults found) lacks made

/-- The client has something else of a component: the containers are the same. -/
theorem container?_view (world : World) (component : Instance) (view : ClientView)
    (reached : Variables) (site : Site) :
    (world.update { component with view } reached).container? site =
      (world.update component reached).container? site := by
  rw [container?_update, container?_update]

/-- **The client has something else of a component**: its picture changes, and no other does. -/
theorem Pictured.reface (pictured : (world.update component reached).Pictured store except)
    {view : ClientView} {more : String → String → Prop} (alone : view.children.flatten = [])
    (own : view.staticSent = true → Instance.Depicted { component with view, container := reached.own }
      world.identity world.config reached store (more component.id))
    (others : ∀ id name, id ≠ component.id → except id name → more id name) :
    (world.update { component with view } reached).Pictured store more := by
  -- a component afterwards is the one that is seen otherwise, or one that is as it was
  have cases {id : String} {other : Instance}
      (placed : (world.update { component with view } reached).mounted.get? id = some (some other)) :
      (id = component.id ∧ other = { component with view, container := reached.own }) ∨
        (id ≠ component.id ∧
          (world.update component reached).mounted.get? id = some (some other)) := by
    rw [get?_update] at placed ⊢
    split at placed
    · next here =>
      cases placed
      exact Or.inl ⟨here, rfl⟩
    · next elsewhere =>
      rw [if_neg elsewhere]
      exact Or.inr ⟨elsewhere, placed⟩
  have here : (world.update component reached).mounted.get? component.id =
      some (some { component with container := reached.own }) := by rw [get?_update, if_pos rfl]
  have steady := pictured.steady here
  refine ⟨fun placed => ?_, fun placed => ?_, fun placed => ?_, fun {site name value} has => ?_,
    pictured.identities, fun {id other} placed shown => ?_⟩
  · rcases cases placed with ⟨rfl, rfl⟩ | ⟨_, old⟩
    · rfl
    · exact pictured.filed old
  · rcases cases placed with ⟨rfl, rfl⟩ | ⟨_, old⟩
    · exact steady
    · exact pictured.steady old
  · rcases cases placed with ⟨rfl, rfl⟩ | ⟨_, old⟩
    · exact alone
    · exact pictured.alone old
  · refine @Pictured.finite _ _ _ pictured site name value ?_
    unfold value? at has ⊢
    rwa [container?_view] at has
  · rcases cases placed with ⟨rfl, rfl⟩ | ⟨elsewhere, old⟩
    · exact own shown
    · exact (pictured.pictured old shown).change rfl (Or.inl rfl) (.refl store)
        (fun name => others id name elsewhere) fun _ _ _ => rfl

/-- The books after a rendering. -/
theorem Books.renders (steady : component.definition.Steady) (books : world.Books store ledger read)
    (there : world.mounted.get? component.id = some (some component))
    {result : Except Error Rendered} (renders : world.Renders component dirty store result after stored) :
    ∃ ledger, after.Books stored ledger read := by
  cases renders with
  | failed _ _ path => exact (books.enter there).steps steady path
  | done _ _ path =>
    obtain ⟨ledger, books⟩ := (books.enter there).steps steady path
    exact ⟨ledger, books.of_places (container?_view world component _ _)⟩

/-- **After a rendering for all excepted names the picture of a component is true**, and those of the
others are as they were. -/
theorem Pictured.renders (pictured : world.Pictured store except)
    (there : world.mounted.get? component.id = some (some component))
    (before : ∀ names, dirty = .names names → Dirty.Whole component.definition names ∧
      ∀ name, except component.id name → name ∈ names)
    {result : Except Error Rendered}
    (renders : world.Renders component dirty store result after stored) :
    after.Pictured stored fun id name =>
      except id name ∧ (id = component.id → ∃ error, result = .error error) := by
  have steady := pictured.steady there
  cases renders with
  | @failed error left _ _ _ path =>
    exact ((pictured.enter there).steps steady path).imp fun _ _ excepted =>
      ⟨excepted, fun _ => ⟨error, rfl⟩⟩
  | @done template rendered view left _ found ran path =>
    have stepped := (pictured.enter there).steps steady path
    have own := Instance.Depicted.of_render steady found
      (fun declared has => pictured.finite ((known_eq_value? there _).symm.trans has))
      pictured.identities (fun sent names same => ⟨(before names same).1,
        (pictured.pictured there sent).change rfl (Or.inl rfl) (.refl store) (before names same).2
          fun _ _ _ => rfl⟩) ran path left.own
    have committed := (slots_of_render (congrArg Prod.fst ran)).2.2
    rw [ran] at committed
    have view' : view = component.view.commit template.variant rendered := committed
    refine stepped.reface ?_ (fun _ => own.change rfl (Or.inl rfl) (.refl _) (fun _ => False.elim)
      fun _ _ _ => rfl) fun _ _ elsewhere excepted => ⟨excepted, fun here => absurd here elsewhere⟩
    rw [view']
    exact ClientView.alone_commit (pictured.alone there) _ (bare_of_render ran).1

end World

/-! ### Turns -/

namespace Cycle

variable {cycle : Cycle} {id : String} {rest : List (String × Dirty)}

/-- **The names for which components are still to be rendered.** -/
def Owed (rest : List (String × Dirty)) (id name : String) : Prop :=
  ∃ dirty, (id, dirty) ∈ rest ∧ dirty.contains name = true

/-- The client is shown an error instead of a component: the containers are the same. -/
theorem container?_fail (cycle : Cycle) (id : String) (error : Error) (site : Site)
    (filed : cycle.world.Filed) :
    (cycle.fail id error).world.container? site = cycle.world.container? site := by
  obtain ⟨className, same⟩ := exists_fail_eq cycle id error
  rw [same]
  change (invalidated cycle.world id).container? site = _
  unfold invalidated
  cases known : cycle.world.instance? id with
  | error error => rfl
  | ok component =>
    have there := World.instance?_eq_ok_iff.mp known
    have named := filed there
    subst named
    exact (World.container?_view cycle.world component component.view.invalidate
      (cycle.world.variablesOf component) site).trans (World.update_variablesOf_places there site)

/-- The client is shown an error instead of a component: there is no picture of it. -/
theorem pictured_fail {except : String → String → Prop}
    (pictured : cycle.world.Pictured cycle.store except) (id : String) (error : Error) :
    (cycle.fail id error).world.Pictured cycle.store fun other name =>
      other ≠ id ∧ except other name := by
  obtain ⟨className, same⟩ := exists_fail_eq cycle id error
  rw [same]
  refine World.Pictured.emit ?_ id _
  unfold invalidated
  cases known : cycle.world.instance? id with
  | error error =>
    refine pictured.imp fun {other name component} there _ excepted => ⟨fun here => ?_, excepted⟩
    subst here
    rw [World.instance?_eq_ok_iff.mpr there] at known
    cases known
  | ok component =>
    have there := World.instance?_eq_ok_iff.mp known
    have named := pictured.filed there
    subst named
    -- a view that the client has not got needs no picture
    have unsent (sent : component.view.invalidate.staticSent = true) : False :=
      Bool.noConfusion sent
    exact @World.Pictured.reface cycle.world component cycle.store
      (cycle.world.variablesOf component) except (pictured.enter there) component.view.invalidate
      (fun other name => other ≠ component.id ∧ except other name) (pictured.alone there)
      (fun sent => (unsent sent).elim) fun _ _ elsewhere excepted => ⟨elsewhere, excepted⟩

/-- The client is shown an error instead of a component: all others are as they were. -/
theorem get?_fail_of_ne {other : String} (filed : cycle.world.Filed) (ne : other ≠ id)
    (error : Error) : (cycle.fail id error).world.mounted.get? other = cycle.world.mounted.get? other := by
  obtain ⟨className, same⟩ := exists_fail_eq cycle id error
  rw [same]
  change (invalidated cycle.world id).mounted.get? other = _
  unfold invalidated
  cases known : cycle.world.instance? id with
  | error error => rfl
  | ok component =>
    have named := filed (World.instance?_eq_ok_iff.mp known)
    subst named
    exact OrderedMap.get?_insert_of_ne _ ne _

/--
**What holds between the turns of a cycle**: the books are in order, and what the client has is true
except for what is still owed; what is owed is owed once, and whole.
-/
structure Renewing (cycle : Cycle) (rest : List (String × Dirty)) : Prop where
  books : ∃ ledger, cycle.world.Books cycle.store ledger .nothing
  pictured : cycle.world.Pictured cycle.store (Owed rest)
  once : (rest.map Prod.fst).Nodup
  whole : ∀ {id names component}, (id, .names names) ∈ rest →
    cycle.world.mounted.get? id = some (some component) → Dirty.Whole component.definition names

/-- What is owed to others than the first. -/
theorem owed_of_ne {dirty : Dirty} {other name : String} (ne : other ≠ id)
    (owed : Owed ((id, dirty) :: rest) other name) : Owed rest other name := by
  obtain ⟨names, member, has⟩ := owed
  rcases List.mem_cons.mp member with here | there
  · cases here
    exact absurd rfl ne
  · exact ⟨names, there, has⟩

/-- A component that is not there is owed nothing. -/
theorem Renewing.skip {dirty : Dirty} (renewing : cycle.Renewing ((id, dirty) :: rest))
    (absent : ∀ component, cycle.world.mounted.get? id ≠ some (some component)) :
    cycle.Renewing rest where
  books := renewing.books
  pictured := renewing.pictured.imp fun there _ =>
    owed_of_ne fun same => absent _ (same ▸ there)
  once := (List.nodup_cons.mp renewing.once).2
  whole member := renewing.whole (List.mem_cons_of_mem _ member)

/-- **One turn**: a component is rendered, or its error is shown. -/
theorem Renewing.renderOne {dirty : Dirty} {component : Instance}
    (renewing : cycle.Renewing ((id, dirty) :: rest))
    (there : cycle.world.mounted.get? id = some (some component)) :
    (cycle.renderOne [] component dirty).1.Renewing rest ∧
      (cycle.renderOne [] component dirty).2 = [] := by
  obtain ⟨fresh, once⟩ := List.nodup_cons.mp renewing.once
  obtain rfl : component.id = id := renewing.pictured.filed there
  have steady := renewing.pictured.steady there
  have renders : cycle.world.Renders component dirty cycle.store _ _ _ :=
    World.renders_render steady.toSolitary (renewing.pictured.alone there) dirty cycle.store
  have before (names : NameSet) (same : dirty = .names names) :
      Dirty.Whole component.definition names ∧
        ∀ name, Owed ((component.id, dirty) :: rest) component.id name → name ∈ names := by
    subst same
    refine ⟨renewing.whole List.mem_cons_self there, ?_⟩
    rintro name ⟨owed, member, has⟩
    rcases List.mem_cons.mp member with here | later
    · cases here
      exact NameSet.contains_iff.mp has
    · exact absurd (List.mem_map_of_mem later) fresh
  unfold Cycle.renderOne
  generalize cycle.world.render component dirty cycle.store = answer at renders ⊢
  obtain ⟨result, world, store⟩ := answer
  have pictured := renewing.pictured.renders there before renders
  obtain ⟨ledger, books⟩ := renewing.books
  obtain ⟨ledger, books⟩ := books.renders steady there renders
  have whole {world : World} (same : ∀ other ≠ component.id,
      world.mounted.get? other = cycle.world.mounted.get? other) {other : String} {names : NameSet}
      {held : Instance} (member : (other, .names names) ∈ rest)
      (placed : world.mounted.get? other = some (some held)) :
      Dirty.Whole held.definition names := by
    have ne : other ≠ component.id := fun here =>
      fresh (List.mem_map.mpr ⟨(other, .names names), member, here⟩)
    exact renewing.whole (List.mem_cons_of_mem _ member) (same other ne ▸ placed)
  cases result with
  | error error =>
    have after : ({ cycle with world, store } : Cycle).world.Filed := pictured.filed
    refine ⟨⟨⟨ledger, books.of_places fun site => container?_fail _ _ error site after⟩, ?_, once,
      whole fun other ne => (get?_fail_of_ne after ne error).trans (renders.get?_of_ne ne)⟩, rfl⟩
    exact (pictured_fail pictured component.id error).imp
      fun _ _ excepted => owed_of_ne excepted.1 excepted.2.1
  | ok rendered =>
    have bare : rendered.renderedChildren = [] := by
      cases renders with
      | done _ ran _ => exact (World.bare_of_render ran).2
    have owed : world.Pictured store (Owed rest) := pictured.imp fun _ _ excepted => by
      refine owed_of_ne (fun here => ?_) excepted.1
      obtain ⟨_, impossible⟩ := excepted.2 here
      cases impossible
    dsimp only
    rw [bare, List.append_nil]
    split
    · exact ⟨⟨⟨ledger, books⟩, owed, once, whole fun _ => renders.get?_of_ne⟩, rfl⟩
    · exact ⟨⟨⟨ledger, books.of_places fun _ => rfl⟩, owed.emit _ _, once, whole fun _ => renders.get?_of_ne⟩, rfl⟩

/-- **After the last turn all pictures are true.** -/
theorem Renewing.renderAll (renewing : cycle.Renewing rest) : (cycle.renderAll [] rest).Renewing [] := by
  induction rest generalizing cycle with
  | nil => exact renewing
  | cons entry rest ih =>
    obtain ⟨id, dirty⟩ := entry
    unfold Cycle.renderAll
    rw [if_neg (by simp)]
    cases known : cycle.world.instance? id with
    | error error =>
      refine ih (renewing.skip fun component there => ?_)
      rw [World.instance?_eq_ok_iff.mpr there] at known
      cases known
    | ok component =>
      obtain ⟨next, none⟩ := renewing.renderOne (World.instance?_eq_ok_iff.mp known)
      dsimp only
      generalize cycle.renderOne [] component dirty = turn at next none ⊢
      obtain ⟨cycle, inlined⟩ := turn
      subst none
      exact ih next

/-! ### What is to be rendered -/

/-- A component in its place is to be rendered if it is dirty. -/
theorem mem_affected_iff {newcomer : Option String} {dirty : Dirty} {component : Instance}
    (there : cycle.world.mounted.get? id = some (some component)) :
    (id, dirty) ∈ cycle.affected newcomer ↔
      cycle.dirtyOf newcomer id (some component) = some dirty := by
  unfold affected
  rw [List.mem_filterMap]
  constructor
  · rintro ⟨⟨known, place⟩, entry, made⟩
    obtain ⟨_, dirties, same⟩ := Option.map_eq_some_iff.mp made
    cases same
    cases there.symm.trans (OrderedMap.mem_entries_iff.mp entry)
    exact dirties
  · exact fun dirties => ⟨(id, some component), OrderedMap.mem_entries_iff.mpr there,
      by rw [dirties]; rfl⟩

/-- **What is pending is owed**, unless it is of a component that the client has not got. -/
theorem renewing_affected (newcomer : Option String) {read : ReadOut}
    (fresh : cycle.world.Fresh cycle.store read)
    (failed : ∀ {id component}, id ∈ cycle.failed →
      cycle.world.mounted.get? id = some (some component) → component.view.staticSent = false) :
    cycle.Renewing (cycle.affected newcomer) := by
  obtain ⟨ledger, books, pictured⟩ := fresh
  refine ⟨⟨ledger, books.forget⟩, pictured.imp fun {id name component} there shown pending => ?_,
    cycle.affected_distinct newcomer, fun {id names component} owed there => ?_⟩
  · have dirty := (World.pending_iff there).mp pending
    have sound : cycle.failed.contains id = false := by
      simpa using fun here => Bool.noConfusion (shown.symm.trans (failed here there))
    by_cases new : newcomer = some id
    · exact ⟨.all, (mem_affected_iff there).mpr (if_pos new), rfl⟩
    · refine ⟨.names (component.dirty (cycle.world.shared.changes cycle.store) cycle.store),
        (mem_affected_iff there).mpr ?_, NameSet.contains_iff.mpr dirty⟩
      have filled : ¬ (component.dirty (cycle.world.shared.changes cycle.store)
          cycle.store).isEmpty = true := fun empty =>
        List.ne_nil_of_mem dirty (List.isEmpty_iff.mp empty)
      simp only [dirtyOf, new, sound, filled, if_false, Bool.false_eq_true]
  · have dirties := (mem_affected_iff there).mp owed
    unfold dirtyOf at dirties
    split at dirties
    · cases dirties
    · split at dirties
      · cases dirties
      · dsimp only at dirties
        split at dirties
        · cases dirties
        · next filled =>
          cases dirties
          obtain ⟨other, here⟩ := List.exists_mem_of_ne_nil _ fun nothing =>
            filled (List.isEmpty_iff.mpr nothing)
          have some : ∃ other, component.Changed (cycle.world.shared.changes cycle.store)
              cycle.store other := (Instance.mem_dirty.mp here).elim (fun own => ⟨other, own⟩) And.left
          exact ⟨Instance.mem_dirty.mpr (Or.inr ⟨some, Or.inl rfl⟩),
            fun name helper => Instance.mem_dirty.mpr (Or.inr ⟨some, Or.inr helper⟩)⟩

end Cycle

end ReactiveView
