/-
**What becomes of the variables of a session when one component changes its own.**

A component that is given a default, or that assigns a variable, changes one container. The books stay in
order, everything is seen as before, and the pictures of all components stand; a variable that is assigned
is pending afterwards in every component that declares it.

* `World.Fresh` — the books are in order, and what the client has is true except for what is pending.
* `World.Fresh.default`, `World.Fresh.assign` — a default is made, or a variable assigned.
* `World.Fresh.write`, `World.Fresh.onStore` — a node is written to, or is not.
-/

import ReactiveView.Proofs.Session.Books
import ReactiveView.Proofs.Session.Gallery

namespace ReactiveView

namespace World

variable {world after : World} {component : Instance} {reached left : Variables} {name : String}
  {value : Value} {store stored stage : Store} {ledger : Ledger} {read : ReadOut}
  {except : String → String → Prop}

/-! ### A component with other variables -/

theorem get?_update (world : World) (component : Instance) (reached : Variables) (id : String) :
    (world.update component reached).mounted.get? id = if id = component.id then
      some (some { component with container := reached.own }) else world.mounted.get? id :=
  get?_insert_eq

/-- However a component changes behind its face, everything is seen alike. -/
theorem stands_update {other : Instance} (same : other.face = component.face) :
    (world.update component reached).Stands (world.update other left) where
  places id := by
    obtain ⟨named, definition, view⟩ := Instance.parts_of_face same
    rw [get?_update, get?_update, named]
    split
    · simp only [Option.map_some, Instance.face, definition, view]
    · rfl
  ids := by
    have named := (Instance.parts_of_face same).1
    change (({ world with shared := left.shared } : World).put _).ids =
      (({ world with shared := reached.shared } : World).put _).ids
    rw [ids_put, ids_put, named]
    rfl
  outgoing := rfl
  config := rfl

/-- A component that only has other variables has its variant. -/
theorem variant_update {id : String} {old new : Instance}
    (found : (world.update component reached).mounted.get? id = some (some old))
    (there : (world.update component left).mounted.get? id = some (some new)) :
    new.variant = old.variant := by
  rw [get?_update] at found there
  split at found
  · next here =>
    rw [if_pos here] at there
    cases found
    cases there
    rfl
  · next other =>
    rw [if_neg other, found] at there
    cases there
    rfl

theorem value?_hold (world : World) (component : Instance) (reached : Variables) (name : String)
    (container : Container) (site : Site) (asked : String) :
    (world.update component (reached.hold component.definition name container)).value? site asked =
      if site = component.definition.site component.id name then container.values.get? asked
      else (world.update component reached).value? site asked := by
  unfold value?
  rw [container?_hold]
  split <;> rfl

theorem value?_holder (world : World) (component : Instance) (reached : Variables)
    (name asked : String) :
    (world.update component reached).value? (component.definition.site component.id name) asked =
      (reached.holder component.definition name).values.get? asked := by
  unfold value?
  rw [container?_holder, Option.bind_some]

/-- **A value comes to be stored under a name**, and nothing else changes. -/
theorem value?_hold_of_insert {next : Container}
    (values : next.values = (reached.holder component.definition name).values.insert name value)
    (site : Site) (asked : String) :
    (world.update component (reached.hold component.definition name next)).value? site asked =
      if site = component.definition.site component.id name ∧ asked = name then some value
      else (world.update component reached).value? site asked := by
  rw [value?_hold]
  by_cases here : site = component.definition.site component.id name
  · rw [if_pos here, values, here, value?_holder]
    by_cases same : asked = name
    · rw [if_pos ⟨rfl, same⟩, same, OrderedMap.get?_insert_self]
    · rw [if_neg fun both => same both.2, OrderedMap.get?_insert_of_ne _ same]
  · rw [if_neg here, if_neg fun both => here both.1]

/-- Code that changes a container drifts. -/
theorem drifts_hold {next : Container}
    (frame : Container.Frame (reached.holder component.definition name) store next stored) :
    (world.update component reached).Drifts store
      (world.update component (reached.hold component.definition name next)) stored where
  stands := stands_update rfl
  identity := rfl
  changesets site := by
    rw [container?_hold]
    split
    · next here =>
      rw [here, container?_holder, Option.map_some, Option.map_some, frame.changeset]
    · rfl
  marks := frame.marks

/-- A component that has changed nothing yet. -/
theorem Books.enter (books : world.Books store ledger read)
    (there : world.mounted.get? component.id = some (some component)) :
    (world.update component (world.variablesOf component)).Books store ledger read :=
  books.of_places (update_variablesOf_places there)

theorem Pictured.enter (pictured : world.Pictured store except)
    (there : world.mounted.get? component.id = some (some component)) :
    (world.update component (world.variablesOf component)).Pictured store except := by
  have values (site : Site) (name : String) :
      (world.update component (world.variablesOf component)).value? site name =
        world.value? site name := by
    unfold value?
    rw [update_variablesOf_places there]
  refine pictured.change (stands_put there rfl) rfl (.refl store) id
    (fun {id old new} found placed => ?_) (fun _ _ _ => values _ _)
    fun has => Or.inl (values _ _ ▸ has)
  rw [get?_update] at placed
  split at placed
  · next here =>
    rw [here, there] at found
    cases found
    cases placed
    exact Or.inl rfl
  · cases found.symm.trans placed
    exact Or.inl rfl

/-! ### Defaults -/

/-- **The books after a variable was given its default.** -/
theorem Books.default (books : (world.update component reached).Books store ledger read)
    {maker : Owner} {default : VarDefault} (determined : default.Determined)
    (made : default.compute name maker store = (.ok value, stage)) :
    ∃ ledger, (world.update component (reached.watch component.definition name value stage).1).Books
      (reached.watch component.definition name value stage).2 ledger read := by
  obtain ⟨grows, finite⟩ := determined.finite made
  have flows := flows_compute default name maker store
  rw [made] at flows
  have early := books.onStore (books.booked.keeps_flow flows) fun member => by
    simpa only [Store.marked, grows.changesets] using member
  have found := container?_holder world component reached name
  have watches := early.booked.keeps_watch (early.entered found) name value
  have frame := Container.watch_frame (reached.holder component.definition name) name value stage
  rw [Variables.watch_eq]
  generalize (reached.holder component.definition name).watch name value stage = answer
    at watches frame ⊢
  obtain ⟨next, after⟩ := answer
  obtain ⟨keeps, watched, values⟩ := watches
  refine ⟨_, early.hold found keeps frame.changeset (fun _ _ => False.elim) frame.marks
    (fun {asked held ref} has handle => ?_) (container?_hold world component reached name next)⟩
  rcases get?_insert_eq_some (values ▸ has) with ⟨rfl, rfl⟩ | ⟨_, old⟩
  · exact Or.inl (watched ref handle (finite ref handle).inside)
  · exact Or.inr ⟨old, id⟩

theorem drifts_default {maker : Owner} {default : VarDefault} (determined : default.Determined)
    (made : default.compute name maker store = (.ok value, stage)) :
    (world.update component reached).Drifts store
      (world.update component (reached.watch component.definition name value stage).1)
      (reached.watch component.definition name value stage).2 := by
  obtain ⟨grows, _⟩ := determined.finite made
  have early : Container.Frame (reached.holder component.definition name) store
      (reached.holder component.definition name) stage :=
    .of_same rfl grows.extends grows.changesets
  rw [Variables.watch_eq]
  exact drifts_hold (early.trans (Container.watch_frame ..))

/-- **The pictures after a variable was given its default.** -/
theorem Pictured.default (pictured : (world.update component reached).Pictured store except)
    {maker : Owner} {default : VarDefault} (determined : default.Determined)
    (lacks : Variables.known component.definition reached name = none)
    (made : default.compute name maker store = (.ok value, stage)) :
    (world.update component (reached.watch component.definition name value stage).1).Pictured
      (reached.watch component.definition name value stage).2 except := by
  refine @Pictured.cache _ _ _ _ _ pictured (stands_update rfl) rfl (component.definition.site
    component.id name) name _ determined _ _ _ made
    (Variables.extends_watch component.definition name value reached stage)
    (fun found there => variant_update found there) ?_ fun site asked => ?_
  · rw [value?_holder, ← Variables.known_eq]
    exact lacks
  · rw [Variables.watch_eq]
    exact value?_hold_of_insert (Container.values_watch ..) site asked

/-! ### What is fresh -/

/-- **What the client has is true, except for what is pending**, and the books are in order. -/
def Fresh (world : World) (store : Store) (read : ReadOut) : Prop :=
  ∃ ledger, world.Books store ledger read ∧ world.Pictured store (world.Pending store)

namespace Fresh

/-- A variable is given its default. -/
theorem default (fresh : (world.update component reached).Fresh store read) {maker : Owner}
    {default : VarDefault} (determined : default.Determined)
    (lacks : Variables.known component.definition reached name = none)
    (made : default.compute name maker store = (.ok value, stage)) :
    (world.update component (reached.watch component.definition name value stage).1).Fresh
      (reached.watch component.definition name value stage).2 read := by
  obtain ⟨ledger, books, pictured⟩ := fresh
  obtain ⟨next, books⟩ := books.default determined made
  have drifts := @drifts_default world component reached _ _ _ _ _ _ determined made
  exact ⟨next, books, (pictured.default determined lacks made).imp fun _ _ => drifts.pending⟩

/-- **A variable is assigned.** -/
theorem assign (fresh : (world.update component reached).Fresh store read)
    (declared : component.definition.declares name = true) (finite : value.Finite store) :
    (world.update component (reached.write component.definition name value store).2.1).Fresh
      (reached.write component.definition name value store).2.2 read := by
  obtain ⟨ledger, books, pictured⟩ := fresh
  have found := container?_holder world component reached name
  have entered := books.entered found
  have sets := books.booked.keeps_set entered name value
  have framed := Container.set_frame (reached.holder component.definition name) name value store
  rw [Variables.write_eq declared]
  dsimp only
  generalize (reached.holder component.definition name).set name value store = answer
    at sets framed ⊢
  obtain ⟨next, after⟩ := answer
  obtain ⟨keeps, watched, values⟩ := sets
  obtain ⟨frame, marked⟩ := framed
  have drifts := @drifts_hold world component _ _ _ _ _ frame
  have marks := marked (books.booked.there entered)
  refine ⟨_, books.hold found keeps frame.changeset ?_ frame.marks
    (fun {asked held ref} has handle => ?_) (container?_hold world component reached name next),
    pictured.change drifts.stands rfl frame.lasts drifts.pending
      (fun found there => Or.inl (variant_update found there))
      (fun {id holder asked} mounted declares unmarked => ?_) fun {site asked held} has => ?_⟩
  · rintro place asked ⟨rfl, rfl, _⟩
    exact ⟨rfl, marks⟩
  · rcases get?_insert_eq_some (values ▸ has) with ⟨rfl, rfl⟩ | ⟨ne, old⟩
    · exact Or.inl (watched ref handle (finite ref handle).inside)
    · exact Or.inr ⟨old, fun gone => ne gone.2.1⟩
  · rw [value?_hold_of_insert values]
    refine if_neg fun here => unmarked ?_
    -- what is assigned is marked, so every component that has it is pending
    obtain ⟨other, there, same⟩ := drifts.stands.symm.exists_of_get? mounted
    have definition := (Instance.parts_of_face same).2.1
    refine pending_of_marks there (definition ▸ declares) ⟨next, ?_, here.2 ▸ marks⟩
    rw [definition, here.1, container?_hold, if_pos rfl]
  · rw [value?_hold_of_insert values] at has
    split at has
    · cases has
      exact Or.inr fun ref handle => (finite ref handle).extend frame.lasts
    · exact Or.inl has

/-- **Nothing is written to**, and marks only come. -/
theorem onStore (fresh : world.Fresh store read)
    (keeps : ∀ ledger, Booked store ledger → KeepsAll store ledger stored ledger)
    (lasts : store.Extends stored)
    (marks : ∀ {changeset name}, name ∈ store.marked changeset → name ∈ stored.marked changeset) :
    world.Fresh stored read := by
  obtain ⟨ledger, books, pictured⟩ := fresh
  have drifts : world.Drifts store world stored := ⟨.refl world, rfl, fun _ => rfl, marks⟩
  exact ⟨ledger, books.onStore (keeps ledger books.booked) marks,
    (pictured.extend lasts).imp fun _ _ => drifts.pending⟩

end Fresh

end World

end ReactiveView
