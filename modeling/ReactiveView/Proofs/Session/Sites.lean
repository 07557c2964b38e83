/-
**Where the variables of a session are held, and which of them are marked.**

A variable is held under its name by a container: by that of a component, or by that of the session.
What code does for a component changes the containers that the component reaches, behind its face; no
mark goes away meanwhile. A component is pending for the names for which it would be rendered now.

* `World.container?`, `World.value?`, `World.Marks` — the variables of a session, site by site.
* `World.update` — a component whose variables have changed.
* `World.Drifts` — what code does: everything is seen as before, and marks only come.
* `World.Pending` — the names for which a component must be rendered.
-/

import ReactiveView.Proofs.Component.Reached
import ReactiveView.Proofs.Session.Runs

namespace ReactiveView

/-- Whose container holds a variable: that of the component with an id, or that of the session. -/
abbrev Site := Option String

/-- The site at which a component with the given id has a variable. -/
def ComponentDef.site (definition : ComponentDef) (id name : String) : Site :=
  if definition.isReactive name then some id else none

namespace Variables

variable {definition : ComponentDef} {name : String} {reached : Variables}

/-- The container that holds a name. -/
def holder (definition : ComponentDef) (name : String) (reached : Variables) : Container :=
  if definition.isReactive name then reached.own else reached.shared

/-- The variables after the container that holds a name has changed. -/
def hold (definition : ComponentDef) (name : String) (container : Container)
    (reached : Variables) : Variables :=
  if definition.isReactive name then { reached with own := container }
  else { reached with shared := container }

theorem known_eq (definition : ComponentDef) (reached : Variables) (name : String) :
    known definition reached name = (reached.holder definition name).values.get? name := by
  unfold known holder
  split <;> rfl

theorem watch_eq (definition : ComponentDef) (name : String) (value : Value) (reached : Variables)
    (store : Store) : reached.watch definition name value store =
      (reached.hold definition name ((reached.holder definition name).watch name value store).1,
        ((reached.holder definition name).watch name value store).2) := by
  unfold watch hold holder
  split <;> rfl

/-- A declared name is assigned in the container that holds it. -/
theorem write_eq (declared : definition.declares name = true) (value : Value) (reached : Variables)
    (store : Store) : reached.write definition name value store =
      (.ok (), reached.hold definition name ((reached.holder definition name).set name value store).1,
        ((reached.holder definition name).set name value store).2) := by
  unfold write hold holder
  cases own : definition.isReactive name with
  | true => rfl
  | false =>
    have shared : definition.isShared name = true := by
      simpa [ComponentDef.declares, own] using declared
    simp only [Bool.false_eq_true, if_false, shared, if_true]

end Variables

namespace World

variable {world after later : World} {store stored last : Store} {site asked : Site}
  {id name : String} {component : Instance} {reached : Variables}

/-! ### Sites -/

/-- The container at a site. -/
def container? (world : World) : Site → Option Container
  | none => some world.shared
  | some id => (world.mounted.get? id).join.map Instance.container

/-- The value of a variable, if it has one. -/
def value? (world : World) (site : Site) (name : String) : Option Value :=
  (world.container? site).bind fun container => container.values.get? name

/-- A variable counts as changed. -/
def Marks (world : World) (store : Store) (site : Site) (name : String) : Prop :=
  ∃ container, world.container? site = some container ∧ name ∈ container.changes store

/-- The world after the variables of a component have changed. -/
def update (world : World) (component : Instance) (reached : Variables) : World :=
  { world with shared := reached.shared }.put { component with container := reached.own }

theorem value?_eq_some_iff {value : Value} : world.value? site name = some value ↔
    ∃ container, world.container? site = some container ∧ container.values.get? name = some value :=
  Option.bind_eq_some_iff

theorem container?_of_mounted (there : world.mounted.get? id = some (some component)) :
    world.container? (some id) = some component.container := by
  simp only [container?, there, Option.join_some, Option.map_some]

theorem exists_of_container? {container : Container}
    (found : world.container? (some id) = some container) :
    ∃ component, world.mounted.get? id = some (some component) ∧
      component.container = container := by
  obtain ⟨component, placed, same⟩ := Option.map_eq_some_iff.mp found
  exact ⟨component, Option.join_eq_some_iff.mp placed, same⟩

theorem container?_update (world : World) (component : Instance) (reached : Variables)
    (asked : Site) : (world.update component reached).container? asked =
      if asked = none then some reached.shared
      else if asked = some component.id then some reached.own else world.container? asked := by
  cases asked with
  | none => rfl
  | some id =>
    rw [if_neg (Option.some_ne_none id)]
    change ((world.mounted.insert component.id _).get? id).join.map Instance.container = _
    rw [get?_insert_eq]
    by_cases same : id = component.id
    · rw [if_pos same, if_pos (congrArg some same)]
      rfl
    · rw [if_neg same, if_neg fun equal => same (Option.some.inj equal)]
      rfl

/-- The container that holds a name, at its site. -/
theorem container?_holder (world : World) (component : Instance) (reached : Variables)
    (name : String) :
    (world.update component reached).container? (component.definition.site component.id name) =
      some (reached.holder component.definition name) := by
  rw [container?_update]
  unfold ComponentDef.site Variables.holder
  split <;> simp

/-- The container that holds a name changes, and no other. -/
theorem container?_hold (world : World) (component : Instance) (reached : Variables)
    (name : String) (container : Container) (asked : Site) :
    (world.update component (reached.hold component.definition name container)).container? asked =
      if asked = component.definition.site component.id name then some container
      else (world.update component reached).container? asked := by
  rw [container?_update, container?_update]
  unfold ComponentDef.site Variables.hold
  cases component.definition.isReactive name with
  | true =>
    simp only [if_true]
    by_cases shared : asked = none
    · simp [shared]
    · by_cases own : asked = some component.id <;> simp [own, shared]
  | false =>
    simp only [Bool.false_eq_true, if_false]
    by_cases shared : asked = none <;> simp [shared]

/-- What a component knows of a name is the value of a variable. -/
theorem known_eq_value? (there : world.mounted.get? id = some (some component)) (name : String) :
    Variables.known component.definition (world.variablesOf component) name =
      world.value? (component.definition.site id name) name := by
  unfold value? Variables.known ComponentDef.site variablesOf
  split
  · rw [container?_of_mounted there, Option.bind_some]
  · rfl

/-- A component that has changed nothing. -/
theorem update_variablesOf_places (there : world.mounted.get? component.id = some (some component))
    (asked : Site) :
    (world.update component (world.variablesOf component)).container? asked =
      world.container? asked := by
  rw [container?_update]
  split
  · next same => rw [same]; rfl
  · split
    · next same => rw [same, container?_of_mounted there]; rfl
    · rfl

/-! ### What code does -/

/-- **What code does**: everything is seen as before, and marks only come. -/
structure Drifts (world : World) (store : Store) (after : World) (stored : Store) : Prop where
  stands : world.Stands after
  identity : after.identity = world.identity
  changesets : ∀ site, (after.container? site).map Container.changeset =
    (world.container? site).map Container.changeset
  marks : ∀ {changeset name}, name ∈ store.marked changeset → name ∈ stored.marked changeset

/-- The container that became of one. -/
theorem Drifts.container? (drifts : world.Drifts store after stored) {container : Container}
    (found : world.container? site = some container) :
    ∃ next, after.container? site = some next ∧ next.changeset = container.changeset := by
  have same := drifts.changesets site
  rw [found] at same
  exact Option.map_eq_some_iff.mp same

theorem Drifts.keepsMark (drifts : world.Drifts store after stored)
    (marks : world.Marks store site name) : after.Marks stored site name := by
  obtain ⟨container, found, marked⟩ := marks
  obtain ⟨next, placed, same⟩ := drifts.container? found
  refine ⟨next, placed, ?_⟩
  unfold Container.changes at marked ⊢
  rw [same]
  exact drifts.marks marked

/-! ### What is pending -/

/-- **A component must be rendered for a name**, as far as marks say. -/
def Pending (world : World) (store : Store) (id name : String) : Prop :=
  ∃ component, world.mounted.get? id = some (some component) ∧
    name ∈ component.dirty (world.shared.changes store) store

end World

namespace Instance

variable {component : Instance} {shared : NameSet} {store : Store} {name : String}

/-- A name that is marked, and that the component declares. -/
def Changed (component : Instance) (shared : NameSet) (store : Store) (name : String) : Prop :=
  name ∈ component.container.changes store ∨ name ∈ component.sharedChanges shared

/-- **For which names a component must be rendered.** -/
theorem mem_dirty : name ∈ component.dirty shared store ↔
    component.Changed shared store name ∨ ((∃ other, component.Changed shared store other) ∧
      (name = Template.componentName ∨ component.definition.hasHelper name = true)) := by
  have changed (asked : String) : asked ∈ (component.container.changes store).insertAll
      (component.sharedChanges shared) ↔ component.Changed shared store asked := by
    rw [NameSet.mem_insertAll]
    exact or_comm
  have helper (asked : String) : asked ∈ component.definition.declared.helpers.keys ↔
      component.definition.hasHelper asked = true :=
    OrderedMap.mem_keys_iff component.definition.declared.helpers asked
  unfold dirty
  dsimp only
  generalize (component.container.changes store).insertAll (component.sharedChanges shared) =
    names at changed ⊢
  split
  · next empty =>
    have none (asked : String) : ¬ component.Changed shared store asked := by
      rw [← changed]
      have nothing : names.names = [] := List.isEmpty_iff.mp empty
      change ¬ asked ∈ names.names
      simp [nothing]
    rw [changed]
    exact iff_of_false (none name) fun some => some.elim (none name) fun ⟨⟨other, here⟩, _⟩ =>
      none other here
  · next filled =>
    obtain ⟨other, here⟩ := List.exists_mem_of_ne_nil _ fun nothing =>
      filled (List.isEmpty_iff.mpr nothing)
    rw [NameSet.mem_insertAll, NameSet.mem_insert, changed, helper]
    constructor
    · rintro (helper | whole | own)
      · exact Or.inr ⟨⟨other, (changed other).mp here⟩, Or.inr helper⟩
      · exact Or.inr ⟨⟨other, (changed other).mp here⟩, Or.inl whole⟩
      · exact Or.inl own
    · rintro (own | ⟨_, whole | helper⟩)
      · exact Or.inr (Or.inr own)
      · exact Or.inr (Or.inl whole)
      · exact Or.inl helper

end Instance

namespace World

variable {world after : World} {store stored : Store} {id name : String} {component : Instance}

/-- A component that is mounted is pending for its dirty names. -/
theorem pending_iff (there : world.mounted.get? id = some (some component)) :
    world.Pending store id name ↔ name ∈ component.dirty (world.shared.changes store) store := by
  constructor
  · rintro ⟨other, found, dirty⟩
    cases there.symm.trans found
    exact dirty
  · exact fun dirty => ⟨component, there, dirty⟩

/-- A component is pending for what it has itself and is marked. -/
theorem pending_of_own (marks : world.Marks store (some id) name) :
    world.Pending store id name ∧ world.Pending store id Template.componentName := by
  obtain ⟨container, found, marked⟩ := marks
  obtain ⟨component, there, rfl⟩ := exists_of_container? found
  rw [pending_iff there, pending_iff there]
  exact ⟨Instance.mem_dirty.mpr (Or.inl (Or.inl marked)),
    Instance.mem_dirty.mpr (Or.inr ⟨⟨name, Or.inl marked⟩, Or.inl rfl⟩)⟩

/-- **A component is pending for every variable that it declares and that is marked.** -/
theorem pending_of_marks (there : world.mounted.get? id = some (some component))
    (declared : component.definition.declares name = true)
    (marks : world.Marks store (component.definition.site id name) name) :
    world.Pending store id name := by
  unfold ComponentDef.site at marks
  split at marks
  · exact (pending_of_own marks).1
  · next foreign =>
    obtain ⟨_, placed, marked⟩ := marks
    cases placed
    refine (pending_iff there).mpr (Instance.mem_dirty.mpr (Or.inl (Or.inr ?_)))
    have shared : component.definition.isShared name = true := by
      simpa [ComponentDef.declares, foreign] using declared
    exact List.mem_filter.mpr
      ⟨(OrderedMap.mem_keys_iff _ name).mpr shared, NameSet.contains_iff.mpr marked⟩

/-- What is pending stays pending while code runs. -/
theorem Drifts.pending (drifts : world.Drifts store after stored)
    (pending : world.Pending store id name) : after.Pending stored id name := by
  obtain ⟨old, found, dirty⟩ := pending
  obtain ⟨component, there, same⟩ := drifts.stands.symm.exists_of_get? found
  have definition : component.definition = old.definition :=
    congrArg (fun face => face.2.1) same
  have own (asked : String) (marked : asked ∈ old.container.changes store) :
      asked ∈ component.container.changes stored := by
    obtain ⟨container, placed, marked⟩ := @Drifts.keepsMark _ _ _ _ (some id) _ drifts
      ⟨_, container?_of_mounted found, marked⟩
    rw [container?_of_mounted there] at placed
    cases placed
    exact marked
  have shared (asked : String) (marked : asked ∈ old.sharedChanges (world.shared.changes store)) :
      asked ∈ component.sharedChanges (after.shared.changes stored) := by
    unfold Instance.sharedChanges at marked ⊢
    rw [definition]
    obtain ⟨declared, marked⟩ := List.mem_filter.mp marked
    obtain ⟨_, placed, marked⟩ := @Drifts.keepsMark _ _ _ _ none _ drifts
      ⟨_, rfl, NameSet.contains_iff.mp marked⟩
    cases placed
    exact List.mem_filter.mpr ⟨declared, NameSet.contains_iff.mpr marked⟩
  have changed (asked : String) :
      old.Changed (world.shared.changes store) store asked →
        component.Changed (after.shared.changes stored) stored asked :=
    Or.imp (own asked) (shared asked)
  refine (pending_iff there).mpr (Instance.mem_dirty.mpr ?_)
  rw [definition]
  exact (Instance.mem_dirty.mp dirty).imp (changed name)
    (And.imp_left (Exists.imp changed))

end World

end ReactiveView
