/-
**Containers that share values do not disturb each other.**

What is done to a container touches marks of its own changeset, observers that mark it, and bindings
to these. All that belongs to the changeset of another container stays: its marks, the observers that
mark it, and their bindings on every node, also where the two share the node. Only the code that
makes a default value may do more than that, before the container goes on with the value.

* `Store.Spares` — what belongs to a changeset stays.
* `Container.Apart` — a container has nothing to do with a changeset.
* `Container.Apart.set`, `Container.Apart.cleanup` — what such a container does spares the changeset.
* `Container.prepared`, `Act.prepared` — the store once the code for a default value has run.
* `Act.does`, `step_of_some` — what an act does to the container at its place.
* `spares_of_apart`, `spares_step` — an act on a container spares the others.
-/

import ReactiveView.Proofs.Container.Watching

namespace ReactiveView

/-! ### What belongs to a changeset -/

/-- The bindings of a node to observers that mark a changeset. -/
def Store.bindingsInto (store : Store) (changeset : ChangesetId) (ref : Ref) : List Binding :=
  (store.bindings ref).filter fun binding =>
    store.observers[binding.observer]? = some (some changeset)

/--
**What belongs to a changeset stays**: its marks, the observers that mark it, and their bindings. All
nodes hold what they held.
-/
structure Store.Spares (changeset : ChangesetId) (before after : Store) : Prop where
  content : ∀ ref, after.content ref = before.content ref
  marks : after.changesets[changeset]? = before.changesets[changeset]?
  observers : ∀ observer : ObserverId, after.observers[observer]? = some (some changeset) ↔
    before.observers[observer]? = some (some changeset)
  bindings : ∀ ref, after.bindingsInto changeset ref = before.bindingsInto changeset ref

namespace Store

variable {changeset own : ChangesetId} {before after later store : Store} {observer : ObserverId}

theorem Spares.refl (changeset : ChangesetId) (store : Store) : Spares changeset store store :=
  ⟨fun _ => rfl, rfl, fun _ => Iff.rfl, fun _ => rfl⟩

theorem Spares.trans (first : Spares changeset before after) (second : Spares changeset after later) :
    Spares changeset before later where
  content ref := (second.content ref).trans (first.content ref)
  marks := second.marks.trans first.marks
  observers observer := (second.observers observer).trans (first.observers observer)
  bindings ref := (second.bindings ref).trans (first.bindings ref)

/-- An observer that does not mark a changeset will not mark it. -/
theorem Spares.foreign (spares : Spares changeset before after)
    (foreign : before.observers[observer]? ≠ some (some changeset)) :
    after.observers[observer]? ≠ some (some changeset) :=
  fun marks => foreign ((spares.observers observer).mp marks)

/-- A change that leaves the nodes alone. -/
theorem spares_of_nodes (nodes : after.nodes = before.nodes)
    (marks : after.changesets[changeset]? = before.changesets[changeset]?)
    (observers : ∀ observer : ObserverId, after.observers[observer]? = some (some changeset) ↔
      before.observers[observer]? = some (some changeset)) : Spares changeset before after where
  content ref := by simp only [Store.content, nodes]
  marks := marks
  observers := observers
  bindings ref := by simp only [bindingsInto, Store.bindings, nodes, observers]

/-- A change of the bindings of a node that leaves those to a changeset alone. -/
theorem spares_modifyBindings (target : Ref) {f : List Binding → List Binding}
    (same : ∀ bindings : List Binding, (f bindings).filter (fun binding =>
        store.observers[binding.observer]? = some (some changeset)) =
      bindings.filter fun binding => store.observers[binding.observer]? = some (some changeset)) :
    Spares changeset store (store.modifyBindings target f) where
  content ref := content_modifyBindings store target ref f
  marks := rfl
  observers _ := Iff.rfl
  bindings ref := by
    by_cases here : ref = target
    · subst here
      by_cases inside : ref < store.nodes.size
      · have changed := bindings_modifyBindings_self store ref f inside
        exact (congrArg _ changed).trans (same _)
      · have outside := not_lt.mp inside
        have none : (store.modifyBindings ref f).bindings ref = store.bindings ref := by
          rw [bindings_of_size_le outside, bindings_of_size_le]
          simpa [modifyBindings] using outside
        exact congrArg _ none
    · have unchanged := bindings_modifyBindings_of_ne store here f
      exact congrArg _ unchanged

/-- Only bindings to observers that do not mark a changeset are taken off a node. -/
theorem spares_filter (target : Ref) {keep : Binding → Bool}
    (keeps : ∀ binding : Binding, store.observers[binding.observer]? = some (some changeset) →
      keep binding = true) :
    Spares changeset store (store.modifyBindings target fun own => own.filter keep) := by
  refine spares_modifyBindings target fun bindings => ?_
  rw [List.filter_filter]
  refine List.filter_congr fun binding _ => ?_
  by_cases marks : store.observers[binding.observer]? = some (some changeset)
  · rw [keeps binding marks, Bool.and_true]
  · rw [decide_eq_false marks, Bool.false_and]

/-! ### What an observer does -/

theorem spares_newObserver (ne : own ≠ changeset) :
    Spares changeset store (store.newObserver own).2 := by
  refine spares_of_nodes rfl rfl fun observer => ?_
  simp only [newObserver, Array.getElem?_push]
  split
  · next same => simp [same, ne]
  · exact Iff.rfl

theorem spares_attach (foreign : store.observers[observer]? ≠ some (some changeset)) (value : Value)
    (name : String) : Spares changeset store (store.attach value observer name) := by
  unfold attach inherit
  split
  · refine spares_modifyBindings _ fun bindings => ?_
    rw [List.foldl_cons, List.foldl_nil, addBinding]
    split
    · rfl
    · simp [foreign]
  · exact .refl changeset store

theorem spares_retire (foreign : store.observers[observer]? ≠ some (some changeset)) :
    Spares changeset store (store.retire observer) := by
  refine spares_of_nodes rfl rfl fun other => ?_
  simp only [retire, Array.getElem?_modify]
  split
  · next same =>
    subst same
    simp [foreign]
  · exact Iff.rfl

theorem spares_detach (foreign : store.observers[observer]? ≠ some (some changeset)) (value : Value)
    (name : String) : Spares changeset store (store.detach value observer name) := by
  unfold detach
  split
  · refine spares_filter _ fun binding marks => decide_eq_true ?_
    rintro rfl
    exact foreign marks
  · exact .refl changeset store

theorem spares_detachObserver (foreign : store.observers[observer]? ≠ some (some changeset))
    (value : Value) : Spares changeset store (store.detachObserver value observer) := by
  unfold detachObserver
  split
  · refine spares_filter _ fun binding marks => decide_eq_true ?_
    rintro rfl
    exact foreign marks
  · exact .refl changeset store

/-! ### What a changeset does -/

theorem spares_modifyChangeset (ne : own ≠ changeset) (f : NameSet → NameSet) :
    Spares changeset store (store.modifyChangeset own f) := by
  refine spares_of_nodes rfl ?_ fun _ => Iff.rfl
  simp only [modifyChangeset, Array.getElem?_modify, ne, if_false]

theorem spares_dropChangeset (ne : own ≠ changeset) :
    Spares changeset store (store.dropChangeset own) := by
  refine spares_of_nodes rfl ?_ fun _ => Iff.rfl
  simp only [dropChangeset, Array.getElem?_modify, ne, if_false]

theorem spares_newChangeset (inside : changeset < store.changesets.size) :
    Spares changeset store store.newChangeset.2 := by
  refine spares_of_nodes rfl ?_ fun _ => Iff.rfl
  simp only [newChangeset, Array.getElem?_push, inside.ne, if_false]

/-- What each step of a fold spares, the fold spares. -/
theorem spares_foldl {α : Type} {f : Store → α → Store} {items : List α}
    (each : ∀ {middle}, ∀ item ∈ items, Spares changeset store middle →
      Spares changeset middle (f middle item)) : Spares changeset store (items.foldl f store) := by
  have all (rest : List α) (part : ∀ item ∈ rest, item ∈ items) :
      ∀ {middle}, Spares changeset store middle → Spares changeset store (rest.foldl f middle) := by
    induction rest with
    | nil => exact id
    | cons first rest ih =>
      intro middle so
      have next := each first (part first List.mem_cons_self) so
      exact ih (fun item member => part item (List.mem_cons_of_mem _ member)) (so.trans next)
  exact all items (fun _ => id) (.refl changeset store)

end Store

/-! ### Containers that have nothing to do with a changeset -/

/-- **A container has nothing to do with a changeset**: neither it nor an observer it issued marks it. -/
structure Container.Apart (container : Container) (changeset : ChangesetId) (store : Store) :
    Prop where
  own : container.changeset ≠ changeset
  observers : ∀ {name observer}, container.observers.get? name = some observer →
    store.observers[observer]? ≠ some (some changeset)

/-! ### Code for default values -/

/-- The code that makes a default value. -/
def VarDefault.code? (default : VarDefault) (owner : Owner) : Option (Program Empty Value) :=
  match default with
  | .factory make => some make
  | .withOwner make => some (make owner)
  | _ => none

/-- The store once the code for a default value has run, where a container has to run it. -/
def Container.prepared (container : Container) (name : String) (default : VarDefault) (owner : Owner)
    (store : Store) : Store :=
  match container.values.get? name, default.code? owner with
  | none, some code => (code.runAlone store).2
  | _, _ => store

/-- A scalar is made without a node. -/
theorem store_ofJson {value : Json} (scalar : value.isComposite = false) (store : Store) :
    (Value.ofJson store value).2 = store := by
  cases value with
  | array | object => cases scalar
  | _ => rfl

/-- A default value is made by its code alone. -/
theorem store_compute {container : Container} {name : String}
    (free : container.values.get? name = none) (default : VarDefault) (owner : Owner)
    (store : Store) :
    (default.compute name owner store).2 = container.prepared name default owner store := by
  unfold Container.prepared
  rw [free]
  cases default with
  | absent | factory | withOwner => rfl
  | literal value =>
    simp only [VarDefault.compute, VarDefault.code?]
    split
    · rfl
    · next scalar => exact store_ofJson (Bool.eq_false_iff.mpr scalar) store

/-- Code for a default value issues and retires no observer. -/
theorem flows_prepared (container : Container) (name : String) (default : VarDefault) (owner : Owner)
    (store : Store) :
    ∃ flow, Store.Flows flow store (container.prepared name default owner store) := by
  unfold Container.prepared
  split
  · exact ⟨_, Program.flows_runAlone ..⟩
  · exact ⟨_, .refl store⟩

/-! ### What such containers do -/

namespace Container.Apart

variable {container : Container} {changeset : ChangesetId} {store after : Store}

theorem spared (apart : container.Apart changeset store)
    (spares : Store.Spares changeset store after) : container.Apart changeset after :=
  ⟨apart.own, fun known => spares.foreign (apart.observers known)⟩

/-- The observer of a name, issued now or before. -/
theorem observer (apart : container.Apart changeset store) (name : String) :
    let (observer, next, after) := container.observer name store
    Store.Spares changeset store after ∧ next.Apart changeset after ∧
      after.observers[observer]? ≠ some (some changeset) := by
  unfold Container.observer
  cases known : container.observers.get? name with
  | some observer => exact ⟨.refl changeset store, apart, apart.observers known⟩
  | none =>
    have spares : Store.Spares changeset store (store.newObserver container.changeset).2 :=
      Store.spares_newObserver apart.own
    have new : (store.newObserver container.changeset).2.observers[store.observers.size]? ≠
        some (some changeset) := by
      rw [getElem?_newObserver_size]
      exact fun same => apart.own (Option.some.inj (Option.some.inj same))
    refine ⟨spares, ⟨apart.own, fun {asked issued} held => ?_⟩, new⟩
    rcases get?_insert_eq_some held with ⟨_, rfl⟩ | ⟨_, before⟩
    · exact new
    · exact spares.foreign (apart.observers before)

/-- **A container stores a value**, which others may hold as well. -/
theorem watch (apart : container.Apart changeset store) (name : String) (value : Value) :
    let (next, after) := container.watch name value store
    Store.Spares changeset store after ∧ next.Apart changeset after := by
  have issued := apart.observer name
  unfold Container.watch
  generalize container.observer name store = answer at issued ⊢
  obtain ⟨observer, next, after⟩ := answer
  obtain ⟨spares, still, foreign⟩ := issued
  have attached := Store.spares_attach foreign value name
  have stays := still.spared attached
  exact ⟨spares.trans attached, stays.own, stays.observers⟩

theorem retire (apart : container.Apart changeset store) (name : String) (old : Value) :
    let (next, after) := container.retire name old store
    Store.Spares changeset store after ∧ next.Apart changeset after := by
  unfold Container.retire
  cases known : container.observers.get? name with
  | none => exact ⟨.refl changeset store, apart⟩
  | some observer =>
    have retired := Store.spares_retire (apart.observers known)
    have detached := Store.spares_detach (retired.foreign (apart.observers known)) old name
    have spares := retired.trans detached
    refine ⟨spares, apart.own, fun {asked issued} held => spares.foreign ?_⟩
    by_cases same : asked = name
    · subst same
      rw [OrderedMap.get?_erase_self] at held
      cases held
    · rw [OrderedMap.get?_erase_of_ne _ same] at held
      exact apart.observers held

theorem markDirty (apart : container.Apart changeset store) (names : List String) :
    Store.Spares changeset store (container.markDirty names store) :=
  Store.spares_foldl fun _ _ _ => Store.spares_modifyChangeset apart.own _

theorem resetChanges (apart : container.Apart changeset store) :
    Store.Spares changeset store (container.resetChanges store) :=
  Store.spares_modifyChangeset apart.own _

/-- **A container stores another value under a name.** -/
theorem set (apart : container.Apart changeset store) (name : String) (value : Value) :
    Store.Spares changeset store (container.set name value store).2 := by
  have stored {middle : Container} {before : Store} (spares : Store.Spares changeset store before)
      (apart : middle.Apart changeset before) :
      let (next, after) := middle.watch name value before
      Store.Spares changeset store (next.markDirty [name] after) := by
    have watched := apart.watch name value
    generalize middle.watch name value before = answer at watched ⊢
    obtain ⟨next, after⟩ := answer
    exact (spares.trans watched.1).trans (watched.2.markDirty [name])
  unfold Container.set
  cases container.values.get? name with
  | none => exact stored (.refl changeset store) apart
  | some old =>
    cases same : old.sameNode value with
    | true =>
      simp only [same, if_true]
      exact stored (.refl changeset store) apart
    | false =>
      have retired := apart.retire name old
      simp only [same, Bool.false_eq_true, if_false]
      exact stored retired.1 retired.2

/-- **A container is asked for a value**, and stores the default value where it has none. -/
theorem get {name : String} {default : VarDefault} {owner : Owner}
    (apart : container.Apart changeset (container.prepared name default owner store)) :
    Store.Spares changeset (container.prepared name default owner store)
      (container.get name default owner store).2.2 := by
  unfold Container.get
  cases held : container.values.get? name with
  | some value =>
    rw [Container.prepared, held]
    exact .refl changeset store
  | none =>
    rw [← store_compute held] at apart ⊢
    generalize default.compute name owner store = made at apart ⊢
    obtain ⟨error | value, made⟩ := made
    · exact .refl changeset made
    · exact (apart.watch name value).1

/-- **A container is cleaned up**: observers of others on its values stay. -/
theorem cleanup (apart : container.Apart changeset store) :
    Store.Spares changeset store (container.cleanup store).2 := by
  have foreign : ∀ observer ∈ container.observers.values,
      store.observers[observer]? ≠ some (some changeset) := by
    intro observer member
    obtain ⟨_, known⟩ := (container.observers.mem_values_iff observer).mp member
    exact apart.observers known
  have detached : Store.Spares changeset store
      (Sound.detachAll container.observers.values container.values.values store) :=
    Store.spares_foldl fun value _ spares => Store.spares_foldl fun observer member more =>
      Store.spares_detachObserver ((spares.trans more).foreign (foreign observer member)) value
  have retired := detached.trans (Store.spares_foldl fun observer member more =>
    Store.spares_retire ((detached.trans more).foreign (foreign observer member)))
  exact retired.trans (Store.spares_modifyChangeset apart.own _)

theorem drop (apart : container.Apart changeset store) :
    Store.Spares changeset store (container.drop store) := by
  simp only [Container.drop]
  split
  · exact Store.spares_dropChangeset apart.own
  · exact apart.cleanup.trans (Store.spares_dropChangeset apart.own)

end Container.Apart

theorem Booked.apart_of_ne {store : Store} {ledger : Ledger} {place other : Nat}
    {container : Container} {account : Account} (booked : Booked store ledger)
    (found : ledger place = some container.account) (there : ledger other = some account)
    (ne : other ≠ place) : container.Apart account.changeset store where
  own same := ne (booked.apart there found same.symm)
  observers known marks := by
    have own := (booked.issued found known).symm.trans marks
    exact ne (booked.apart there found (Option.some.inj (Option.some.inj own)).symm)

/-! ### Acts -/

namespace Act

/-- The place of the container that an act is done to. -/
def place? : Act → Option Nat
  | new place | get place _ _ _ | set place _ _ | peek place _ | observer place _
  | markDirty place _ | resetChanges place | cleanup place | drop place => some place
  | perform _ => none

/-- What an act does to the container at its place, and to the store. -/
def does (act : Act) (container : Container) (store : Store) : Option Container × Store :=
  match act with
  | get _ name default owner =>
    let (_, next, after) := container.get name default owner store
    (some next, after)
  | set _ name value =>
    let (next, after) := container.set name value store
    (some next, after)
  | observer _ name =>
    let (_, next, after) := container.observer name store
    (some next, after)
  | markDirty _ names => (some container, container.markDirty names store)
  | resetChanges _ => (some container, container.resetChanges store)
  | cleanup _ =>
    let (next, after) := container.cleanup store
    (some next, after)
  | drop _ => (none, container.drop store)
  | new _ | peek _ _ | perform _ => (some container, store)

/-- The store once the code for a default value has run, where an act has to make one. -/
def prepared (act : Act) (before : Workspace) : Store :=
  match act with
  | get place name default owner =>
    match before.containers place with
    | some container => container.prepared name default owner before.store
    | none => before.store
  | _ => before.store

end Act

/-- Code for a default value issues and retires no observer. -/
theorem Act.flows_prepared (act : Act) (before : Workspace) :
    ∃ flow, Store.Flows flow before.store (act.prepared before) := by
  unfold Act.prepared
  split
  · split
    · exact ReactiveView.flows_prepared ..
    · exact ⟨_, .refl _⟩
  · exact ⟨_, .refl _⟩

section

variable {workspace : Workspace} {act : Act} {place other : Nat} {changeset : ChangesetId}
  {container : Container}

/-- **An act on a place where a container is** does to this container what it does. -/
theorem step_of_some (on : act.place? = some place)
    (found : workspace.containers place = some container) :
    workspace.step act = ⟨(act.does container workspace.store).2,
      Function.update workspace.containers place (act.does container workspace.store).1⟩ := by
  have same : Function.update workspace.containers place (some container) =
      workspace.containers := by
    rw [← found, Function.update_eq_self]
  cases act with
  | new =>
    cases on
    rw [Workspace.step, Workspace.newContainer, found]
    exact congrArg (Workspace.mk workspace.store) same.symm
  | peek =>
    cases on
    exact congrArg (Workspace.mk workspace.store) same.symm
  | perform => cases on
  | _ =>
    cases on
    rw [Workspace.step, onContainer_of_some found]
    rfl

/-- An act on a place where no container is does nothing, or makes one. -/
theorem step_of_none (on : act.place? = some place) (free : workspace.containers place = none) :
    workspace.step act = workspace ∨
      workspace.step act = ⟨workspace.store.newChangeset.2, Function.update workspace.containers place
        (some ⟨OrderedMap.empty, workspace.store.changesets.size, OrderedMap.empty⟩)⟩ := by
  cases act with
  | new =>
    cases on
    rw [Workspace.step, Workspace.newContainer, free]
    exact Or.inr rfl
  | peek => exact Or.inl rfl
  | perform => cases on
  | _ =>
    cases on
    rw [Workspace.step, onContainer_of_none free]
    exact Or.inl rfl

/-- Where no container is, no code for a default value has to run. -/
theorem prepared_of_none (on : act.place? = some place)
    (free : workspace.containers place = none) : act.prepared workspace = workspace.store := by
  cases act with
  | get =>
    cases on
    simp only [Act.prepared, free]
  | _ => rfl

/--
**What is done to a container that has nothing to do with a changeset spares the changeset**, from
when the code for a default value has run.
-/
theorem spares_of_apart (on : act.place? = some place)
    (inside : changeset < workspace.store.changesets.size)
    (apart : ∀ {mine}, workspace.containers place = some mine →
      mine.Apart changeset workspace.store) :
    Store.Spares changeset (act.prepared workspace) (workspace.step act).store := by
  cases here : workspace.containers place with
  | none =>
    rw [prepared_of_none on here]
    rcases step_of_none on here with idle | new
    · rw [idle]
      exact .refl _ _
    · rw [new]
      exact Store.spares_newChangeset inside
  | some mine =>
    have apart := apart here
    rw [step_of_some on here]
    cases act with
    | get _ name default owner =>
      cases on
      obtain ⟨_, flows⟩ := flows_prepared mine name default owner workspace.store
      simp only [Act.prepared, here]
      refine Container.Apart.get ⟨apart.own, fun known => ?_⟩
      rw [flows.observers]
      exact apart.observers known
    | set _ name value => exact apart.set name value
    | observer _ name => exact (apart.observer name).1
    | markDirty _ names => exact apart.markDirty names
    | resetChanges => exact apart.resetChanges
    | cleanup => exact apart.cleanup
    | drop => exact apart.drop
    | new | peek | perform => exact .refl _ _

/-- An act on one container leaves the others where they are. -/
theorem containers_step_of_ne (on : act.place? = some place) (ne : other ≠ place) :
    (workspace.step act).containers other = workspace.containers other := by
  cases here : workspace.containers place with
  | none =>
    rcases step_of_none on here with idle | new
    · rw [idle]
    · rw [new]
      exact Function.update_of_ne ne ..
  | some =>
    rw [step_of_some on here]
    exact Function.update_of_ne ne ..

/-- **What is done to a container spares the others.** -/
theorem spares_step (booked : Booked workspace.store workspace.ledger)
    (on : act.place? = some place) (ne : other ≠ place)
    (found : workspace.containers other = some container) :
    Store.Spares container.changeset (act.prepared workspace) (workspace.step act).store :=
  have there := ledger_of_some found
  spares_of_apart on (booked.lt_of_there there) fun here =>
    booked.apart_of_ne (ledger_of_some here) there ne

end

end ReactiveView
