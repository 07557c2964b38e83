/-
**How bindings flow from node to node.**

Whatever is done to tracked values, no observer is issued or retired by it and no changeset comes or
goes. Bindings only flow from a node to what is read out of it. A write takes off dead bindings, which
no longer mark anything, so for an observer that is alive the bindings afterwards are those before
and those that have flowed.

* `Store.Flows.andThen` — one change after another.
* `flows_inheritAll`, `flows_derive`, `flows_mutate` — reading, making a node, writing.
* `mem_marked_mutate` — the names that a write marks.
* `Store.Reads` — a store that grows, and in which bindings are at most added.
* `Store.Peruses` — and those that are added come from other nodes.
-/

import ReactiveView.Proofs.Tracked.Growth

namespace ReactiveView

/-- From which node bindings flow to which. -/
abbrev Flow := Ref → Ref → Prop

/-- Nothing flows. -/
def Flow.still : Flow := fun _ _ => False

/-- What flows in two changes, one after the other. -/
def Flow.andThen (first second : Flow) : Flow := fun source ref =>
  first source ref ∨ second source ref ∨ ∃ middle, first source middle ∧ second middle ref

namespace Store

/-- Whether the container of a changeset is still there. -/
def isThere (store : Store) (changeset : ChangesetId) : Bool :=
  (store.changesets[changeset]?.getD none).isSome

theorem isAlive_iff {store : Store} {observer : ObserverId} :
    store.isAlive observer = true ↔
      ∃ changeset, store.observers[observer]? = some (some changeset) ∧
        store.isThere changeset = true := by
  unfold isAlive isThere
  split
  · next changeset found => simp [found]
  · next other =>
    simp only [Bool.false_eq_true, false_iff, not_exists, not_and]
    exact fun changeset found => absurd found (other changeset)

/-- **What flows in a change** that issues and retires nobody. -/
structure Flows (flow : Flow) (before after : Store) : Prop where
  observers : after.observers = before.observers
  there : ∀ changeset, after.isThere changeset = before.isThere changeset
  changesets : after.changesets.size = before.changesets.size
  alive : ∀ {binding : Binding}, before.isAlive binding.observer = true → ∀ {ref : Ref},
    binding ∈ after.bindings ref ↔
      binding ∈ before.bindings ref ∨ ∃ source, flow source ref ∧ binding ∈ before.bindings source
  /-- No binding comes from nowhere, whether or not its observer is alive. -/
  origin : ∀ {binding : Binding} {ref : Ref}, binding ∈ after.bindings ref →
    ∃ source, binding ∈ before.bindings source

variable {before after later store : Store} {flow more : Flow} {binding : Binding} {ref : Ref}

theorem Flows.isAlive (flows : Flows flow before after) (observer : ObserverId) :
    after.isAlive observer = before.isAlive observer := by
  rw [Bool.eq_iff_iff, isAlive_iff, isAlive_iff, flows.observers]
  simp only [flows.there]

theorem Flows.refl (store : Store) : Flows .still store store :=
  ⟨rfl, fun _ => rfl, rfl, fun _ _ => by simp [Flow.still], fun member => ⟨_, member⟩⟩

theorem Flows.andThen (first : Flows flow before after) (second : Flows more after later) :
    Flows (flow.andThen more) before later where
  observers := second.observers.trans first.observers
  there changeset := (second.there changeset).trans (first.there changeset)
  changesets := second.changesets.trans first.changesets
  alive {binding} alive ref := by
    have still : after.isAlive binding.observer = true := (first.isAlive _).trans alive
    rw [second.alive still, first.alive alive]
    constructor
    · rintro ((old | ⟨source, flowed, member⟩) | ⟨middle, flowed, member⟩)
      · exact Or.inl old
      · exact Or.inr ⟨source, Or.inl flowed, member⟩
      · rcases (first.alive alive).mp member with old | ⟨source, earlier, member⟩
        · exact Or.inr ⟨middle, Or.inr (Or.inl flowed), old⟩
        · exact Or.inr ⟨source, Or.inr (Or.inr ⟨middle, earlier, flowed⟩), member⟩
    · rintro (old | ⟨source, early | late | ⟨middle, early, late⟩, member⟩)
      · exact Or.inl (Or.inl old)
      · exact Or.inl (Or.inr ⟨source, early, member⟩)
      · exact Or.inr ⟨source, late, (first.alive alive).mpr (Or.inl member)⟩
      · exact Or.inr ⟨middle, late, (first.alive alive).mpr (Or.inr ⟨source, early, member⟩)⟩
  origin member := by
    obtain ⟨middle, member⟩ := second.origin member
    exact first.origin member

theorem Flows.still_trans (first : Flows .still before after) (second : Flows .still after later) :
    Flows .still before later := by
  have none : Flow.still.andThen Flow.still = .still :=
    funext fun _ => funext fun _ => propext (by simp [Flow.andThen, Flow.still])
  exact none ▸ first.andThen second

/-- A change flows as well as any other flow that goes between the same nodes. -/
theorem Flows.congr (flows : Flows flow before after)
    (same : ∀ source ref, flow source ref ↔ more source ref) : Flows more before after := by
  have equal : flow = more := funext fun source => funext fun ref => propext (same source ref)
  exact equal ▸ flows

/-! ### Passing bindings on -/

theorem bindings_of_size_le (outside : store.nodes.size ≤ ref) : store.bindings ref = [] := by
  simp [bindings, Array.getElem?_eq_none outside]
  rfl

@[simp] theorem size_inherit (store : Store) (value : Value) (inherited : List Binding) :
    (store.inherit value inherited).nodes.size = store.nodes.size := by
  unfold inherit
  split <;> simp [modifyBindings]

@[simp] theorem size_inheritAll (store : Store) (values : List Value) (inherited : List Binding) :
    (store.inheritAll values inherited).nodes.size = store.nodes.size := by
  induction values generalizing store with
  | nil => rfl
  | cons first rest ih => exact (ih _).trans (size_inherit store first inherited)

theorem mem_bindings_inherit {value : Value} {inherited : List Binding} :
    binding ∈ (store.inherit value inherited).bindings ref ↔
      binding ∈ store.bindings ref ∨
        (value.ref? = some ref ∧ ref < store.nodes.size ∧ binding ∈ inherited) := by
  unfold inherit
  split
  · next own found =>
    by_cases same : ref = own
    · subst same
      by_cases inside : ref < store.nodes.size
      · rw [bindings_modifyBindings_self _ _ _ inside, mem_foldl_addBinding]
        simp [found, inside]
      · have outside : (store.modifyBindings ref fun own => inherited.foldl addBinding own).bindings
            ref = store.bindings ref := by
          rw [bindings_of_size_le (not_lt.mp inside), bindings_of_size_le]
          simpa [modifyBindings] using inside
        simp [outside, inside]
    · rw [bindings_modifyBindings_of_ne _ same]
      simp [found, Ne.symm same]
  · next none => simp [none]

theorem mem_bindings_inheritAll {values : List Value} {inherited : List Binding} :
    binding ∈ (store.inheritAll values inherited).bindings ref ↔
      binding ∈ store.bindings ref ∨
        ((∃ value ∈ values, value.ref? = some ref) ∧ ref < store.nodes.size ∧
          binding ∈ inherited) := by
  induction values generalizing store with
  | nil => simp [inheritAll]
  | cons first rest ih =>
    have step : store.inheritAll (first :: rest) inherited =
        (store.inherit first inherited).inheritAll rest inherited := rfl
    rw [step, ih, mem_bindings_inherit, size_inherit]
    simp only [List.mem_cons, exists_eq_or_imp]
    constructor
    · rintro ((old | ⟨found, inside, given⟩) | ⟨found, inside, given⟩)
      · exact Or.inl old
      · exact Or.inr ⟨Or.inl found, inside, given⟩
      · exact Or.inr ⟨Or.inr found, inside, given⟩
    · rintro (old | ⟨found | found, inside, given⟩)
      · exact Or.inl (Or.inl old)
      · exact Or.inl (Or.inr ⟨found, inside, given⟩)
      · exact Or.inr ⟨found, inside, given⟩

/-- **Values that are read out of a node** get its bindings. -/
theorem flows_inheritAll (store : Store) (values : List Value) (origin : Ref) :
    Flows (fun source ref => source = origin ∧ (∃ value ∈ values, value.ref? = some ref) ∧
        ref < store.nodes.size)
      store (store.inheritAll values (store.bindings origin)) := by
  have grows := grows_inheritAll store values (store.bindings origin)
  refine ⟨grows.observers, fun changeset => by simp only [isThere, grows.changesets],
    congrArg Array.size grows.changesets, ?_, ?_⟩
  · intro binding _ ref
    rw [mem_bindings_inheritAll]
    refine or_congr_right ⟨?_, ?_⟩
    · rintro ⟨found, inside, given⟩
      exact ⟨origin, ⟨rfl, found, inside⟩, given⟩
    · rintro ⟨source, ⟨rfl, found, inside⟩, given⟩
      exact ⟨found, inside, given⟩
  · intro binding ref member
    rcases mem_bindings_inheritAll.mp member with old | ⟨_, _, given⟩
    · exact ⟨ref, old⟩
    · exact ⟨origin, given⟩

/-- A value that is read out of a node gets its bindings. -/
theorem flows_inherit (store : Store) (value : Value) (origin : Ref) :
    Flows (fun source ref => source = origin ∧ value.ref? = some ref ∧ ref < store.nodes.size)
      store (store.inherit value (store.bindings origin)) :=
  (flows_inheritAll store [value] origin).congr fun _ _ => by simp

/-! ### New nodes -/

theorem mem_bindings_newNode {content : Content} {given : List Binding} :
    binding ∈ (store.newNode content given).2.bindings ref ↔
      binding ∈ store.bindings ref ∨ (ref = store.nodes.size ∧ binding ∈ given) := by
  by_cases same : ref = store.nodes.size
  · subst same
    have new : (store.newNode content given).2.bindings store.nodes.size = given := by
      simp [newNode, bindings]
    simp [new, bindings_of_size_le le_rfl]
  · have old : (store.newNode content given).2.bindings ref = store.bindings ref := by
      simp [newNode, bindings, Array.getElem?_push, same]
    simp [old, same]

/-- **A node made from another one** has its bindings. -/
theorem flows_derive (store : Store) (origin : Ref) (content : Content) :
    Flows (fun source ref => source = origin ∧ ref = store.nodes.size) store
      (store.derive origin content).2 := by
  refine ⟨rfl, fun _ => rfl, rfl, ?_, ?_⟩
  · intro binding _ ref
    rw [derive, mem_bindings_newNode]
    refine or_congr_right ⟨?_, ?_⟩
    · rintro ⟨rfl, given⟩
      exact ⟨origin, ⟨rfl, rfl⟩, given⟩
    · rintro ⟨source, ⟨rfl, rfl⟩, given⟩
      exact ⟨rfl, given⟩
  · intro binding ref member
    rcases mem_bindings_newNode.mp member with old | ⟨_, given⟩
    · exact ⟨ref, old⟩
    · exact ⟨origin, given⟩

/-- **A node made afresh** has no bindings. -/
theorem flows_make (store : Store) (content : Content) :
    Flows .still store (store.make content).2 := by
  refine ⟨rfl, fun _ => rfl, rfl, ?_, ?_⟩
  · intro binding _ ref
    simp [make, mem_bindings_newNode, Flow.still]
  · intro binding ref member
    rcases mem_bindings_newNode.mp member with old | ⟨_, given⟩
    · exact ⟨ref, old⟩
    · cases given

/-! ### Taking bindings off -/

theorem mem_bindings_filter {target : Ref} {keep : Binding → Bool} :
    binding ∈ (store.modifyBindings target fun own => own.filter keep).bindings ref ↔
      binding ∈ store.bindings ref ∧ (ref = target → keep binding = true) := by
  by_cases same : ref = target
  · subst same
    by_cases inside : ref < store.nodes.size
    · rw [bindings_modifyBindings_self _ _ _ inside, List.mem_filter]
      simp
    · rw [bindings_of_size_le, bindings_of_size_le (not_lt.mp inside)]
      · simp
      · simpa [modifyBindings] using inside
  · rw [bindings_modifyBindings_of_ne _ same]
    simp [same]

/-- Dead bindings may be taken off: nothing flows. -/
theorem flows_filter (store : Store) (target : Ref) {keep : Binding → Bool}
    (keeps : ∀ binding : Binding, store.isAlive binding.observer = true → keep binding = true) :
    Flows .still store (store.modifyBindings target fun own => own.filter keep) := by
  refine ⟨rfl, fun _ => rfl, rfl, fun {binding} alive ref => ?_, fun member => ?_⟩
  · rw [mem_bindings_filter]
    simp [keeps binding alive, Flow.still]
  · exact ⟨_, (mem_bindings_filter.mp member).1⟩

/-- A binding of an observer that is not alive is taken off a value. -/
theorem flows_detach {observer : ObserverId} (dead : store.isAlive observer = false) (value : Value)
    (name : String) : Flows .still store (store.detach value observer name) := by
  unfold detach
  split
  · refine flows_filter store _ fun binding alive => decide_eq_true fun same => ?_
    rw [same, dead] at alive
    cases alive
  · exact Flows.refl store

/-- An observer that is not alive is taken off a value. -/
theorem flows_detachObserver {observer : ObserverId} (dead : store.isAlive observer = false)
    (value : Value) : Flows .still store (store.detachObserver value observer) := by
  unfold detachObserver
  split
  · refine flows_filter store _ fun binding alive => decide_eq_true fun same => ?_
    rw [same, dead] at alive
    cases alive
  · exact Flows.refl store

theorem isAlive_retire (store : Store) (observer : ObserverId) :
    (store.retire observer).isAlive observer = false := by
  simp only [isAlive, retire, Array.getElem?_modify, if_true]
  cases store.observers[observer]? <;> rfl

@[simp] theorem size_detach (store : Store) (value : Value) (observer : ObserverId) (name : String) :
    (store.detach value observer name).nodes.size = store.nodes.size := by
  unfold detach
  split <;> simp [modifyBindings]

/-! ### Writing -/

theorem bindings_setContent (store : Store) (target ref : Ref) (content : Content) :
    (store.setContent target content).bindings ref = store.bindings ref := by
  by_cases same : target = ref
  · by_cases inside : ref < store.nodes.size <;>
      simp [setContent, bindings, Array.getElem_modify, same, inside]
  · simp [setContent, bindings, Array.getElem?_modify, same]

theorem nodes_notify (store : Store) (observer : ObserverId) (name : String) :
    (store.notify observer name).nodes = store.nodes := by
  unfold notify
  split <;> rfl

theorem observers_notify (store : Store) (observer : ObserverId) (name : String) :
    (store.notify observer name).observers = store.observers := by
  unfold notify
  split <;> rfl

theorem size_modifyChangeset (store : Store) (changeset : ChangesetId) (f : NameSet → NameSet) :
    (store.modifyChangeset changeset f).changesets.size = store.changesets.size := by
  simp [modifyChangeset]

theorem size_notify (store : Store) (observer : ObserverId) (name : String) :
    (store.notify observer name).changesets.size = store.changesets.size := by
  unfold notify
  split
  · exact size_modifyChangeset ..
  · rfl

theorem isThere_modifyChangeset (store : Store) (changeset other : ChangesetId)
    (f : NameSet → NameSet) :
    (store.modifyChangeset changeset f).isThere other = store.isThere other := by
  by_cases same : changeset = other
  · by_cases inside : other < store.changesets.size <;>
      simp [modifyChangeset, isThere, Array.getElem_modify, same, inside]
  · simp [modifyChangeset, isThere, Array.getElem?_modify, same]

theorem isThere_notify (store : Store) (observer : ObserverId) (name : String)
    (changeset : ChangesetId) :
    (store.notify observer name).isThere changeset = store.isThere changeset := by
  unfold notify
  split
  · exact isThere_modifyChangeset ..
  · rfl

/-- Marks come and go, and nothing flows. -/
theorem flows_modifyChangeset (store : Store) (changeset : ChangesetId) (f : NameSet → NameSet) :
    Flows .still store (store.modifyChangeset changeset f) :=
  ⟨rfl, fun other => isThere_modifyChangeset store changeset other f,
    size_modifyChangeset store changeset f,
    fun _ _ => (or_iff_left (by simp [Flow.still])).symm, fun member => ⟨_, member⟩⟩

theorem mem_marked_mark {changeset other : ChangesetId} {name asked : String} :
    asked ∈ (store.mark changeset name).marked other ↔
      asked ∈ store.marked other ∨
        (asked = name ∧ changeset = other ∧ store.isThere other = true) := by
  by_cases same : changeset = other
  · subst same
    simp only [mark, modifyChangeset, marked, isThere, Array.getElem?_modify, if_true]
    rcases store.changesets[changeset]? with _ | _ | names <;>
      simp [NameSet.mem_insert, or_comm]
  · simp [mark, modifyChangeset, marked, Array.getElem?_modify, same]

theorem mem_marked_notify {observer : ObserverId} {changeset : ChangesetId} {name asked : String} :
    asked ∈ (store.notify observer name).marked changeset ↔
      asked ∈ store.marked changeset ∨ (asked = name ∧
        store.observers[observer]? = some (some changeset) ∧ store.isThere changeset = true) := by
  unfold notify
  split
  · next own found => simp [mem_marked_mark, found]
  · next other =>
    refine (or_iff_left ?_).symm
    rintro ⟨_, found, _⟩
    exact other changeset found

theorem notifyAll_cons (store : Store) (first : Binding) (rest : List Binding) :
    store.notifyAll (first :: rest) = (store.notify first.observer first.name).notifyAll rest := rfl

/-- Marking names leaves nodes and observers alone, and whose container is there. -/
theorem notifyAll_frame (store : Store) (notified : List Binding) :
    (store.notifyAll notified).nodes = store.nodes ∧
      (store.notifyAll notified).observers = store.observers ∧
      (store.notifyAll notified).changesets.size = store.changesets.size ∧
      ∀ changeset, (store.notifyAll notified).isThere changeset = store.isThere changeset := by
  induction notified generalizing store with
  | nil => exact ⟨rfl, rfl, rfl, fun _ => rfl⟩
  | cons first rest ih =>
    obtain ⟨nodes, observers, size, there⟩ := ih (store.notify first.observer first.name)
    rw [notifyAll_cons]
    refine ⟨nodes.trans (nodes_notify ..), observers.trans (observers_notify ..),
      size.trans (size_notify ..), fun changeset => ?_⟩
    rw [there, isThere_notify]

theorem mem_marked_notifyAll {notified : List Binding} {changeset : ChangesetId} {asked : String} :
    asked ∈ (store.notifyAll notified).marked changeset ↔
      asked ∈ store.marked changeset ∨
        (store.isThere changeset = true ∧ ∃ observer, ⟨observer, asked⟩ ∈ notified ∧
          store.observers[observer]? = some (some changeset)) := by
  induction notified generalizing store with
  | nil => simp [notifyAll]
  | cons first rest ih =>
    rw [notifyAll_cons, ih, mem_marked_notify, isThere_notify, observers_notify]
    constructor
    · rintro ((old | ⟨rfl, found, there⟩) | ⟨there, observer, member, found⟩)
      · exact Or.inl old
      · exact Or.inr ⟨there, first.observer, List.mem_cons_self, found⟩
      · exact Or.inr ⟨there, observer, List.mem_cons_of_mem _ member, found⟩
    · rintro (old | ⟨there, observer, member, found⟩)
      · exact Or.inl (Or.inl old)
      · rcases List.mem_cons.mp member with rfl | member
        · exact Or.inl (Or.inr ⟨rfl, found, there⟩)
        · exact Or.inr ⟨there, observer, member, found⟩

/-- The store of a write before dead bindings are taken off. -/
private def notified (store : Store) (target : Ref) (content : Content) : Store :=
  (store.setContent target content).notifyAll ((store.setContent target content).bindings target)

private theorem isAlive_notified (store : Store) (target : Ref) (content : Content)
    (observer : ObserverId) :
    (notified store target content).isAlive observer = store.isAlive observer := by
  obtain ⟨_, observers, _, there⟩ := notifyAll_frame (store.setContent target content)
    ((store.setContent target content).bindings target)
  rw [Bool.eq_iff_iff, isAlive_iff, isAlive_iff, notified, observers]
  simp only [there]
  rfl

theorem mem_bindings_mutate {target : Ref} {content : Content} :
    binding ∈ (store.mutate target content).bindings ref ↔ binding ∈ store.bindings ref ∧
      (ref = target → store.isAlive binding.observer = true) := by
  have nodes : (notified store target content).bindings ref = store.bindings ref := by
    rw [notified, Store.bindings, (notifyAll_frame _ _).1]
    exact bindings_setContent ..
  have whole : store.mutate target content =
      (notified store target content).modifyBindings target fun own =>
        own.filter fun binding => (notified store target content).isAlive binding.observer := rfl
  rw [whole, mem_bindings_filter, nodes, isAlive_notified]

/-- **A write** takes off dead bindings, and lets nothing flow. -/
theorem flows_mutate (store : Store) (target : Ref) (content : Content) :
    Flows .still store (store.mutate target content) := by
  obtain ⟨_, observers, size, there⟩ := notifyAll_frame (store.setContent target content)
    ((store.setContent target content).bindings target)
  refine ⟨observers, there, size, fun alive ref => ?_, fun member => ?_⟩
  · rw [mem_bindings_mutate]
    simp [alive, Flow.still]
  · exact ⟨_, (mem_bindings_mutate.mp member).1⟩

/-- **The names that a write marks**: those bound to an observer that belongs to the changeset. -/
theorem mem_marked_mutate {target : Ref} {content : Content} {changeset : ChangesetId}
    {name : String} :
    name ∈ (store.mutate target content).marked changeset ↔
      name ∈ store.marked changeset ∨ (store.isThere changeset = true ∧
        ∃ observer, ⟨observer, name⟩ ∈ store.bindings target ∧
          store.observers[observer]? = some (some changeset)) := by
  have whole : (store.mutate target content).marked changeset =
      (notified store target content).marked changeset := rfl
  rw [whole, notified, mem_marked_notifyAll, bindings_setContent]
  rfl

/-! ### Reading -/

/-- **What reading does to a store**: nodes come and bindings are added, and nothing is lost. -/
structure Reads (before after : Store) : Prop extends before.Grows after where
  bindings : ∀ {ref : Ref} {binding : Binding}, binding ∈ before.bindings ref →
    binding ∈ after.bindings ref

theorem Reads.refl (store : Store) : store.Reads store := ⟨Grows.refl store, id⟩

theorem Reads.trans (first : before.Reads after) (second : after.Reads later) :
    before.Reads later :=
  ⟨first.toGrows.trans second.toGrows, fun member => second.bindings (first.bindings member)⟩

theorem reads_inherit (store : Store) (value : Value) (inherited : List Binding) :
    store.Reads (store.inherit value inherited) :=
  ⟨grows_inherit .., fun member => mem_bindings_inherit.mpr (Or.inl member)⟩

theorem reads_inheritAll (store : Store) (values : List Value) (inherited : List Binding) :
    store.Reads (store.inheritAll values inherited) :=
  ⟨grows_inheritAll .., fun member => mem_bindings_inheritAll.mpr (Or.inl member)⟩

theorem reads_newNode (store : Store) (content : Content) (bindings : List Binding) :
    store.Reads (store.newNode content bindings).2 :=
  ⟨grows_newNode .., fun member => mem_bindings_newNode.mpr (Or.inl member)⟩

/-- **What reading does to a store, and no more**: bindings only pass on from node to node. -/
structure Peruses (before after : Store) : Prop extends before.Reads after where
  origin : ∀ {binding : Binding} {ref : Ref}, binding ∈ after.bindings ref →
    ∃ source, binding ∈ before.bindings source

theorem Peruses.refl (store : Store) : store.Peruses store := ⟨.refl store, fun member => ⟨_, member⟩⟩

theorem Peruses.trans (first : before.Peruses after) (second : after.Peruses later) :
    before.Peruses later where
  toReads := first.toReads.trans second.toReads
  origin member := by
    obtain ⟨_, member⟩ := second.origin member
    exact first.origin member

theorem peruses_inherit (store : Store) (value : Value) (origin : Ref) :
    store.Peruses (store.inherit value (store.bindings origin)) :=
  ⟨reads_inherit .., (flows_inherit store value origin).origin⟩

theorem peruses_inheritAll (store : Store) (values : List Value) (origin : Ref) :
    store.Peruses (store.inheritAll values (store.bindings origin)) :=
  ⟨reads_inheritAll .., (flows_inheritAll store values origin).origin⟩

theorem peruses_derive (store : Store) (origin : Ref) (content : Content) :
    store.Peruses (store.derive origin content).2 :=
  ⟨reads_newNode .., (flows_derive store origin content).origin⟩

theorem peruses_make (store : Store) (content : Content) :
    store.Peruses (store.make content).2 := ⟨reads_newNode .., (flows_make store content).origin⟩

end Store

end ReactiveView
