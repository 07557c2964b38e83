/-
**Code that changes values with care.**

The code of an action changes variables by assigning them, and by writing to nodes in place. A write to a
node is noticed by the variables that the code has read the node out of. So code is careful if it has read
the nodes that it writes to, since it began, out of every variable that holds them and is not marked yet.
Identity values are noticed by nobody: careful code leaves them as they are.

* `World.Permits` — the nodes that code may write to.
* `Program.Careful` — code that writes only to the nodes that it may write to, step after step.
* `World.Fresh.run` — careful code leaves everything fresh but for what is pending.
-/

import ReactiveView.Proofs.Session.Changes

namespace ReactiveView

/-- An answer that gives the value of a variable reads it. -/
def ReadOut.asked (read : ReadOut) (component : Instance) :
    ActionQuestion → Except Error Value → ReadOut
  | .get name, .ok value => read.add (component.definition.site component.id name) name value
  | _, _ => read

namespace World

/-- **A node that code may write to**: it was read out of every variable that holds it and is not marked
yet, and no identity value holds it. -/
structure Permits (world : World) (store : Store) (read : ReadOut) (target : Ref) : Prop where
  reached : ∀ {site name value}, world.value? site name = some value → store.Within target value →
    world.Marks store site name ∨ read site name target
  foreign : ∀ value ∈ world.identity.values, ¬ store.Within target value

/-- The world while code of a component runs. -/
def during (world : World) (component : Instance) (state : ActionState) : World :=
  world.update { component with variant := state.variant } state.reached

end World

/-- To which nodes code may write, in which world, by what it has read since it began. -/
abbrev WriteRule := World → Store → ReadOut → Ref → Prop

/--
**Code that changes values with care**: it writes only to nodes that it may write to, by what it has read
since it began, and no variable comes to hold something that contains itself by what is written or
assigned.
-/
def Program.Careful {α : Type} (rule : WriteRule) (world : World) (component : Instance) :
    Program ActionQuestion α → ReadOut → ActionState → Store → Prop
  | .done _, _, _, _ => True
  | .look next, read, state, store => (next store).Careful rule world component read state store
  | .perform operation next, read, state, store =>
    (∀ target, operation.target? store = some target →
        rule (world.during component state) store read target ∧
          (world.during component state).Finite (operation.run store).2) ∧
      (next (operation.run store).1).Careful rule world component
        (read.along (operation.reads store)) state (operation.run store).2
  | .keep name value next, read, state, store =>
    next.Careful rule world component read state (store.keep name value)
  | .ask question next, read, state, store =>
    let answer := question.answer component.definition component.owner world.identity state store
    (∀ name value, question = .set name value → value.Finite store) ∧
      (next answer.1).Careful rule world component (read.asked component question answer.1) answer.2.1
        answer.2.2

namespace World

variable {world : World} {component : Instance} {store : Store} {read : ReadOut}
  {state : ActionState} {target : Ref}

/-- Code of a component begins with what the component reaches. -/
def begin (world : World) (component : Instance) : ActionState :=
  ⟨world.variablesOf component, component.variant⟩

/-! ### Operations -/

/-- **A node is written to** that code may write to. -/
theorem Fresh.write (fresh : world.Fresh store read) (permits : world.Permits store read target)
    {content : Content} (finite : world.Finite (store.mutate target content)) :
    world.Fresh (store.mutate target content) read := by
  obtain ⟨ledger, books, pictured⟩ := fresh
  have marks {changeset : ChangesetId} {name : String} (member : name ∈ store.marked changeset) :
      name ∈ (store.mutate target content).marked changeset :=
    Store.mem_marked_mutate.mpr (Or.inl member)
  have drifts : world.Drifts store world (store.mutate target content) :=
    ⟨.refl world, rfl, fun _ => rfl, marks⟩
  refine ⟨ledger, books.onStore (books.booked.keeps_flow (store.flows_mutate target content)) marks,
    pictured.write (store.writes_mutate target content) permits.foreign finite drifts.pending
      fun {id holder name value} there declared has within => ?_⟩
  -- the variable was marked before, or it is marked by the write
  refine pending_of_marks there declared ?_
  rcases permits.reached has within with marked | here
  · exact drifts.keepsMark marked
  · obtain ⟨container, found, _⟩ := value?_eq_some_iff.mp has
    exact ⟨container, found, books.marks_of_mutate found here content⟩

/-- **An operation is carried out**, and what it hands out counts as read. -/
theorem Fresh.perform (fresh : world.Fresh store read) (operation : Operation)
    (permits : ∀ target, operation.target? store = some target →
      world.Permits store read target ∧ world.Finite (operation.run store).2) :
    world.Fresh (operation.run store).2 (read.along (operation.reads store)) := by
  have changed : world.Fresh (operation.run store).2 read := by
    cases writes : operation.target? store with
    | some target =>
      obtain ⟨content, same⟩ := Operation.exists_mutate_of_target writes
      obtain ⟨permitted, finite⟩ := permits target writes
      rw [same] at finite ⊢
      exact fresh.write permitted finite
    | none =>
      have reads := Operation.reads_of_target writes
      exact fresh.onStore (fun _ booked => booked.keeps_reads reads) reads.extends fun member => by
        simpa only [Store.marked, reads.changesets] using member
  have marks {changeset : ChangesetId} {name : String} (member : name ∈ store.marked changeset) :
      name ∈ (operation.run store).2.marked changeset := by
    cases writes : operation.target? store with
    | some target =>
      obtain ⟨content, same⟩ := Operation.exists_mutate_of_target writes
      rw [same]
      exact Store.mem_marked_mutate.mpr (Or.inl member)
    | none =>
      have reads := Operation.reads_of_target writes
      simpa only [Store.marked, reads.changesets] using member
  obtain ⟨_, books, _⟩ := fresh
  obtain ⟨_, _, pictured⟩ := changed
  exact ⟨_, books.along (flows_run operation store) marks, pictured⟩

/-! ### Answers -/

/-- Marks come. -/
theorem Fresh.mark (fresh : world.Fresh store read) (container : Container) (names : List String) :
    world.Fresh (container.markDirty names store) read :=
  have frame := Container.markDirty_frame container names store
  fresh.onStore (fun _ booked => booked.keeps_markDirty container names) frame.lasts frame.marks

/-- The value of a variable was read. -/
theorem Fresh.add (fresh : world.Fresh store read) {site : Site} {name : String} {value : Value}
    (has : world.value? site name = some value) : world.Fresh store (read.add site name value) := by
  obtain ⟨ledger, books, pictured⟩ := fresh
  exact ⟨ledger, books.add has, pictured⟩

/-- **A component turns to another variant**, and is marked itself. -/
theorem Fresh.turn {reached : Variables} (fresh : (world.update component reached).Fresh store read)
    (variant : String) :
    (world.update { component with variant } reached).Fresh (reached.touch store) read := by
  obtain ⟨ledger, books, pictured⟩ := fresh.mark reached.own [Template.componentName]
  have places (site : Site) : (world.update { component with variant } reached).container? site =
      (world.update component reached).container? site := by
    rw [container?_update, container?_update]
  have own : (world.update component reached).container? (some component.id) = some reached.own := by
    rw [container?_update, if_neg (Option.some_ne_none _), if_pos rfl]
  have stands : (world.update component reached).Stands
      (world.update { component with variant } reached) := stands_update rfl
  have drifts : (world.update component reached).Drifts (reached.touch store)
      (world.update { component with variant } reached) (reached.touch store) :=
    ⟨stands, rfl, fun site => by rw [places], id⟩
  have marked : Template.componentName ∈ reached.own.changes (reached.touch store) := by
    obtain ⟨_, earlier, _⟩ := fresh
    exact Container.mem_marked_markDirty.mpr (Or.inr ⟨List.mem_singleton_self _, rfl,
      earlier.booked.there (earlier.entered own)⟩)
  have values (site : Site) (name : String) :
      (world.update { component with variant } reached).value? site name =
        (world.update component reached).value? site name := by
    unfold value?
    rw [places]
  refine ⟨ledger, books.of_places places, pictured.change stands rfl (.refl _) drifts.pending
    (fun {id old new} found there => ?_) (fun _ _ _ => values _ _) fun {site name value} has => ?_⟩
  · by_cases here : id = component.id
    · subst here
      exact Or.inr (pending_of_own ⟨reached.own, (places _).trans own, marked⟩).2
    · rw [get?_update, if_neg here] at found there
      cases found.symm.trans there
      exact Or.inl rfl
  · exact Or.inl (values site name ▸ has)

/-- Declared names are marked, up to the first that is not declared. -/
theorem Fresh.markDirty {reached : Variables} (fresh : world.Fresh store read)
    (definition : ComponentDef) (names : List String) :
    world.Fresh (reached.markDirty definition names store).2 read := by
  induction names generalizing store with
  | nil => exact fresh
  | cons name rest ih =>
    have one : world.Fresh (reached.markOne definition name store).2 read := by
      unfold Variables.markOne
      split
      · exact fresh.mark reached.shared [name]
      · split
        · exact fresh.mark reached.own [name]
        · exact fresh
    unfold Variables.markDirty
    generalize reached.markOne definition name store = answer at one ⊢
    obtain ⟨error | value, stored⟩ := answer
    · exact one
    · exact ih one

/-- **A variable is read**: it is given its default if it has no value yet. -/
theorem Fresh.get {reached : Variables} (steady : component.definition.Steady)
    (fresh : (world.update component reached).Fresh store read) (name : String) :
    let answer := reached.read component.definition component.owner name store
    (world.update component answer.2.1).Fresh answer.2.2
      (read.asked component (.get name) answer.1) := by
  cases found : component.definition.default? name with
  | none =>
    have undeclared : component.definition.declares name = false := by
      rw [component.definition.declares_eq, found]
      rfl
    rw [Variables.read_of_undeclared undeclared]
    exact fresh
  | some default =>
    have declared : component.definition.declares name = true := by
      rw [component.definition.declares_eq, found]
      rfl
    cases has : Variables.known component.definition reached name with
    | some value =>
      rw [Variables.read_of_known declared has]
      exact fresh.add ((value?_holder ..).trans ((Variables.known_eq ..).symm.trans has))
    | none =>
      have determined := steady.defaults found
      obtain ⟨_, value, _, stage, _, made, _⟩ := determined name component.owner store store
      rw [Variables.read_of_unknown found has made]
      refine (fresh.default determined has made).add ?_
      rw [Variables.watch_eq, value?_hold_of_insert (Container.values_watch ..)]
      exact if_pos ⟨rfl, rfl⟩

/-- **A question of code is answered.** -/
theorem Fresh.answer (steady : component.definition.Steady)
    (fresh : (world.during component state).Fresh store read) (question : ActionQuestion)
    (finite : ∀ name value, question = .set name value → value.Finite store) :
    let answer := question.answer component.definition component.owner world.identity state store
    (world.during component answer.2.1).Fresh answer.2.2 (read.asked component question answer.1) := by
  cases question with
  | get name =>
    exact @Fresh.get world { component with variant := state.variant } store read state.reached steady
      fresh name
  | set name value =>
    cases declared : component.definition.declares name with
    | true =>
      exact @Fresh.assign world { component with variant := state.variant } state.reached name value
        store read fresh declared (finite name value rfl)
    | false =>
      have absent : component.definition.isReactive name = false ∧
          component.definition.isShared name = false := by
        simpa [ComponentDef.declares] using declared
      simp only [ActionQuestion.answer, Variables.write, absent, Bool.false_eq_true, if_false]
      exact fresh
  | markDirty names => exact Fresh.markDirty fresh component.definition names
  | touch => exact fresh.mark state.reached.own [Template.componentName]
  | variant => exact fresh
  | identity name => exact fresh
  | setVariant chosen =>
    simp only [ActionQuestion.answer]
    split
    · exact fresh
    · split
      · exact fresh
      · exact @Fresh.turn world { component with variant := state.variant } store read state.reached
          fresh chosen

/-! ### Code -/

/-- **Careful code leaves everything fresh**, but for what is pending. -/
theorem Fresh.run {α : Type} (steady : component.definition.Steady)
    (program : Program ActionQuestion α) (fresh : (world.during component state).Fresh store read)
    (careful : program.Careful World.Permits world component read state store) :
    let (_, last, stored) := program.run
      (ActionQuestion.answer component.definition component.owner world.identity) state store
    ∃ read, (world.during component last).Fresh stored read := by
  induction program generalizing read state store with
  | done result => exact ⟨read, fresh⟩
  | look next ih => exact ih store fresh careful
  | perform operation next ih =>
    obtain ⟨permits, careful⟩ := careful
    exact ih _ (fresh.perform operation permits) careful
  | keep name value next ih =>
    refine ih (fresh.onStore (fun ledger booked => ?_) (Store.extends_of_nodes rfl) id) careful
    exact ⟨booked.of_same rfl (fun _ => rfl) rfl, fun watching _ => watching⟩
  | ask question next ih =>
    obtain ⟨finite, careful⟩ := careful
    exact ih _ (fresh.answer steady question finite) careful

end World

end ReactiveView
