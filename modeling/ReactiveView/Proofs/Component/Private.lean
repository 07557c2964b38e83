/-
**Code that has to do with its own component only.**

Such code is run in two sessions, in one of which other code has been run before that had to do with other
nodes. It does the same in both: it gets the same answers, gives its component the same values, marks the
same names, and ends with the same result.

* `Beside` — two runs of such code.
* `Beside.upheld`, `Beside.answer` — they stay side by side, whatever the code does and asks.
* `ActionCode.Own.beside_run` — the whole run.
-/

import ReactiveView.Proofs.Component.Uniform
import ReactiveView.Proofs.Container.Accounts
import ReactiveView.Proofs.Container.Crossing
import ReactiveView.Proofs.Data.Entries

namespace ReactiveView

open Render

/-! ### Handles of paired values -/

section

variable {pairing : Pairing} {left right : Store} {value other old older : Value} {first second : Ref}

/-- A value is the handle of a node exactly if the other value is one of the node that stands for it. -/
theorem Value.Paired.ref?_iff (values : value.Paired pairing other)
    (stores : Store.Paired pairing left right) (refs : pairing first second) :
    value.ref? = some first ↔ other.ref? = some second := by
  cases values with
  | scalar plain => simp [plain]
  | list pair | map pair | record pair =>
    simp only [Value.ref?, Option.some.injEq]
    exact stores.one pair refs

theorem Value.Paired.sameNode_eq (olds : old.Paired pairing older) (values : value.Paired pairing other)
    (stores : Store.Paired pairing left right) : old.sameNode value = older.sameNode other := by
  cases olds with
  | scalar plain => cases old <;> cases plain <;> rfl
  | list pair | map pair | record pair =>
    cases values with
    | scalar plain => cases value <;> cases plain <;> rfl
    | list refs | map refs | record refs => first | rfl | exact stores.beq_eq pair refs

end

/-! ### Two runs -/

variable {reach : Ref → Prop} {start other : Store} {shared : Container}
  {rest others : List Container} {definition : ComponentDef} {owner : Owner}
  {identity opposite : OrderedMap String Value}

/-- **Two runs of code that has to do with its own component only**, from two beginnings that are the same as
far as it reaches. -/
structure Beside (reach : Ref → Prop) (start other : Store) (shared : Container)
    (rest others : List Container) (pairing : Pairing) (l r : ActionState × Store) : Prop where
  stores : Store.Parallel reach start other pairing l.2 r.2
  values : l.1.reached.own.values.Resembles pairing r.1.reached.own.values
  changeset : r.1.reached.own.changeset = l.1.reached.own.changeset
  sharedLeft : l.1.reached.shared = shared
  sharedRight : r.1.reached.shared = shared
  variant : r.1.variant = l.1.variant
  enrolledLeft : Enrolled (l.1.reached.own :: rest) l.2
  enrolledRight : Enrolled (r.1.reached.own :: others) r.2

namespace Beside

variable {pairing larger : Pairing} {l r : ActionState × Store} {after afterwards : Store}

/-- The stores change, and nothing else. -/
theorem onStores (beside : Beside reach start other shared rest others pairing l r)
    (stores : Store.Parallel reach start other larger after afterwards) (le : pairing ≤ larger)
    {flow flow' : Flow} (here : Store.Flows flow l.2 after) (there : Store.Flows flow' r.2 afterwards) :
    Beside reach start other shared rest others larger (l.1, after) (r.1, afterwards) :=
  { beside with
    stores
    values := beside.values.mono le
    enrolledLeft := beside.enrolledLeft.flow here
    enrolledRight := beside.enrolledRight.flow there }

/-- **Two such runs stay side by side**, whatever the code does to values. -/
theorem upheld : Upheld False (Beside reach start other shared rest others) where
  paired beside := beside.stores.paired
  make {pairing l r content opposed} beside contents := by
    have none (store : Store) (content : Content) :
        Store.Flows (fun source ref => False ∧ ref = store.nodes.size) store
          (store.make content).2 := (store.flows_make content).congr (by simp [Flow.still])
    exact beside.onStores (beside.stores.newNode contents (none _ _) (none _ _) (by simp))
      (pairing.le_add _ _) (none _ _) (none _ _)
  derive {pairing l r first second content opposed} beside refs contents := by
    have here := Store.flows_derive l.2 first content
    have there := Store.flows_derive r.2 second opposed
    refine beside.onStores (beside.stores.newNode contents here there fun clean => ?_)
      (pairing.le_add _ _) here there
    simp only [exists_eq_left]
    exact beside.stores.watches refs clean
  inherit {pairing l r first second value opposed} beside refs values := by
    have stores := beside.stores.paired
    refine beside.onStores (beside.stores.rewatched (Store.rewatched_inherit ..)
      (Store.rewatched_inherit ..) ?_ ?_ ?_ Iff.rfl) le_rfl (Store.flows_inherit ..)
      (Store.flows_inherit ..)
    · exact fun gained => values.refLeft gained.1
    · exact fun gained => values.refRight gained.1
    · intro source target pair changeset name clean
      rw [values.ref?_iff stores pair, beside.stores.watches refs clean]
      simp [(stores.finiteLeft pair).inside, (stores.finiteRight pair).inside]
  mutate beside refs contents self :=
    beside.onStores (beside.stores.mutate refs contents self) le_rfl (Store.flows_mutate ..)
      (Store.flows_mutate ..)
  kept := False.elim
  keep := False.elim

/-! ### Answers -/

variable (beside : Beside reach start other shared rest others pairing l r)
include beside

/-- **The container of the component changes** what it watches, in the same way on both sides. -/
theorem onOwn {own against : Container} {gains gains' : ChangesetId → String → Ref → Prop}
    {loses loses' marks : Marks} (here : Store.Rewatched gains loses marks l.2 after)
    (there : Store.Rewatched gains' loses' marks r.2 afterwards)
    (within : ∀ {changeset name ref}, gains changeset name ref → ∃ other, pairing ref other)
    (within' : ∀ {changeset name ref}, gains' changeset name ref → ∃ other, pairing other ref)
    (gained : ∀ {first second}, pairing first second → ∀ {changeset name},
      gains changeset name first ↔ gains' changeset name second)
    (lost : ∀ {changeset name}, loses changeset name ↔ loses' changeset name)
    (values : own.values.Resembles pairing against.values)
    (changeset : against.changeset = own.changeset)
    (enrolledLeft : Enrolled (own :: rest) after) (enrolledRight : Enrolled (against :: others) afterwards) :
    Beside reach start other shared rest others pairing
      ({ l.1 with reached := { l.1.reached with own } }, after)
      ({ r.1 with reached := { r.1.reached with own := against } }, afterwards) :=
  { beside with
    stores := beside.stores.rewatched here there within within' (fun refs _ _ _ => gained refs) lost
    values, changeset, enrolledLeft, enrolledRight }

/-- Names of the component are marked. -/
theorem markDirty (names : List String) :
    Beside reach start other shared rest others pairing
      (l.1, l.1.reached.own.markDirty names l.2) (r.1, r.1.reached.own.markDirty names r.2) := by
  have here := Container.rewatched_markDirty beside.enrolledLeft List.mem_cons_self names
  have there := Container.rewatched_markDirty beside.enrolledRight List.mem_cons_self names
  rw [beside.changeset] at there
  exact beside.onOwn here there False.elim False.elim (by simp) Iff.rfl beside.values beside.changeset
    (beside.enrolledLeft.markDirty _ _) (beside.enrolledRight.markDirty _ _)

/-- The node of a value is watched on both sides. -/
theorem gained_iff {value opposed : Value} (paired : value.Paired pairing opposed)
    {first second : Ref} (refs : pairing first second) {changeset : ChangesetId} {asked : String}
    (name : String) (own : ChangesetId) :
    (changeset = own ∧ asked = name ∧ value.ref? = some first ∧ first < l.2.nodes.size) ↔
      (changeset = own ∧ asked = name ∧ opposed.ref? = some second ∧ second < r.2.nodes.size) := by
  have stores := beside.stores.paired
  rw [paired.ref?_iff stores refs]
  simp [(stores.finiteLeft refs).inside, (stores.finiteRight refs).inside]

/-- A variable of the component is given its default. -/
theorem watch {value opposed : Value} (paired : value.Paired pairing opposed) (name : String) :
    Beside reach start other shared rest others pairing
      ({ l.1 with reached := { l.1.reached with own := (l.1.reached.own.watch name value l.2).1 } },
        (l.1.reached.own.watch name value l.2).2)
      ({ r.1 with reached := { r.1.reached with own := (r.1.reached.own.watch name opposed r.2).1 } },
        (r.1.reached.own.watch name opposed r.2).2) := by
  have here := Container.rewatched_watch beside.enrolledLeft name value
  have there := Container.rewatched_watch beside.enrolledRight name opposed
  rw [beside.changeset] at there
  refine beside.onOwn here there (fun gained => paired.refLeft gained.2.2.1)
    (fun gained => paired.refRight gained.2.2.1) (fun refs _ _ => beside.gained_iff paired refs name _)
    Iff.rfl ?_ ?_ (beside.enrolledLeft.watch name value).1 (beside.enrolledRight.watch name opposed).1
  · simp only [Container.values_watch]
    exact beside.values.insert paired name
  · rw [Container.changeset_watch, Container.changeset_watch, beside.changeset]

/-- **A variable of the component is assigned.** -/
theorem set {value opposed : Value} (paired : value.Paired pairing opposed) (name : String) :
    Beside reach start other shared rest others pairing
      ({ l.1 with reached := { l.1.reached with own := (l.1.reached.own.set name value l.2).1 } },
        (l.1.reached.own.set name value l.2).2)
      ({ r.1 with reached := { r.1.reached with own := (r.1.reached.own.set name opposed r.2).1 } },
        (r.1.reached.own.set name opposed r.2).2) := by
  have here := Container.rewatched_set beside.enrolledLeft name value
  have there := Container.rewatched_set beside.enrolledRight name opposed
  rw [beside.changeset] at there
  refine beside.onOwn here there (fun gained => paired.refLeft gained.2.2.1)
    (fun gained => paired.refRight gained.2.2.1) (fun refs _ _ => beside.gained_iff paired refs name _)
    ?_ ?_ ?_ (beside.enrolledLeft.set name value).1 (beside.enrolledRight.set name opposed).1
  · have olds := beside.values name
    intro changeset asked
    generalize l.1.reached.own.values.get? name = old,
      r.1.reached.own.values.get? name = older at olds ⊢
    cases olds with
    | none => simp
    | some olds => simp [olds.sameNode_eq paired beside.stores.paired]
  · simp only [Container.values_set]
    exact beside.values.insert paired name
  · rw [(Container.set_frame ..).1.changeset, (Container.set_frame ..).1.changeset, beside.changeset]

/-- **A variable of the component is read**: it has a value on both sides, or is given its default. -/
theorem get {default : VarDefault} (fresh : default.Uniform False) (name : String) :
    AnswerAlike (Beside reach start other shared rest others) pairing Value.Paired
      ((l.1.reached.own.get name default owner l.2).1,
        { l.1 with
          reached := { l.1.reached with own := (l.1.reached.own.get name default owner l.2).2.1 } },
        (l.1.reached.own.get name default owner l.2).2.2)
      ((r.1.reached.own.get name default owner r.2).1,
        { r.1 with
          reached := { r.1.reached with own := (r.1.reached.own.get name default owner r.2).2.1 } },
        (r.1.reached.own.get name default owner r.2).2.2) := by
  have has := beside.values name
  have made := fresh upheld name owner beside
  unfold Container.get
  generalize l.1.reached.own.values.get? name = found,
    r.1.reached.own.values.get? name = known at has ⊢
  cases has with
  | some values => exact ⟨pairing, le_rfl, beside, .ok values⟩
  | none =>
    obtain ⟨larger, le, beside, results⟩ := made
    simp only [inWorld] at beside results ⊢
    generalize default.compute name owner l.2 = made, default.compute name owner r.2 = built
      at beside results ⊢
    obtain ⟨result, made⟩ := made
    obtain ⟨outcome, built⟩ := built
    cases results with
    | error error => exact ⟨larger, le, beside, .error error⟩
    | ok values => exact ⟨larger, le, beside.watch values name, .ok values⟩

omit beside in
/-- Names are marked, up to the first that the component does not declare. -/
theorem markDirty_names {names : List String}
    (beside : Beside reach start other shared rest others pairing l r)
    (own : ∀ name ∈ names, definition.isShared name = false) :
    Beside reach start other shared rest others pairing
        (l.1, (l.1.reached.markDirty definition names l.2).2)
        (r.1, (r.1.reached.markDirty definition names r.2).2) ∧
      (l.1.reached.markDirty definition names l.2).1 =
        (r.1.reached.markDirty definition names r.2).1 := by
  obtain ⟨state, store⟩ := l
  obtain ⟨opposed, against⟩ := r
  induction names generalizing store against with
  | nil => exact ⟨beside, rfl⟩
  | cons name names ih =>
    have more := fun name member => own name (List.mem_cons_of_mem _ member)
    unfold Variables.markDirty Variables.markOne
    rw [own name List.mem_cons_self]
    cases definition.isReactive name || name == Template.componentName with
    | true => exact ih more _ _ (beside.markDirty [name])
    | false => exact ⟨beside, rfl⟩

omit beside in
/-- **Two such runs get the same answers.** -/
theorem answer (fresh : ∀ {name default}, definition.declared.reactive.get? name = some default →
      default.Uniform False) {question opposed : ActionQuestion}
    (beside : Beside reach start other shared rest others pairing l r)
    (asks : ActionQuestion.Own definition pairing question opposed) :
    AnswerAlike (Beside reach start other shared rest others) pairing Value.Paired
      (question.answer definition owner identity l.1 l.2)
      (opposed.answer definition owner identity r.1 r.2) := by
  have unit {done : Except Error Unit} :
      AlikeResult (Value.Paired pairing) (unitAnswer done) (unitAnswer done) := by
    cases done with
    | ok _ => exact .ok (.scalar rfl)
    | error error => exact .error error
  cases asks with
  | @get name own =>
    have foreign : definition.declared.shared.get? name = none := by
      simpa [ComponentDef.isShared, OrderedMap.contains] using own
    simp only [ActionQuestion.answer, Variables.read, Variables.read?, foreign]
    cases declared : definition.declared.reactive.get? name with
    | none => exact ⟨pairing, le_rfl, beside, .error _⟩
    | some default => exact beside.get (fresh declared) name
  | @set name value opposed own values =>
    simp only [ActionQuestion.answer, Variables.write, own]
    cases definition.isReactive name with
    | false => exact ⟨pairing, le_rfl, beside, .error _⟩
    | true => exact ⟨pairing, le_rfl, beside.set values name, .ok (.scalar rfl)⟩
  | @markDirty names own =>
    obtain ⟨marked, same⟩ := beside.markDirty_names own
    refine ⟨pairing, le_rfl, marked, ?_⟩
    simp only [ActionQuestion.answer, same]
    exact unit
  | touch => exact ⟨pairing, le_rfl, beside.markDirty _, .ok (.scalar rfl)⟩
  | variant =>
    refine ⟨pairing, le_rfl, beside, .ok ?_⟩
    rw [beside.variant]
    exact .scalar rfl
  | setVariant chosen =>
    simp only [ActionQuestion.answer, beside.variant]
    cases definition.template chosen with
    | error error => exact ⟨pairing, le_rfl, beside, .error error⟩
    | ok template =>
      dsimp only
      split
      · exact ⟨pairing, le_rfl, beside, .ok (.scalar rfl)⟩
      · have touched := beside.markDirty [Template.componentName]
        exact ⟨pairing, le_rfl, { touched with variant := rfl }, .ok (.scalar rfl)⟩

end Beside

end ReactiveView
