/-
**Code forgets no mark.**

What code does to values, and to the variables of its component, marks names and takes no mark away: marks are
forgotten by a cycle only, when it begins and when it ends. So a name that is marked by one of the operations
that a program carries out is marked when the program is over.

* `Store.Remembers` — all that was marked is marked still.
* `Program.operations` — the operations that a program carries out.
* `Program.remembers_operations` — what one of them marks, the whole run leaves marked.
* `Variables.Continues`, `ActionQuestion.continues_run` — containers keep their changesets, and marks stay.
-/

import ReactiveView.Component.Variables
import ReactiveView.Proofs.Component.Determined
import ReactiveView.Proofs.Container.Accounts
import ReactiveView.Proofs.Tracked.Writing

namespace ReactiveView

/-! ### Stores -/

/-- **All that was marked is marked still.** -/
def Store.Remembers (before after : Store) : Prop :=
  ∀ ⦃changeset : ChangesetId⦄ ⦃name : String⦄,
    name ∈ before.marked changeset → name ∈ after.marked changeset

namespace Store.Remembers

variable {before after later : Store}

theorem refl (store : Store) : store.Remembers store := fun _ _ => id

theorem trans (first : before.Remembers after) (second : after.Remembers later) :
    before.Remembers later := fun _ _ marked => second (first marked)

theorem of_changesets (same : after.changesets = before.changesets) : before.Remembers after :=
  fun changeset name marked => by rwa [Store.marked, same]

end Store.Remembers

/-- An operation marks names, and takes no mark away. -/
theorem Operation.remembers_run (operation : Operation) (store : Store) :
    store.Remembers (operation.run store).2 := by
  cases writes : operation.target? store with
  | none => exact .of_changesets (Operation.reads_of_target writes).changesets
  | some target =>
    obtain ⟨content, same⟩ := Operation.exists_mutate_of_target writes
    intro changeset name marked
    rw [same, Store.mem_marked_mutate_iff]
    exact Or.inl marked

/-! ### Programs -/

namespace Program

variable {Question σ α : Type} {answering : Answering Question σ} {state : σ} {store : Store}

/-- **The operations that a program carries out**, in order, each with the store that it finds. -/
def operations (answering : Answering Question σ) :
    Program Question α → σ → Store → List (Operation × Store)
  | .done _, _, _ => []
  | .look next, state, store => (next store).operations answering state store
  | .perform operation next, state, store =>
    (operation, store) :: (next (operation.run store).1).operations answering state
      (operation.run store).2
  | .keep name value next, state, store => next.operations answering state (store.keep name value)
  | .ask question next, state, store =>
    let (answer, state, store) := answering question state store
    (next answer).operations answering state store

/-- **What every step of a program keeps** holds when it is over. -/
theorem run_induct {motive : σ × Store → Prop}
    (performs : ∀ {state store} (operation : Operation), motive (state, store) →
      motive (state, (operation.run store).2))
    (keeps : ∀ {state store} (name : String) (value : Value), motive (state, store) →
      motive (state, store.keep name value))
    (answers : ∀ {state store} (question : Question), motive (state, store) →
      motive (answering question state store).2)
    (program : Program Question α) (start : motive (state, store)) :
    motive (program.run answering state store).2 := by
  induction program generalizing state store with
  | done result => exact start
  | look next ih => exact ih store start
  | perform operation next ih => exact ih _ (performs operation start)
  | keep name value next ih => exact ih (keeps name value start)
  | ask question next ih => exact ih _ (answers question start)

section

variable (answers : ∀ (question : Question) (state : σ) (store : Store),
  store.Remembers (answering question state store).2.2)

include answers

/-- A program marks names, and takes no mark away. -/
theorem remembers_run (program : Program Question α) (state : σ) (store : Store) :
    store.Remembers (program.run answering state store).2.2 :=
  run_induct (motive := fun around => store.Remembers around.2)
    (fun operation sofar => sofar.trans (operation.remembers_run _))
    (fun _ _ sofar => sofar.trans (.of_changesets rfl))
    (fun question sofar => sofar.trans (answers question _ _)) program (.refl store)

/-- **What an operation of a program marks is marked when the program is over.** -/
theorem remembers_operations {program : Program Question α} {operation : Operation} {found : Store}
    (carried : (operation, found) ∈ program.operations answering state store) :
    (operation.run found).2.Remembers (program.run answering state store).2.2 := by
  induction program generalizing state store with
  | done result => cases carried
  | look next ih => exact ih store carried
  | keep name value next ih => exact ih carried
  | ask question next ih => exact ih _ carried
  | perform other next ih =>
    rcases List.mem_cons.mp carried with same | later
    · cases same
      exact remembers_run answers (next _) state _
    · exact ih _ later

end

end Program

/-! ### Containers and variables -/

/-- The code for a default marks names, and takes no mark away. -/
theorem VarDefault.remembers_compute (default : VarDefault) (name : String) (owner : Owner)
    (store : Store) : store.Remembers (default.compute name owner store).2 := by
  have alone {α : Type} (program : Program Empty α) : store.Remembers (program.runAlone store).2 :=
    Program.remembers_run (σ := Unit) (fun question => nomatch question) program () store
  cases default with
  | absent => exact .refl store
  | factory make => exact alone make
  | withOwner make => exact alone (make owner)
  | literal value =>
    unfold VarDefault.compute
    dsimp only
    split
    · exact .refl store
    · exact .of_changesets (store.reads_ofJson value).changesets

/-- A variable that is read is given its default, which leaves all marks. -/
theorem Container.remembers_get (container : Container) (name : String) (default : VarDefault)
    (owner : Owner) (store : Store) :
    (container.get name default owner store).2.1.changeset = container.changeset ∧
      store.Remembers (container.get name default owner store).2.2 := by
  unfold Container.get
  split
  · exact ⟨rfl, .refl store⟩
  · have made := default.remembers_compute name owner store
    generalize default.compute name owner store = answer at made ⊢
    obtain ⟨error | value, stored⟩ := answer
    · exact ⟨rfl, made⟩
    · exact ⟨changeset_watch .., made.trans (.of_changesets (frame_watch ..).2)⟩

namespace Variables

/-- **Variables go on**: their containers keep their changesets, and all marks stay. -/
structure Continues (before after : Variables × Store) : Prop where
  own : after.1.own.changeset = before.1.own.changeset
  shared : after.1.shared.changeset = before.1.shared.changeset
  remembers : before.2.Remembers after.2

namespace Continues

variable {before after later : Variables × Store}

theorem refl (around : Variables × Store) : Continues around around := ⟨rfl, rfl, .refl _⟩

theorem trans (first : Continues before after) (second : Continues after later) :
    Continues before later :=
  ⟨second.own.trans first.own, second.shared.trans first.shared,
    first.remembers.trans second.remembers⟩

/-- The variables stay as they are. -/
theorem still {reached : Variables} {store stored : Store} (remembers : store.Remembers stored) :
    Continues (reached, store) (reached, stored) := ⟨rfl, rfl, remembers⟩

end Continues

variable (definition : ComponentDef) (owner : Owner) (reached : Variables) (store : Store)

theorem continues_read (name : String) :
    Continues (reached, store) (reached.read definition owner name store).2 := by
  unfold Variables.read Variables.read?
  split
  · next default _ =>
    obtain ⟨changeset, remembers⟩ := reached.own.remembers_get name default owner store
    exact ⟨changeset, rfl, remembers⟩
  · split
    · next default _ =>
      obtain ⟨changeset, remembers⟩ := reached.shared.remembers_get name default owner store
      exact ⟨rfl, changeset, remembers⟩
    · exact .refl _

theorem continues_write (name : String) (value : Value) :
    Continues (reached, store) (reached.write definition name value store).2 := by
  have framed (container : Container) := (Container.set_frame container name value store).1
  unfold Variables.write
  split
  · exact ⟨(framed reached.own).changeset, rfl, fun _ _ => (framed reached.own).marks⟩
  · split
    · exact ⟨rfl, (framed reached.shared).changeset, fun _ _ => (framed reached.shared).marks⟩
    · exact .refl _

theorem remembers_touch : store.Remembers (reached.touch store) :=
  fun _ _ => (Container.markDirty_frame reached.own _ store).marks

theorem remembers_markDirty (names : List String) :
    store.Remembers (reached.markDirty definition names store).2 := by
  induction names generalizing store with
  | nil => exact .refl store
  | cons name rest ih =>
    have one : store.Remembers (reached.markOne definition name store).2 := by
      unfold markOne
      split
      · exact fun _ _ => (Container.markDirty_frame reached.shared _ store).marks
      · split
        · exact fun _ _ => (Container.markDirty_frame reached.own _ store).marks
        · exact .refl store
    unfold Variables.markDirty
    generalize reached.markOne definition name store = answer at one ⊢
    obtain ⟨error | value, stored⟩ := answer
    · exact one
    · exact one.trans (ih stored)

end Variables

namespace ActionQuestion

variable {definition : ComponentDef} {owner : Owner} {identity : OrderedMap String Value}

/-- The code of an action is answered, and variables go on. -/
theorem continues_answer (question : ActionQuestion) (state : ActionState) (store : Store) :
    Variables.Continues (state.reached, store)
      ((question.answer definition owner identity state store).2.1.reached,
        (question.answer definition owner identity state store).2.2) := by
  cases question with
  | get name => exact Variables.continues_read definition owner state.reached store name
  | set name value => exact Variables.continues_write definition state.reached store name value
  | markDirty names => exact .still (Variables.remembers_markDirty definition state.reached store names)
  | touch => exact .still (Variables.remembers_touch state.reached store)
  | variant => exact .refl _
  | identity name => exact .refl _
  | setVariant chosen =>
    simp only [ActionQuestion.answer]
    split
    · exact .refl _
    · split
      · exact .refl _
      · exact .still (Variables.remembers_touch state.reached store)

/-- **The code of an action runs**, and variables go on. -/
theorem continues_run {α : Type} (program : Program ActionQuestion α) (state : ActionState)
    (store : Store) : Variables.Continues (state.reached, store)
      ((program.run (ActionQuestion.answer definition owner identity) state store).2.1.reached,
        (program.run (ActionQuestion.answer definition owner identity) state store).2.2) :=
  Program.run_induct
    (motive := fun around : ActionState × Store =>
      Variables.Continues (state.reached, store) (around.1.reached, around.2))
    (fun operation sofar => sofar.trans (.still (operation.remembers_run _)))
    (fun _ _ sofar => sofar.trans (.still (.of_changesets rfl)))
    (fun question sofar => sofar.trans (continues_answer question _ _)) program (.refl _)

end ActionQuestion

end ReactiveView
