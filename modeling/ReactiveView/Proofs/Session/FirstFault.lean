/-
**A batch that fails does what it does up to its first fault.**

Messages are executed one after the other. Once one of them fails, those behind it are not looked at: what
becomes of the session, what is sent and how the batch ends is as if they had never been there.

* `World.Executes` — messages that are executed one after the other, and all succeed.
* `World.Fault`, `World.fault_iff` — why a message fails; there is no other reason.
* `World.executes_or_fault` — a batch succeeds, or has a first fault.
* `Cycle.executeAll_of_fault` — what is executed of a batch with a fault.
* `Session.handle_eq_of_fault` — nothing depends on the messages behind it, and it is what the batch fails
  with.
-/

import ReactiveView.Proofs.Session.Delivery

namespace ReactiveView

namespace World

/-- **Messages are executed one after the other**, and all succeed. -/
inductive Executes : World → Store → List SubMessage → World → Store → Prop
  | nil {world : World} {store : Store} : Executes world store [] world store
  | cons {world middle after : World} {store stored final : Store} {message : SubMessage}
    {rest : List SubMessage}
    (done : Cycle.execute world message store = (.ok (), middle, stored))
    (others : Executes middle stored rest after final) :
    Executes world store (message :: rest) after final

/-- **Why a message fails.** -/
inductive Fault (world : World) (store : Store) : SubMessage → Error → Prop
  /-- There is no such component, or it is being rendered. -/
  | unreached {message : SubMessage} {error : Error}
    (missing : world.instance? message.component = .error error) : Fault world store message error
  | unknownAction {id name : String} {params : Option Params} {component : Instance}
    (found : world.instance? id = .ok component)
    (unknown : component.definition.action? name = none) :
    Fault world store (.action id name params) (.unknownAction component.definition.className name)
  | undeclared {id name : String} {value : Json} {component : Instance}
    (found : world.instance? id = .ok component)
    (undeclared : component.definition.declares name = false) :
    Fault world store (.assign id name value) (component.definition.unknownVariable name)
  | failing {id name : String} {params : Option Params} {component : Instance} {action : Action}
    {cause : Cause} (found : world.instance? id = .ok component)
    (known : component.definition.action? name = some action)
    (fails : ((action.code params component.owner).run
      (ActionQuestion.answer component.definition component.owner world.identity)
      ⟨world.variablesOf component, component.variant⟩ store).1 = .error cause) :
    Fault world store (.action id name params) (.action component.definition.className name cause)

variable {world : World} {store : Store} {message : SubMessage} {error : Error}

/-- The assignment of a declared variable succeeds. -/
theorem isOk_assign {component : Instance} {name : String}
    (declared : component.definition.declares name = true) (value : Json) :
    (Cycle.assign world component name value store).1 = .ok () := by
  unfold ComponentDef.declares at declared
  unfold Cycle.assign Variables.write ComponentDef.declares
  rw [declared]
  cases reactive : component.definition.isReactive name with
  | true => rfl
  | false =>
    rw [reactive, Bool.false_or] at declared
    rw [declared]
    rfl

/-- **A message fails for one of these reasons**, and with the error of the reason. -/
theorem fault_iff : (Cycle.execute world message store).1 = .error error ↔
    world.Fault store message error := by
  constructor
  · intro fails
    unfold Cycle.execute at fails
    cases found : world.instance? message.component with
    | error missing =>
      rw [found] at fails
      cases fails
      exact .unreached found
    | ok component =>
      rw [found] at fails
      cases message with
      | action id name params =>
        dsimp only at fails
        cases known : component.definition.action? name with
        | none =>
          rw [known] at fails
          cases fails
          exact .unknownAction found known
        | some action =>
          rw [known] at fails
          dsimp only [Cycle.runCode] at fails
          cases result : ((action.code params component.owner).run
              (ActionQuestion.answer component.definition component.owner world.identity)
              ⟨world.variablesOf component, component.variant⟩ store).1 with
          | ok value =>
            rw [result] at fails
            cases fails
          | error cause =>
            rw [result] at fails
            cases fails
            exact .failing found known result
      | assign id name value =>
        cases declared : component.definition.declares name with
        | true =>
          dsimp only at fails
          rw [isOk_assign declared] at fails
          cases fails
        | false =>
          simp only [Cycle.assign, declared, Bool.not_false, if_true] at fails
          cases fails
          exact .undeclared found declared
  · rintro (missing | ⟨found, unknown⟩ | ⟨found, undeclared⟩ | ⟨found, known, fails⟩)
    · simp only [Cycle.execute, missing]
    · simp only [Cycle.execute, SubMessage.component, found, unknown]
    · simp only [Cycle.execute, SubMessage.component, found, Cycle.assign, undeclared,
        Bool.not_false, if_true]
    · simp only [Cycle.execute, SubMessage.component, found, known, Cycle.runCode, fails]
      rfl

/-- **A batch succeeds, or has a first fault.** -/
theorem executes_or_fault (world : World) (store : Store) (messages : List SubMessage) :
    (∃ after stored, world.Executes store messages after stored) ∨
      ∃ earlier message later after stored error, messages = earlier ++ message :: later ∧
        world.Executes store earlier after stored ∧ after.Fault stored message error := by
  induction messages generalizing world store with
  | nil => exact Or.inl ⟨world, store, .nil⟩
  | cons message rest ih =>
    rcases done : Cycle.execute world message store with ⟨error | _, middle, stored⟩
    · exact Or.inr ⟨[], message, rest, world, store, error, rfl, .nil,
        fault_iff.mp (congrArg Prod.fst done)⟩
    · rcases ih middle stored with ⟨after, final, executes⟩ |
        ⟨earlier, faulty, later, after, final, error, rfl, executes, fault⟩
      · exact Or.inl ⟨after, final, .cons done executes⟩
      · exact Or.inr ⟨message :: earlier, faulty, later, after, final, error, rfl,
          .cons done executes, fault⟩

end World

namespace Cycle

variable {cycle : Cycle} {after : World} {stored : Store} {message : SubMessage} {error : Error}

/-! ### Execution -/

/-- What succeeds is executed, and then the rest. -/
theorem executeAll_append {earlier : List SubMessage} (unfailed : cycle.failure = none)
    (executes : cycle.world.Executes cycle.store earlier after stored) (later : List SubMessage) :
    cycle.executeAll (earlier ++ later) =
      Cycle.executeAll { cycle with world := after, store := stored } later := by
  induction earlier generalizing cycle with
  | nil =>
    cases executes
    rfl
  | cons message rest ih =>
    cases executes with
    | @cons _ middle _ _ reached _ _ _ done others =>
      have next : cycle.after message.component (execute cycle.world message cycle.store) =
          { cycle with world := middle, store := reached } := by
        rw [done]
        rfl
      rw [List.cons_append, executeAll]
      simp only [next, unfailed, Option.isSome_none, Bool.false_eq_true, if_false]
      rw [← unfailed]
      exact @ih { cycle with world := middle, store := reached } unfailed others

theorem failure_fail (cycle : Cycle) (id : String) (error : Error) :
    (cycle.fail id error).failure = cycle.failure.or (some error) := by
  obtain ⟨_, same⟩ := exists_fail_eq cycle id error
  rw [same]

/-- **What a batch does that has a fault**: the fault is shown, and what comes behind it is dropped. -/
theorem executeAll_of_fault {earlier : List SubMessage} (unfailed : cycle.failure = none)
    (executes : cycle.world.Executes cycle.store earlier after stored)
    (fault : after.Fault stored message error) (later : List SubMessage) :
    cycle.executeAll (earlier ++ message :: later) =
      fail { cycle with
        world := (execute after message stored).2.1
        store := (execute after message stored).2.2 } message.component error := by
  have fails := World.fault_iff.mpr fault
  rw [executeAll_append unfailed executes, executeAll]
  rcases done : execute after message stored with ⟨result, world, store⟩
  rw [done] at fails
  cases fails
  simp only [Cycle.after, failure_fail, unfailed, Option.none_or, Option.isSome_some, if_true]

/-! ### Rendering -/

/-- A failure is kept while components are rendered. -/
theorem failure_renderOne (failed : cycle.failure = some error) (inlined : List String)
    (component : Instance) (dirty : Dirty) :
    (cycle.renderOne inlined component dirty).1.failure = some error := by
  unfold renderOne
  generalize cycle.world.render component dirty cycle.store = outcome
  obtain ⟨fault | rendered, world, store⟩ := outcome
  · simp only [failure_fail, failed, Option.some_or]
  · dsimp only
    split <;> exact failed

/-- **The first failure is kept** until the cycle ends. -/
theorem failure_renderAll (failed : cycle.failure = some error) (inlined : List String)
    (affected : List (String × Dirty)) :
    (cycle.renderAll inlined affected).failure = some error := by
  induction affected generalizing cycle inlined with
  | nil => exact failed
  | cons entry rest ih =>
    obtain ⟨id, dirty⟩ := entry
    unfold renderAll
    split
    · exact ih failed inlined
    · cases cycle.world.instance? id with
      | error _ => exact ih failed inlined
      | ok component => exact ih (failure_renderOne failed inlined component dirty) _

/-- What is left of a cycle once some messages are executed. -/
def completed (cycle : Cycle) : Cycle :=
  let rendered := cycle.renderAll [] (cycle.affected none)
  { rendered with store := rendered.world.resetChanges rendered.store }

theorem run_messages (world : World) (messages : List SubMessage) (store : Store) :
    run world (.messages messages) store = ((start world store).executeAll messages).completed := rfl

theorem failure_completed (failed : cycle.failure = some error) :
    cycle.completed.failure = some error := failure_renderAll failed [] _

end Cycle

namespace Session

variable {session : Session} {world : World} {store : Store} {message : SubMessage} {error : Error}

/--
**A batch that fails does what it does up to its first fault.** If some messages succeed one after the
other and the next one fails, the result of the batch, what is sent and the session afterwards do not depend
on the messages behind it; and the batch fails with the error of that message.
-/
theorem handle_eq_of_fault {earlier : List SubMessage}
    (executes : session.world.Executes (session.world.resetChanges session.store) earlier world store)
    (fault : world.Fault store message error) (later : List SubMessage) :
    session.handle (earlier ++ message :: later) = session.handle (earlier ++ [message]) ∧
      (session.closed = false →
        (session.handle (earlier ++ message :: later)).result = .error error) := by
  have executed (later : List SubMessage) :=
    @Cycle.executeAll_of_fault (Cycle.start session.world session.store) _ _ _ _ _ rfl executes fault
      later
  unfold handle run
  constructor
  · rw [Cycle.run_messages, Cycle.run_messages, executed later, executed []]
  · intro opened
    rw [opened, if_neg Bool.false_ne_true, Cycle.run_messages, executed later]
    dsimp only [flush, resultOf]
    rw [Cycle.failure_completed (Cycle.failure_fail ..)]

/-- A session in which a row is mounted. -/
def labelled (row : ComponentDef) : Session := reached Config.default [.mount "a" row]

/-- A row gets a label, and is then asked for an action that it does not have and for another label. -/
theorem handle_eq_of_fault_of_labelled : ∃ row world store error, labelledRow.build = .ok row ∧
    (labelled row).world.Executes ((labelled row).world.resetChanges (labelled row).store)
      [.assign "a" "label" (.string "x")] world store ∧
    world.Fault store (.action "a" "shout" none) error ∧
    (labelled row).handle [.assign "a" "label" (.string "x"), .action "a" "shout" none,
        .assign "a" "label" (.string "y")] =
      (labelled row).handle [.assign "a" "label" (.string "x"), .action "a" "shout" none] ∧
    ((labelled row).handle [.assign "a" "label" (.string "x"), .action "a" "shout" none,
      .assign "a" "label" (.string "y")]).result = .error error := by
  have checked : ComponentDef.isBuiltTo labelledRow.build (fun row =>
      let done := Cycle.execute (labelled row).world (.assign "a" "label" (.string "x"))
        ((labelled row).world.resetChanges (labelled row).store)
      !(labelled row).closed && done.1.isOk &&
        !(Cycle.execute done.2.1 (.action "a" "shout" none) done.2.2).1.isOk) = true := by
    decide +kernel
  obtain ⟨row, ok, passes⟩ := ComponentDef.exists_of_isBuiltTo checked
  rcases done : Cycle.execute (labelled row).world (.assign "a" "label" (.string "x"))
    ((labelled row).world.resetChanges (labelled row).store) with ⟨first, world, store⟩
  simp only [done, Bool.and_eq_true, Bool.not_eq_true'] at passes
  obtain ⟨⟨opened, succeeds⟩, fails⟩ := passes
  cases first with
  | error error => cases succeeds
  | ok value =>
    cases failed : (Cycle.execute world (.action "a" "shout" none) store).1 with
    | ok value =>
      rw [failed] at fails
      cases fails
    | error error =>
      have fault := World.fault_iff.mp failed
      have executes := World.Executes.cons done .nil
      obtain ⟨same, result⟩ := handle_eq_of_fault executes fault [.assign "a" "label" (.string "y")]
      exact ⟨row, world, store, error, ok, executes, fault, same, result opened⟩

end Session

end ReactiveView
