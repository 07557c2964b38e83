/-
**The code of a component, as data.**

A component's own code (its default values, helpers and actions) is a program: a tree of steps
whose branches are chosen by what the steps give back. A program looks at the store, carries out
operations on tracked values, keeps handles for later programs, and asks its surroundings; nothing
else. Which questions it may ask depends on where it runs.

* `Program.run` — carries a program out, given how questions are answered.
* `Program.run_bind` — one program after another runs one after the other.
-/

import ReactiveView.Tracked.Operation

namespace ReactiveView

/-- Steps that end in a result; a `Question` is answered by a value or an error. -/
inductive Program (Question : Type) (α : Type) where
  | done (result : α)
  /-- Goes on with what the store shows. -/
  | look (next : Store → Program Question α)
  /-- Carries out an operation and goes on with its reply. -/
  | perform (operation : Operation) (next : Reply → Program Question α)
  /-- Keeps a handle under a name, where every later program finds it. -/
  | keep (name : String) (value : Value) (next : Program Question α)
  /-- Asks the surroundings and goes on with the answer. -/
  | ask (question : Question) (next : Except Error Value → Program Question α)

namespace Program

variable {Question α β σ : Type}

/-- One program, then the one that its result chooses. -/
def bind (program : Program Question α) (next : α → Program Question β) : Program Question β :=
  match program with
  | done result => next result
  | look after => look fun store => (after store).bind next
  | perform operation after => perform operation fun reply => (after reply).bind next
  | keep name value after => keep name value (after.bind next)
  | ask question after => ask question fun answer => (after answer).bind next

instance : Monad (Program Question) where
  pure := done
  bind := bind

/-- What the store shows. -/
def observe (f : Store → α) : Program Question α := look fun store => done (f store)

/-- How a question is answered: the answer, and the surroundings and the store after it. -/
abbrev Answering (Question σ : Type) := Question → σ → Store → Except Error Value × σ × Store

/-- Carries a program out. -/
def run (answering : Answering Question σ) (program : Program Question α) (surroundings : σ)
    (store : Store) : α × σ × Store :=
  match program with
  | done result => (result, surroundings, store)
  | look next => (next store).run answering surroundings store
  | perform operation next =>
    let (reply, store) := operation.run store
    (next reply).run answering surroundings store
  | keep name value next => next.run answering surroundings (store.keep name value)
  | ask question next =>
    let (answer, surroundings, store) := answering question surroundings store
    (next answer).run answering surroundings store

theorem run_bind (answering : Answering Question σ) (program : Program Question α)
    (next : α → Program Question β) (surroundings : σ) (store : Store) :
    (program.bind next).run answering surroundings store =
      let (result, surroundings, store) := program.run answering surroundings store
      (next result).run answering surroundings store := by
  induction program generalizing surroundings store with
  | done result => rfl
  | look after ih => exact ih store surroundings store
  | perform operation after ih => exact ih _ _ _
  | keep name value after ih => exact ih _ _
  | ask question after ih => exact ih _ _ _

/-- A program that may fail. -/
abbrev Fallible (Question α : Type) := Program Question (Except Cause α)

/-- A program that may fail as it is written: a failure ends it. -/
abbrev Code (Question : Type) := ExceptT Cause (Program Question)

namespace Code

/-- What the store shows. -/
def observe (f : Store → α) : Code Question α := ExceptT.lift (Program.observe f)

/-- Keeps a handle under a name. -/
def keep (name : String) (value : Value) : Code Question Unit :=
  ExceptT.lift (.keep name value (done ()))

/-- The answer of the surroundings; an error is the cause of the failure. -/
def ask (question : Question) : Code Question Value :=
  ExceptT.mk (.ask question fun answer => done (answer.mapError .error))

/-- The reply to an operation. -/
def perform (operation : Operation) : Code Question Reply :=
  ExceptT.lift (.perform operation done)

/-- The value that an operation gives, or `nil`; an operation that is refused ends the program. -/
def yield (operation : Operation) : Code Question Value := do
  match ← perform operation with
  | .value value => return value
  | .option value => return value.getD .nil
  | .refused error => throw (.error error)
  | _ => return .nil

end Code

/-- Carries out a program that asks nothing. -/
def runAlone (program : Program Empty α) (store : Store) : α × Store :=
  let (result, _, store) := program.run (σ := Unit) (fun question => nomatch question) () store
  (result, store)

end Program

end ReactiveView
