/-
**What a template sees, by where its variables come from.**

The scope of a component without children is told by how its variables are read: a name is a
variable, else an identity value, else a helper, which reads variables in its turn. So scopes whose
variables are read alike answer alike. A scope may also know its variables beforehand, or only some
of them; then it refuses every answer for which it would need another one.

* `Scope.ofSource` — the scope whose variables come from a source.
* `Scope.accord_ofSource` — sources that are read alike.
* `Scope.ofKnown` — the scope of variables that are known.
* `Source.Covers`, `Scope.mirrors_ofKnown` — a source that has all that is known, and more.
-/

import ReactiveView.Proofs.Component.Determined
import ReactiveView.Proofs.Render.Mirror

namespace ReactiveView

open Render

variable {σ τ α : Type}

/-- How the variables of a component are read. -/
abbrev Source (σ : Type) := String → σ → Store → Answer σ Value

/-- The answers to a helper whose variables come from a source. -/
def HelperQuestion.answerFrom (identity : OrderedMap String Value) (source : Source σ) :
    Program.Answering HelperQuestion σ
  | .get name, world, store => source name world store
  | .identity name, world, store => (.ok ((identity.get? name).getD .nil), world, store)

/-- The result of a helper whose variables come from a source; none if there is no such helper. -/
def Source.helper (source : Source σ) (definition : ComponentDef) (owner : Owner)
    (identity : OrderedMap String Value) (name : String) (arguments : List Value) (world : σ)
    (store : Store) : Answer σ (Option Value) :=
  match definition.declared.helpers.get? name with
  | none => (.ok none, world, store)
  | some helper =>
    let (result, world, store) :=
      HelperCode.answer helper owner name arguments (HelperQuestion.answerFrom identity source) world
        store
    (result.map some, world, store)

/-- **The scope of a component without children** whose variables come from a source. -/
def Scope.ofSource (definition : ComponentDef) (owner : Owner) (identity : OrderedMap String Value)
    (source : Source σ) : Scope σ where
  lookup name world store :=
    if definition.declares name then
      let (result, world, store) := source name world store
      (result.map some, world, store)
    else
      match identity.get? name with
      | some value => (.ok (some value), world, store)
      | none => source.helper definition owner identity name [] world store
  call := source.helper definition owner identity
  renderChild _ id world store := (.error (.recursiveRender id), world, store)

/-! ### Sources that are read alike -/

/-- **Sources that are read alike** under some names, with identity values that are paired. -/
structure Source.Accord (identity other : OrderedMap String Value) (left : Source σ) (right : Source τ)
    (names : String → Prop) (Alike : Pairing → σ × Store → τ × Store → Prop) : Prop where
  paired : ∀ {pairing l r}, Alike pairing l r → Store.Paired pairing l.2 r.2
  advance : ∀ {pairing l r larger leftAfter rightAfter}, Alike pairing l r →
    Store.Advance pairing l.2 r.2 larger leftAfter rightAfter →
    Alike larger (l.1, leftAfter) (r.1, rightAfter)
  identity : ∀ {pairing l r}, Alike pairing l r → ∀ name,
    Option.Rel (Value.Paired pairing) (identity.get? name) (other.get? name)
  read : ∀ {pairing l r name}, Alike pairing l r → names name →
    AnswerAlike Alike pairing Value.Paired (left name l.1 l.2) (right name r.1 r.2)

section

variable {Alike : Pairing → σ × Store → τ × Store → Prop} {pairing : Pairing}

theorem AnswerAlike.some {left : Answer σ Value} {right : Answer τ Value}
    (alike : AnswerAlike Alike pairing Value.Paired left right) :
    AnswerAlike Alike pairing (fun larger => Option.Rel (Value.Paired larger))
      (left.1.map Option.some, left.2) (right.1.map Option.some, right.2) := by
  obtain ⟨larger, le, around, results⟩ := alike
  refine ⟨larger, le, around, ?_⟩
  generalize left.1 = result, right.1 = answer at results ⊢
  cases results with
  | ok related => exact .ok (.some related)
  | error error => exact .error error

/-- A value that is there or `nil`. -/
theorem Value.Paired.getD {found known : Option Value}
    (paired : Option.Rel (Value.Paired pairing) found known) :
    (found.getD .nil).Paired pairing (known.getD .nil) := by
  cases paired with
  | none => exact .scalar rfl
  | some same => exact same

variable {definition : ComponentDef} {owner : Owner} {identity other : OrderedMap String Value}
  {left : Source σ} {right : Source τ} {names : String → Prop}

theorem Source.Accord.helper (faithful : definition.Faithful)
    (accord : Source.Accord identity other left right names Alike) (all : ∀ name, names name)
    (name : String) {l : σ × Store} {r : τ × Store} {values others : List Value}
    (alike : Alike pairing l r) (same : List.Forall₂ (Value.Paired pairing) values others) :
    AnswerAlike Alike pairing (fun larger => Option.Rel (Value.Paired larger))
      (left.helper definition owner identity name values l.1 l.2)
      (right.helper definition owner other name others r.1 r.2) := by
  unfold Source.helper
  cases found : definition.declared.helpers.get? name with
  | none => exact ⟨pairing, le_rfl, alike, .ok .none⟩
  | some helper =>
    refine AnswerAlike.some ((faithful.helpers found).alike _ _ Alike accord.paired accord.advance
      (fun {pairing l r} question alike => ?_) owner name alike same)
    cases question with
    | get name => exact accord.read alike (all name)
    | identity name =>
      exact ⟨pairing, le_rfl, alike, .ok (Value.Paired.getD (accord.identity alike name))⟩

/-- **Scopes whose variables are read alike answer alike**; helpers do if all names are. -/
theorem Scope.accord_ofSource (faithful : definition.Faithful)
    (accord : Source.Accord identity other left right names Alike) {whole : Prop}
    (all : whole → ∀ name, names name)
    (helper : ∀ name, definition.hasHelper name = true → names name → whole) :
    (Scope.ofSource definition owner identity left).Accord
      (Scope.ofSource definition owner other right) names
      (fun name => name ≠ "child" ∧ whole) Alike where
  paired := accord.paired
  advance := accord.advance
  lookup {pairing l r name} alike clean := by
    simp only [Scope.ofSource]
    split
    · exact (accord.read alike clean).some
    · have same := accord.identity alike name
      generalize identity.get? name = found, other.get? name = opposed at same ⊢
      cases same with
      | some same => exact ⟨pairing, le_rfl, alike, .ok (.some same)⟩
      | none =>
        cases known : definition.hasHelper name with
        | true => exact accord.helper faithful (all (helper name known clean)) name alike .nil
        | false =>
          have none : definition.declared.helpers.get? name = none := by
            simpa [ComponentDef.hasHelper, OrderedMap.contains] using known
          simp only [Source.helper, none]
          exact ⟨pairing, le_rfl, alike, .ok .none⟩
  call alike answered same := accord.helper faithful (all answered.2) _ alike same
  child _ answered := absurd rfl answered.1

end

/-! ### Variables that are known -/

/-- Variables that are known as a source: asking for another one is noted, and is an error. -/
def Source.ofKnown (definition : ComponentDef) (known : String → Option Value) : Source Bool :=
  fun name missed store =>
    if definition.declares name then
      match known name with
      | some value => (.ok value, missed, store)
      | none => (.error .closed, true, store)
    else (.error (definition.unknownVariable name), missed, store)

/-- An answer that is refused if something was missed for it. -/
def Answer.unmissed (answer : Answer Bool α) : Answer Unit α :=
  (if answer.2.1 then .error .closed else answer.1, (), answer.2.2)

/-- A scope that refuses every answer for which something was missed. -/
def Scope.strict (scope : Scope Bool) : Scope Unit where
  lookup name _ store := (scope.lookup name false store).unmissed
  call name arguments _ store := (scope.call name arguments false store).unmissed
  renderChild className id _ store := (scope.renderChild className id false store).unmissed

/-- **The scope of a component whose variables are known**, or at least some of them. -/
def Scope.ofKnown (definition : ComponentDef) (owner : Owner) (identity : OrderedMap String Value)
    (known : String → Option Value) : Scope Unit :=
  (Scope.ofSource definition owner identity (.ofKnown definition known)).strict

/-- **A source that has all that is known**, in one of its worlds; asked for more it goes out of
bounds. -/
structure Source.Covers (definition : ComponentDef) (known : String → Option Value)
    (source : Source τ) (world : τ) (out : τ → Prop) : Prop where
  has : ∀ {name value}, definition.declares name = true → known name = some value →
    ∀ store, source name world store = (.ok value, world, store)
  lacks : ∀ {name}, definition.declares name = true → known name = none →
    ∀ store, out (source name world store).2.1
  undeclared : ∀ {name}, definition.declares name = false →
    ∀ store, source name world store = (.error (definition.unknownVariable name), world, store)
  stays : ∀ {after}, out after → ∀ name store, out (source name after store).2.1

section

variable {definition : ComponentDef} {owner : Owner} {identity : OrderedMap String Value}
  {known : String → Option Value} {source : Source τ} {world : τ} {out : τ → Prop}

/-- What is missed stays missed. -/
theorem Source.missed_ofKnown (definition : ComponentDef) (known : String → Option Value)
    (name : String) (store : Store) :
    (Source.ofKnown definition known name true store).2.1 = true := by
  unfold Source.ofKnown
  split
  · split <;> rfl
  · rfl

namespace HelperQuestion

variable (identity) (program : Program HelperQuestion α) (store : Store)

/-- What is kept by reading a variable is kept by a helper. -/
theorem stays_run {source : Source τ} {out : τ → Prop}
    (stays : ∀ {after}, out after → ∀ name store, out (source name after store).2.1) {world : τ}
    (gone : out world) : out (program.run (answerFrom identity source) world store).2.1 := by
  induction program generalizing world store with
  | done result => exact gone
  | look next ih => exact ih store store gone
  | perform operation next ih => exact ih _ _ gone
  | keep name value next ih => exact ih _ gone
  | ask question next ih =>
    cases question with
    | get name => exact ih _ _ (stays gone name store)
    | identity name => exact ih _ _ gone

variable (covers : Source.Covers definition known source world out)
include covers

/-- A helper runs alike on what is known, or it misses something. -/
theorem run_covered :
    (∃ result after, program.run (answerFrom identity (.ofKnown definition known)) false store =
        (result, false, after) ∧
      program.run (answerFrom identity source) world store = (result, world, after)) ∨
    ((program.run (answerFrom identity (.ofKnown definition known)) false store).2.1 = true ∧
      out (program.run (answerFrom identity source) world store).2.1) := by
  induction program generalizing store with
  | done result => exact Or.inl ⟨result, store, rfl, rfl⟩
  | look next ih => exact ih store store
  | perform operation next ih => exact ih _ _
  | keep name value next ih => exact ih _
  | ask question next ih =>
    cases question with
    | identity name => exact ih _ _
    | get name =>
      simp only [Program.run, answerFrom]
      cases declared : definition.declares name with
      | false =>
        rw [covers.undeclared declared]
        simp only [Source.ofKnown, declared, Bool.false_eq_true, if_false]
        exact ih _ _
      | true =>
        cases found : known name with
        | some value =>
          rw [covers.has declared found]
          simp only [Source.ofKnown, declared, if_true, found]
          exact ih _ _
        | none =>
          refine Or.inr ⟨?_, stays_run identity _ _ covers.stays (covers.lacks declared found store)⟩
          simp only [Source.ofKnown, declared, if_true, found]
          refine @stays_run _ _ identity _ _ _ (· = true) (fun missed name store => ?_) _ rfl
          rw [missed]
          exact Source.missed_ofKnown definition known name store

end HelperQuestion

variable (covers : Source.Covers definition known source world out)
include covers

theorem Source.Covers.helper (name : String) (arguments : List Value) (store : Store) :
    Answer.Mirrors (fun _ other => other = world) out
      ((Source.ofKnown definition known).helper definition owner identity name arguments false
        store).unmissed
      (source.helper definition owner identity name arguments world store) := by
  unfold Source.helper
  cases definition.declared.helpers.get? name with
  | none => exact .same rfl
  | some helper =>
    simp only [HelperCode.answer]
    rcases HelperQuestion.run_covered identity (helper owner arguments) store covers with
      ⟨result, after, one, other⟩ | ⟨missed, gone⟩
    · rw [one, other]
      exact .same rfl
    · simp only [Answer.unmissed, missed, if_true]
      exact .refused gone

theorem Source.Covers.lookup (name : String) (store : Store) :
    Answer.Mirrors (fun _ other => other = world) out
      ((Scope.ofKnown definition owner identity known).lookup name () store)
      ((Scope.ofSource definition owner identity source).lookup name world store) := by
  simp only [Scope.ofKnown, Scope.strict, Scope.ofSource]
  cases declared : definition.declares name with
  | true =>
    simp only [if_true]
    cases found : known name with
    | some value =>
      rw [covers.has declared found]
      simp only [Source.ofKnown, declared, if_true, found]
      exact .same rfl
    | none =>
      simp only [Source.ofKnown, declared, if_true, found]
      exact .refused (covers.lacks declared found store)
  | false =>
    simp only [Bool.false_eq_true, if_false]
    cases identity.get? name with
    | some value => exact .same rfl
    | none => exact covers.helper name [] store

/-- What is kept by reading a variable is kept by a scope. -/
theorem Source.Covers.staysHelper {after : τ} (gone : out after) (name : String)
    (arguments : List Value) (store : Store) :
    out (source.helper definition owner identity name arguments after store).2.1 := by
  unfold Source.helper
  cases definition.declared.helpers.get? name with
  | none => exact gone
  | some helper =>
    exact HelperQuestion.stays_run identity (helper owner arguments) store covers.stays gone

/-- **What is known answers as a source does that covers it**, or it refuses, and the source has gone
out of bounds. -/
theorem Scope.mirrors_ofKnown :
    (Scope.ofKnown definition owner identity known).Mirrors
      (Scope.ofSource definition owner identity source) (fun _ other => other = world) out where
  lookup {_ other} same name store := by
    subst same
    exact covers.lookup name store
  call {_ other} same name arguments store := by
    subst same
    exact covers.helper name arguments store
  child same _ _ _ := .same same
  lookupOut {after} gone name store := by
    simp only [Scope.ofSource]
    split
    · exact covers.stays gone name store
    · split
      · exact gone
      · exact covers.staysHelper gone name [] store
  callOut gone name arguments store := covers.staysHelper gone name arguments store
  childOut gone _ _ _ := gone

end

end ReactiveView
