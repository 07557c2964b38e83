/-
**Scopes that agree.**

Two scopes agree on some names and calls if, however the runs have gone so far, they answer these
with paired values or with one and the same error, and nothing that one of them does alone changes
what the other one answers. A scope that agrees with itself on everything answers as a function of
names and arguments.

What is paired is finite: a value that contains itself has no text.

* `Scope.AgreeExcept` — two scopes that agree on all but some dirty names, and on helpers unless the
  component is dirty.
* `Scope.Accord.lawful` — scopes that answer alike keep two runs together.
* `Scope.agreeExcept_ofVariables` — the scopes of variables whose values are paired.
-/

import ReactiveView.Proofs.Render.PairedMethods
import ReactiveView.Template.Analysis

namespace ReactiveView

open Render

variable {σ τ : Type}

/-! ### Agreement -/

/-- Two answers, paired from here on, or one and the same error. -/
def AnswerAlike {α β : Type} (Alike : Pairing → σ × Store → τ × Store → Prop) (pairing : Pairing)
    (relation : Pairing → α → β → Prop) (left : Answer σ α) (right : Answer τ β) : Prop :=
  ∃ larger, pairing ≤ larger ∧ Alike larger left.2 right.2 ∧
    AlikeResult (relation larger) left.1 right.1

/-- **Scopes that agree** on some names and calls, in surroundings that are alike. -/
structure Scope.Agreement (left : Scope σ) (right : Scope τ) (names answered : String → Prop)
    (Alike : Pairing → σ × Store → τ × Store → Prop) : Prop where
  paired : ∀ {pairing l r}, Alike pairing l r → Store.Paired pairing l.2 r.2
  moveLeft : ∀ {pairing l after r}, Alike pairing l r → left.Move l after → Alike pairing after r
  moveRight : ∀ {pairing l r after}, Alike pairing l r → right.Move r after → Alike pairing l after
  advance : ∀ {pairing l r larger leftAfter rightAfter}, Alike pairing l r →
    Store.Advance pairing l.2 r.2 larger leftAfter rightAfter →
    Alike larger (l.1, leftAfter) (r.1, rightAfter)
  lookup : ∀ {pairing l r name}, Alike pairing l r → names name →
    AnswerAlike Alike pairing (fun larger => Option.Rel (Value.Paired larger))
      (left.lookup name l.1 l.2) (right.lookup name r.1 r.2)
  call : ∀ {pairing l r name values others}, Alike pairing l r → answered name →
    List.Forall₂ (Value.Paired pairing) values others →
    AnswerAlike Alike pairing (fun larger => Option.Rel (Value.Paired larger))
      (left.call name values l.1 l.2) (right.call name others r.1 r.2)
  child : ∀ {pairing l r}, Alike pairing l r → answered "child" → ∀ className id,
    AnswerAlike Alike pairing (fun _ => Eq) (left.renderChild className id l.1 l.2)
      (right.renderChild className id r.1 r.2)

/-- **Scopes that answer alike**, as long as neither of them does anything alone. -/
structure Scope.Accord (left : Scope σ) (right : Scope τ) (names answered : String → Prop)
    (Alike : Pairing → σ × Store → τ × Store → Prop) : Prop where
  paired : ∀ {pairing l r}, Alike pairing l r → Store.Paired pairing l.2 r.2
  advance : ∀ {pairing l r larger leftAfter rightAfter}, Alike pairing l r →
    Store.Advance pairing l.2 r.2 larger leftAfter rightAfter →
    Alike larger (l.1, leftAfter) (r.1, rightAfter)
  lookup : ∀ {pairing l r name}, Alike pairing l r → names name →
    AnswerAlike Alike pairing (fun larger => Option.Rel (Value.Paired larger))
      (left.lookup name l.1 l.2) (right.lookup name r.1 r.2)
  call : ∀ {pairing l r name values others}, Alike pairing l r → answered name →
    List.Forall₂ (Value.Paired pairing) values others →
    AnswerAlike Alike pairing (fun larger => Option.Rel (Value.Paired larger))
      (left.call name values l.1 l.2) (right.call name others r.1 r.2)
  child : ∀ {pairing l r}, Alike pairing l r → answered "child" → ∀ className id,
    AnswerAlike Alike pairing (fun _ => Eq) (left.renderChild className id l.1 l.2)
      (right.renderChild className id r.1 r.2)

/-- Two scopes, each in its surroundings, that agree on some names and calls. -/
def Scope.AgreeOn (names answered : String → Prop) (left : Scope σ) (l : σ × Store)
    (right : Scope τ) (r : τ × Store) : Prop :=
  ∃ Alike pairing, left.Agreement right names answered Alike ∧ Alike pairing l r

/--
**Two scopes that agree except for what is dirty**: on every other name, and on the helpers unless
the component is dirty.
-/
def Scope.AgreeExcept (dirty : NameSet) (left : Scope σ) (l : σ × Store) (right : Scope τ)
    (r : τ × Store) : Prop :=
  Scope.AgreeOn (· ∉ dirty) (fun name => name ≠ "child" ∧ Template.componentName ∉ dirty) left l
    right r

/-- A scope that answers as a function of names and arguments, children included. -/
def Scope.Steady (scope : Scope σ) (around : σ × Store) : Prop :=
  Scope.AgreeOn (fun _ => True) (fun _ => True) scope around scope around

section

variable {left : Scope σ} {right : Scope τ} {names answered : String → Prop}
  {Alike : Pairing → σ × Store → τ × Store → Prop}

/-- The correspondence of two runs whose scopes agree: values are paired. -/
def Scope.Agreement.lockstep (names answered : String → Prop)
    (Alike : Pairing → σ × Store → τ × Store → Prop) : Lockstep σ τ where
  Stage := Pairing
  order := inferInstance
  Around := Alike
  Same := Value.Paired
  Met pairing name found known :=
    Option.Rel (Value.Paired pairing) found known ∧ (found = none → names name)
  Answered := answered

namespace Scope.Accord

theorem of_read {α β : Type} (accord : left.Accord right names answered Alike)
    {pairing : Pairing} {l : σ × Store} {r : τ × Store} (alike : Alike pairing l r)
    {relation : Pairing → α → β → Prop} {first : Except Error α × Store}
    {second : Except Error β × Store} (read : ReadAlike pairing l.2 r.2 relation first second) :
    (Agreement.lockstep names answered Alike).Answers pairing relation (inWorld l.1 first)
      (inWorld r.1 second) := by
  obtain ⟨larger, advance, results⟩ := read
  exact ⟨larger, advance.enlarges, accord.advance alike advance, results⟩

/-- **Scopes that answer alike keep two runs together.** -/
theorem lawful (accord : left.Accord right names answered Alike) :
    (Agreement.lockstep names answered Alike).Lawful left right where
  sameMono le _ _ same := Value.Paired.mono le same
  metMono le name found known met := by
    refine ⟨?_, met.2⟩
    cases met.1 with
    | none => exact .none
    | some same => exact .some (Value.Paired.mono le same)
  met same _ := ⟨.some same, fun none => by cases none⟩
  scalar plain _ := .scalar plain
  shape same := by
    cases same with
    | scalar plain => exact Or.inl ⟨rfl, plain⟩
    | list _ => exact Or.inr (Or.inl ⟨_, _, rfl, rfl⟩)
    | map _ => exact Or.inr (Or.inr (Or.inl ⟨_, _, rfl, rfl⟩))
    | record _ => exact Or.inr (Or.inr (Or.inr ⟨_, _, rfl, rfl⟩))
  text alike same := Value.text_eq_of_paired (accord.paired alike) same
  newList alike values :=
    accord.of_read alike (.made (Store.newList_paired (accord.paired alike) values))
  field alike same name :=
    accord.of_read alike (readField_alike (accord.paired alike) same name)
  index alike same place :=
    accord.of_read alike (readIndex_alike (accord.paired alike) same place)
  method alike same values name :=
    accord.of_read alike (callMethod_alike (accord.paired alike) values same name)
  binary alike same other op limit :=
    accord.of_read alike (binary_alike (accord.paired alike) same other op limit)
  items alike same := by
    cases same with
    | scalar plain => cases plain
    | list refs =>
      obtain ⟨items, advance⟩ := TrackedList.iterate_paired (accord.paired alike) refs
      exact accord.of_read alike ⟨_, advance, .ok items⟩
  entries alike same := by
    cases same with
    | scalar plain => cases plain
    | map refs =>
      obtain ⟨entries, advance⟩ := TrackedMap.iterate_paired (accord.paired alike) refs
      exact accord.of_read alike ⟨_, advance, .ok entries⟩
  lookup alike met := by
    obtain ⟨found, free⟩ := met
    cases found with
    | some same => exact ⟨_, le_rfl, alike, .ok (.some same)⟩
    | none => exact accord.lookup alike (free rfl)
  call alike answered _ same := accord.call alike answered same
  child := accord.child

end Scope.Accord

namespace Scope.Agreement

theorem accord (agreement : left.Agreement right names answered Alike) :
    left.Accord right names answered Alike :=
  ⟨agreement.paired, agreement.advance, agreement.lookup, agreement.call, agreement.child⟩

/-- **Scopes that agree keep two runs together.** -/
theorem lawful (agreement : left.Agreement right names answered Alike) :
    (lockstep names answered Alike).Lawful left right := agreement.accord.lawful

theorem undisturbed (agreement : left.Agreement right names answered Alike) :
    (lockstep names answered Alike).Undisturbed left right :=
  ⟨agreement.moveLeft, agreement.moveRight⟩

end Scope.Agreement

end

/-! ### Scopes of variables -/

/-- Surroundings without a world whose stores are paired at least like this. -/
def Store.PairedBeyond (least pairing : Pairing) (l r : Unit × Store) : Prop :=
  least ≤ pairing ∧ Store.Paired pairing l.2 r.2

theorem Store.PairedBeyond.grow {least pairing : Pairing} {l r after opposite : Unit × Store}
    (paired : Store.PairedBeyond least pairing l r) (growsLeft : l.2.Grows after.2)
    (growsRight : r.2.Grows opposite.2) : Store.PairedBeyond least pairing after opposite :=
  ⟨paired.1, paired.2.grow growsLeft growsRight⟩

/-- A scope of variables only makes its store grow. -/
theorem grows_of_move_ofVariables {values : OrderedMap String Value} {before after : Unit × Store}
    (move : (Scope.ofVariables values).Move before after) : before.2.Grows after.2 := by
  cases move with
  | grow _ grows => exact grows
  | _ => exact .refl _

/-- **The scopes of variables whose values are paired agree**, except for what is dirty. -/
theorem Scope.agreeExcept_ofVariables {dirty : NameSet} {first second : OrderedMap String Value}
    {left right : Store} {pairing : Pairing} (paired : Store.Paired pairing left right)
    (values : ∀ name ∉ dirty,
      Option.Rel (Value.Paired pairing) (first.get? name) (second.get? name)) :
    AgreeExcept dirty (ofVariables first) ((), left) (ofVariables second) ((), right) := by
  refine ⟨Store.PairedBeyond pairing, pairing, ?_, le_rfl, paired⟩
  refine {
    paired := fun alike => alike.2
    moveLeft := fun alike move => alike.grow (grows_of_move_ofVariables move) (.refl _)
    moveRight := fun alike move => alike.grow (.refl _) (grows_of_move_ofVariables move)
    advance := fun alike advance => ⟨alike.1.trans advance.enlarges, advance.paired⟩
    lookup := fun {larger l r name} alike clean => ⟨larger, le_rfl, alike, .ok ?_⟩
    call := fun {larger l r name values others} alike _ _ => ⟨larger, le_rfl, alike, .ok .none⟩
    child := fun _ answered => absurd rfl answered.1 }
  have known := values name clean
  generalize first.get? name = value, second.get? name = other at known ⊢
  cases known with
  | none => exact .none
  | some same => exact .some (same.mono alike.1)

end ReactiveView
