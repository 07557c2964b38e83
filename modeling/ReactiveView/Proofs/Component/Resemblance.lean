/-
**Stores and variables that resemble each other.**

Two stores resemble each other as far as a pairing goes, if paired nodes hold the same and code has kept
paired handles in them. Containers resemble each other if the same names have values, and these are paired.
Code that treats alike what is alike, as defaults and helpers do, leads from such variables to such
variables. It does not matter who watches which node, nor what is marked.

* `Store.Resembles`, `Container.Resembles`, `Variables.Resembles` — stores, containers and variables.
* `Store.Resembles.upheld` — whatever code does to values, stores go on resembling each other.
* `Variables.Resembles.read?`, `Variables.Resembles.callHelper` — variables are read and helpers called.
-/

import ReactiveView.Proofs.Component.Uniform
import ReactiveView.Proofs.Container.Frames

namespace ReactiveView

open Render

/-! ### Stores -/

/-- **Stores that resemble each other**: what is paired holds the same, and what code has kept is
paired. -/
structure Store.Resembles (pairing : Pairing) (left right : Store) : Prop where
  paired : Store.Paired pairing left right
  kept : left.kept.Resembles pairing right.kept

namespace Store.Resembles

variable {pairing larger : Pairing} {left right leftAfter rightAfter : Store} {σ τ : Type}

theorem retain (same : Resembles pairing left right) (here : left.Retains leftAfter)
    (there : right.Retains rightAfter) : Resembles pairing leftAfter rightAfter where
  paired := same.paired.extend here.toExtends there.toExtends
  kept := by
    rw [here.kept, there.kept]
    exact same.kept

theorem advance (same : Resembles pairing left right)
    (advance : Advance pairing left right larger leftAfter rightAfter) :
    Resembles larger leftAfter rightAfter where
  paired := advance.paired
  kept := by
    rw [advance.growsLeft.kept, advance.growsRight.kept]
    exact same.kept.mono advance.enlarges

/-- Stores that resemble each other, in surroundings of which the same is known. -/
def Along (Known : Pairing → σ → τ → Prop) (pairing : Pairing) (l : σ × Store) (r : τ × Store) :
    Prop := Resembles pairing l.2 r.2 ∧ Known pairing l.1 r.1

/-- **Whatever code does to values**, stores go on resembling each other. -/
theorem upheld {Known : Pairing → σ → τ → Prop}
    (mono : ∀ {pairing larger world other}, pairing ≤ larger → Known pairing world other →
      Known larger world other) : Upheld True (Along Known) where
  paired same := same.1.paired
  make same contents :=
    ⟨same.1.advance (.newNode same.1.paired contents _ _), mono (Pairing.le_add _ _ _) same.2⟩
  derive same _ contents :=
    ⟨same.1.advance (.newNode same.1.paired contents _ _), mono (Pairing.le_add _ _ _) same.2⟩
  inherit same _ _ := ⟨same.1.advance (.inherit same.1.paired ..), same.2⟩
  mutate same refs contents self := by
    refine ⟨⟨same.1.paired.mutate refs contents self, ?_⟩, same.2⟩
    rw [kept_mutate, kept_mutate]
    exact same.1.kept
  kept _ _ _ _ same := same.1.kept
  keep _ _ l r _ _ same values name := by
    have nodes (store : Store) (value : Value) : store.Extends (store.keep name value) :=
      extends_of_nodes rfl
    exact ⟨⟨same.1.paired.extend (nodes ..) (nodes ..),
      same.1.kept.insert values name⟩, same.2⟩

end Store.Resembles

/-! ### Variables -/

/-- Containers with paired values under the same names. -/
def Container.Resembles (pairing : Pairing) (left right : Container) : Prop :=
  left.values.Resembles pairing right.values

/-- **A variable is read on both sides**: both have a value, or both are given a default. -/
theorem Container.Resembles.get {pairing : Pairing} {left right : Container}
    {store other : Store} {default : VarDefault} {owner : Owner}
    (same : left.Resembles pairing right) (stores : Store.Resembles pairing store other)
    (uniform : default.Uniform True) (name : String) :
    ∃ larger, pairing ≤ larger ∧
      Store.Resembles larger (left.get name default owner store).2.2
        (right.get name default owner other).2.2 ∧
      (left.get name default owner store).2.1.Resembles larger
        (right.get name default owner other).2.1 ∧
      AlikeResult (Value.Paired larger) (left.get name default owner store).1
        (right.get name default owner other).1 := by
  have has := same name
  have none : Store.Resembles.Along (fun _ (_ _ : Unit) => True) pairing ((), store) ((), other) :=
    ⟨stores, trivial⟩
  have made := uniform (Store.Resembles.upheld fun _ _ => trivial) name owner none
  unfold Container.get
  generalize left.values.get? name = found, right.values.get? name = known at has ⊢
  cases has with
  | some values => exact ⟨pairing, le_rfl, stores, same, .ok values⟩
  | none =>
    obtain ⟨larger, le, ⟨stores, _⟩, results⟩ := made
    simp only [inWorld] at stores results ⊢
    generalize default.compute name owner store = made, default.compute name owner other = built
      at stores results ⊢
    obtain ⟨result, made⟩ := made
    obtain ⟨outcome, built⟩ := built
    cases results with
    | error error => exact ⟨larger, le, stores, same.mono le, .error error⟩
    | ok values =>
      refine ⟨larger, le, stores.retain (retains_watch ..) (retains_watch ..), ?_, .ok values⟩
      unfold Container.Resembles
      rw [values_watch, values_watch]
      exact OrderedMap.Resembles.insert (same.mono le) values name

namespace Variables

/-- Variables with paired values under the same names. -/
structure Resembles (pairing : Pairing) (left right : Variables) : Prop where
  own : left.own.Resembles pairing right.own
  shared : left.shared.Resembles pairing right.shared

namespace Resembles

variable {pairing larger : Pairing} {left right : Variables} {store other : Store}
  {definition : ComponentDef} {owner : Owner} {identity opposite : OrderedMap String Value}

theorem mono (same : left.Resembles pairing right) (le : pairing ≤ larger) :
    left.Resembles larger right := ⟨same.own.mono le, same.shared.mono le⟩

/-- **A variable is looked up on both sides.** -/
theorem read? (same : left.Resembles pairing right) (stores : Store.Resembles pairing store other)
    (defaults : ∀ {name default}, definition.default? name = some default → default.Uniform True)
    (name : String) :
    (Variables.read? definition owner name left store = none ∧
      Variables.read? definition owner name right other = none) ∨
    ∃ answer against, Variables.read? definition owner name left store = some answer ∧
      Variables.read? definition owner name right other = some against ∧
      AnswerAlike (Store.Resembles.Along Resembles) pairing Value.Paired answer against := by
  unfold Variables.read?
  cases own : definition.declared.reactive.get? name with
  | some default =>
    have uniform := @defaults name default (by simp [ComponentDef.default?, own])
    obtain ⟨larger, le, stores, values, results⟩ := same.own.get stores uniform name
    exact Or.inr ⟨_, _, rfl, rfl, larger, le, ⟨stores, values, same.shared.mono le⟩, results⟩
  | none =>
    cases shared : definition.declared.shared.get? name with
    | none => exact Or.inl ⟨rfl, rfl⟩
    | some default =>
      have uniform := @defaults name default (by simp [ComponentDef.default?, own, shared])
      obtain ⟨larger, le, stores, values, results⟩ :=
        same.shared.get stores uniform name
      exact Or.inr ⟨_, _, rfl, rfl, larger, le, ⟨stores, same.own.mono le, values⟩, results⟩

/-- A variable is read on both sides; a name that the class does not declare is an error on both. -/
theorem read (same : left.Resembles pairing right) (stores : Store.Resembles pairing store other)
    (defaults : ∀ {name default}, definition.default? name = some default → default.Uniform True)
    (name : String) :
    AnswerAlike (Store.Resembles.Along Resembles) pairing Value.Paired
      (left.read definition owner name store) (right.read definition owner name other) := by
  unfold Variables.read
  rcases same.read? stores defaults name with
    ⟨here, there⟩ | ⟨answer, against, here, there, alike⟩
  · rw [here, there]
    exact ⟨pairing, le_rfl, ⟨stores, same⟩, .error _⟩
  · rw [here, there]
    exact alike

/-- **A helper is called on both sides**, with paired arguments. -/
theorem callHelper (same : left.Resembles pairing right)
    (stores : Store.Resembles pairing store other) (identities : identity.Resembles pairing opposite)
    (uniform : definition.Uniform) (name : String) {arguments others : List Value}
    (values : List.Forall₂ (Value.Paired pairing) arguments others) :
    (Variables.callHelper definition owner identity name arguments left store = none ∧
      Variables.callHelper definition owner opposite name others right other = none) ∨
    ∃ answer against,
      Variables.callHelper definition owner identity name arguments left store = some answer ∧
      Variables.callHelper definition owner opposite name others right other = some against ∧
      AnswerAlike (Store.Resembles.Along Resembles) pairing Value.Paired answer against := by
  obtain ⟨defaults, helpers, _⟩ := uniform
  unfold Variables.callHelper
  cases found : definition.declared.helpers.get? name with
  | none => exact Or.inl ⟨rfl, rfl⟩
  | some helper =>
    let Known (pairing : Pairing) (left right : Variables) : Prop :=
      left.Resembles pairing right ∧ identity.Resembles pairing opposite
    have upheld : Upheld True (Store.Resembles.Along Known) :=
      Store.Resembles.upheld fun le known => ⟨known.1.mono le, known.2.mono le⟩
    have answers {pairing : Pairing} {l r : Variables × Store} (question : HelperQuestion)
        (along : Store.Resembles.Along Known pairing l r) :
        AnswerAlike (Store.Resembles.Along Known) pairing Value.Paired
          (question.answer definition owner identity l.1 l.2)
          (question.answer definition owner opposite r.1 r.2) := by
      cases question with
      | get name =>
        obtain ⟨larger, le, ⟨stores, same⟩, results⟩ :=
          along.2.1.read along.1 defaults name
        exact ⟨larger, le, ⟨stores, same, along.2.2.mono le⟩, results⟩
      | identity name =>
        refine ⟨pairing, le_rfl, along, .ok ?_⟩
        have known := along.2.2 name
        generalize identity.get? name = value, opposite.get? name = against at known ⊢
        cases known with
        | none => exact .scalar rfl
        | some values => exact values
    have along : Store.Resembles.Along Known pairing (left, store) (right, other) :=
      ⟨stores, same, identities⟩
    obtain ⟨larger, le, ⟨stores, same, _⟩, results⟩ := helpers found upheld
      (fun _ _ _ question along => answers question along) owner name along values
    exact Or.inr ⟨_, _, rfl, rfl, larger, le, ⟨stores, same⟩, results⟩

end Resembles

end Variables

end ReactiveView
