/-
**Code that treats alike what is alike.**

Code holds values by their handles. It makes values, reads what hangs on them and writes to them, but it
cannot tell where in a store a value lies, nor what else the store holds. So whatever relates two stores,
as long as it survives everything that code does to paired values, code that starts from related stores
with paired values ends in related stores, with paired results.

* `Upheld` — what survives all that code does to values, with or without the handles that code keeps.
* `VarDefault.Uniform`, `HelperCode.Uniform` — code that treats alike what is alike.
* `ActionCode.Own` — code of an action that has to do with nothing but the variables of its own component.
* `Program.KeepsFinite` — code by which no value comes to contain itself.
-/

import ReactiveView.Component.Variables
import ReactiveView.Proofs.Component.Likeness
import ReactiveView.Proofs.Tracked.Writing

namespace ReactiveView

open Render

variable {σ τ α : Type}

/-! ### Names on both sides -/

/-- Names that have values on both sides, which are paired, or on neither. -/
def OrderedMap.Resembles (pairing : Pairing) (left right : OrderedMap String Value) : Prop :=
  ∀ name, Option.Rel (Value.Paired pairing) (left.get? name) (right.get? name)

namespace OrderedMap.Resembles

variable {pairing larger : Pairing} {left right : OrderedMap String Value} {value other : Value}

theorem mono (same : left.Resembles pairing right) (le : pairing ≤ larger) :
    left.Resembles larger right := fun name => Value.Paired.monoOption le (same name)

theorem insert (same : left.Resembles pairing right) (values : value.Paired pairing other)
    (name : String) : (left.insert name value).Resembles pairing (right.insert name other) := by
  intro asked
  by_cases here : asked = name
  · subst here
    rw [OrderedMap.get?_insert_self, OrderedMap.get?_insert_self]
    exact .some values
  · rw [OrderedMap.get?_insert_of_ne _ here, OrderedMap.get?_insert_of_ne _ here]
    exact same asked

end OrderedMap.Resembles

/-! ### What survives what code does -/

/-- **What survives all that code does to values**: code makes them, reads out of them and writes to them.
If it `keeps` handles for later, those that are kept are paired as well. -/
structure Upheld (keeps : Prop) (Alike : Pairing → σ × Store → τ × Store → Prop) : Prop where
  paired : ∀ {pairing l r}, Alike pairing l r → Store.Paired pairing l.2 r.2
  make : ∀ {pairing l r content other}, Alike pairing l r → Content.Paired pairing content other →
    Alike (pairing.add l.2.nodes.size r.2.nodes.size) (l.1, (l.2.make content).2)
      (r.1, (r.2.make other).2)
  derive : ∀ {pairing l r first second content other}, Alike pairing l r → pairing first second →
    Content.Paired pairing content other →
    Alike (pairing.add l.2.nodes.size r.2.nodes.size) (l.1, (l.2.derive first content).2)
      (r.1, (r.2.derive second other).2)
  inherit : ∀ {pairing l r first second value other}, Alike pairing l r → pairing first second →
    Value.Paired pairing value other →
    Alike pairing (l.1, l.2.inherit value (l.2.bindings first))
      (r.1, r.2.inherit other (r.2.bindings second))
  mutate : ∀ {pairing l r first second content other}, Alike pairing l r → pairing first second →
    Content.Paired pairing content other → (l.2.mutate first content).Finite first →
    Alike pairing (l.1, l.2.mutate first content) (r.1, r.2.mutate second other)
  kept : keeps → ∀ {pairing l r}, Alike pairing l r → l.2.kept.Resembles pairing r.2.kept
  keep : keeps → ∀ {pairing l r value other}, Alike pairing l r → Value.Paired pairing value other →
    ∀ name, Alike pairing (l.1, l.2.keep name value) (r.1, r.2.keep name other)

/-! ### Code -/

/-- **A default that treats alike what is alike.** If it keeps no handles, it is made afresh, and alike,
wherever it is made. -/
def VarDefault.Uniform (keeps : Prop) (default : VarDefault) : Prop :=
  ∀ ⦃σ τ : Type⦄ ⦃Alike : Pairing → σ × Store → τ × Store → Prop⦄, Upheld keeps Alike →
    ∀ (name : String) (owner : Owner) ⦃pairing : Pairing⦄ ⦃l : σ × Store⦄ ⦃r : τ × Store⦄,
      Alike pairing l r → AnswerAlike Alike pairing Value.Paired
        (inWorld l.1 (default.compute name owner l.2)) (inWorld r.1 (default.compute name owner r.2))

/-- **A helper that treats alike what is alike**: its arguments, the answers it gets, and what code has
kept. -/
def HelperCode.Uniform (code : HelperCode) : Prop :=
  ∀ ⦃σ τ : Type⦄ ⦃left : Program.Answering HelperQuestion σ⦄
    ⦃right : Program.Answering HelperQuestion τ⦄
    ⦃Alike : Pairing → σ × Store → τ × Store → Prop⦄, Upheld True Alike →
    (∀ ⦃pairing l r⦄ (question : HelperQuestion), Alike pairing l r →
      AnswerAlike Alike pairing Value.Paired (left question l.1 l.2) (right question r.1 r.2)) →
    ∀ (owner : Owner) (name : String) ⦃pairing l r values others⦄, Alike pairing l r →
      List.Forall₂ (Value.Paired pairing) values others →
      AnswerAlike Alike pairing Value.Paired
        (HelperCode.answer code owner name values left l.1 l.2)
        (HelperCode.answer code owner name others right r.1 r.2)

/-- Code that leaves finite what is: no value comes to contain itself. -/
def Program.KeepsFinite {Question : Type} (answering : Program.Answering Question σ) :
    Program Question α → σ → Store → Prop
  | .done _, _, _ => True
  | .look next, world, store => (next store).KeepsFinite answering world store
  | .perform operation next, world, store =>
    (∀ ⦃ref⦄, store.Finite ref → (operation.run store).2.Finite ref) ∧
      (next (operation.run store).1).KeepsFinite answering world (operation.run store).2
  | .keep name value next, world, store => next.KeepsFinite answering world (store.keep name value)
  | .ask question next, world, store =>
    (next (answering question world store).1).KeepsFinite answering
      (answering question world store).2.1 (answering question world store).2.2

/-- Two questions about nothing but the component itself, with paired values: about its variables, which
are not those of the session, and about its template. -/
inductive ActionQuestion.Own (definition : ComponentDef) (pairing : Pairing) :
    ActionQuestion → ActionQuestion → Prop
  | get {name : String} (own : definition.isShared name = false) :
    Own definition pairing (.get name) (.get name)
  | set {name : String} {value other : Value} (own : definition.isShared name = false)
    (values : value.Paired pairing other) :
    Own definition pairing (.set name value) (.set name other)
  | markDirty {names : List String} (own : ∀ name ∈ names, definition.isShared name = false) :
    Own definition pairing (.markDirty names) (.markDirty names)
  | touch : Own definition pairing .touch .touch
  | variant : Own definition pairing .variant .variant
  | setVariant (variant : String) : Own definition pairing (.setVariant variant) (.setVariant variant)

/-- **Code of an action that has to do with nothing but its own component**: it treats alike what is alike,
asks of nothing else, and neither keeps handles nor uses kept ones. -/
def ActionCode.Own (definition : ComponentDef) (code : ActionCode) : Prop :=
  ∀ ⦃σ τ : Type⦄ ⦃left : Program.Answering ActionQuestion σ⦄
    ⦃right : Program.Answering ActionQuestion τ⦄
    ⦃Alike : Pairing → σ × Store → τ × Store → Prop⦄, Upheld False Alike →
    (∀ ⦃pairing l r question other⦄, Alike pairing l r →
      ActionQuestion.Own definition pairing question other →
      AnswerAlike Alike pairing Value.Paired (left question l.1 l.2) (right other r.1 r.2)) →
    ∀ (owner : Owner) ⦃pairing l r⦄, Alike pairing l r → (code owner).KeepsFinite left l.1 l.2 →
      ∃ larger, pairing ≤ larger ∧
        Alike larger ((code owner).run left l.1 l.2).2 ((code owner).run right r.1 r.2).2 ∧
        ((code owner).run left l.1 l.2).1 = ((code owner).run right r.1 r.2).1

/-- **A sub-message that has to do with nothing but its own component.** -/
def SubMessage.Own (definition : ComponentDef) : SubMessage → Prop
  | .action _ name params => ∀ action, definition.action? name = some action →
    ActionCode.Own definition (action.code params)
  | .assign _ name _ => definition.isShared name = false

/-- **A class all of whose code treats alike what is alike**, with the classes of its children. -/
inductive ComponentDef.Uniform : ComponentDef → Prop
  | intro {definition : ComponentDef}
    (defaults : ∀ {name default}, definition.default? name = some default → default.Uniform True)
    (helpers : ∀ {name helper}, definition.declared.helpers.get? name = some helper →
      HelperCode.Uniform helper)
    (children : ∀ {className child}, definition.child className = .ok child → child.Uniform) :
    definition.Uniform

/-! ### Values made from plain data -/

namespace Upheld

/-- What survives code that keeps handles survives code that does not. -/
theorem weaken {keeps : Prop} {Alike : Pairing → σ × Store → τ × Store → Prop}
    (upheld : Upheld True Alike) : Upheld keeps Alike :=
  { upheld with kept := fun _ => upheld.kept trivial, keep := fun _ => upheld.keep trivial }

variable {keeps : Prop} {Alike : Pairing → σ × Store → τ × Store → Prop}

/-- A whole number is a scalar. -/
theorem plain_ofWhole (number : Int) : (Value.ofWhole number).ref? = none := by
  unfold Value.ofWhole
  split <;> rfl

mutual

/-- **Plain data makes values that are alike.** -/
theorem ofJson (upheld : Upheld keeps Alike) (json : Json) {pairing : Pairing} {l : σ × Store} {r : τ × Store}
    (alike : Alike pairing l r) : ∃ larger, pairing ≤ larger ∧
      Alike larger (l.1, (Value.ofJson l.2 json).2) (r.1, (Value.ofJson r.2 json).2) ∧
      (Value.ofJson l.2 json).1.Paired larger (Value.ofJson r.2 json).1 :=
  match json with
  | .null | .bool _ | .float _ | .string _ => ⟨pairing, le_rfl, alike, .scalar rfl⟩
  | .int number => ⟨pairing, le_rfl, alike, .scalar (plain_ofWhole number)⟩
  | .array items => by
    obtain ⟨larger, le, alike, values⟩ := upheld.ofJsonItems items alike
    exact ⟨_, le.trans (larger.le_add _ _), upheld.make alike (.list values),
      .list (Or.inr ⟨rfl, rfl⟩)⟩
  | .object members => by
    obtain ⟨larger, le, alike, entries⟩ := upheld.ofJsonMembers members alike
    exact ⟨_, le.trans (larger.le_add _ _), upheld.make alike (.map (OrderedMap.Paired.ofList entries)),
      .map (Or.inr ⟨rfl, rfl⟩)⟩

theorem ofJsonItems (upheld : Upheld keeps Alike) (items : List Json) {pairing : Pairing}
    {l : σ × Store} {r : τ × Store} (alike : Alike pairing l r) : ∃ larger, pairing ≤ larger ∧
      Alike larger (l.1, (Value.ofJsonItems l.2 items).2) (r.1, (Value.ofJsonItems r.2 items).2) ∧
      List.Forall₂ (Value.Paired larger) (Value.ofJsonItems l.2 items).1
        (Value.ofJsonItems r.2 items).1 :=
  match items with
  | [] => ⟨pairing, le_rfl, alike, .nil⟩
  | item :: rest => by
    obtain ⟨larger, le, alike, value⟩ := upheld.ofJson item alike
    obtain ⟨largest, more, alike, values⟩ := upheld.ofJsonItems rest alike
    exact ⟨largest, le.trans more, alike, .cons (value.mono more) values⟩

theorem ofJsonMembers (upheld : Upheld keeps Alike) (members : List (String × Json))
    {pairing : Pairing} {l : σ × Store} {r : τ × Store} (alike : Alike pairing l r) : ∃ larger, pairing ≤ larger ∧
      Alike larger (l.1, (Value.ofJsonMembers l.2 members).2)
        (r.1, (Value.ofJsonMembers r.2 members).2) ∧
      List.Forall₂ (EntryPaired larger) (Value.ofJsonMembers l.2 members).1
        (Value.ofJsonMembers r.2 members).1 :=
  match members with
  | [] => ⟨pairing, le_rfl, alike, .nil⟩
  | (name, member) :: rest => by
    obtain ⟨larger, le, alike, value⟩ := upheld.ofJson member alike
    obtain ⟨largest, more, alike, entries⟩ := upheld.ofJsonMembers rest alike
    exact ⟨largest, le.trans more, alike, .cons ⟨rfl, value.mono more⟩ entries⟩

end

end Upheld

/-- A variable that starts as `nil` treats alike what is alike. -/
theorem VarDefault.uniform_absent (keeps : Prop) : VarDefault.absent.Uniform keeps :=
  fun _ _ _ _ _ _ pairing _ _ alike => ⟨pairing, le_rfl, alike, .ok (.scalar rfl)⟩

/-- So does one that starts with plain data. -/
theorem VarDefault.uniform_literal (keeps : Prop) (json : Json) :
    (VarDefault.literal json).Uniform keeps := by
  intro σ τ Alike upheld name owner pairing l r alike
  simp only [compute]
  split
  · exact ⟨pairing, le_rfl, alike, .error _⟩
  · obtain ⟨larger, le, alike, values⟩ := upheld.ofJson json alike
    exact ⟨larger, le, alike, .ok values⟩

end ReactiveView
