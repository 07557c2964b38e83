/-
**Templates over variables that are known.**

A scope of known variables changes nothing but its store, which only grows. Two of them agree if what
they know is paired. Knowing more changes no rendering that succeeds; and a component whose variables
are all there is rendered as from what is known of them.

* `Scope.agreeExcept_ofKnown` — what is known is paired, except for what is dirty.
* `render_ofKnown_mono` — more is known.
* `render_of_covers`, `render_of_within` — what is known, and a source that has it.
-/

import ReactiveView.Proofs.Component.Sources

namespace ReactiveView

open Render

variable {τ α : Type} {definition : ComponentDef} {owner : Owner}
  {identity : OrderedMap String Value}

/-! ### What a scope of known variables does alone -/

/-- A helper that runs on known variables only makes the store grow. -/
theorem HelperCode.grows_answer {helper : HelperCode} (determined : HelperCode.Determined helper)
    (name : String) (arguments : List Value) (known : String → Option Value) (missed : Bool)
    (store : Store) :
    store.Grows (HelperCode.answer helper owner name arguments
      (HelperQuestion.answerFrom identity (.ofKnown definition known)) missed store).2.2 := by
  have steps := Program.steps_run (determined.readsOnly owner arguments)
    (HelperQuestion.answerFrom identity (.ofKnown definition known)) missed store
  simp only [HelperCode.answer]
  generalize (helper owner arguments).run _ missed store = reached at steps ⊢
  have grows {before after : Bool × Store} (step : Program.Step
      (HelperQuestion.answerFrom identity (.ofKnown definition known)) before after) :
      before.2.Grows after.2 := by
    cases step with
    | reads world reads => exact reads.toGrows
    | ask question world store =>
      cases question with
      | identity name => exact .refl store
      | get name =>
        simp only [HelperQuestion.answerFrom, Source.ofKnown]
        split
        · split <;> exact .refl store
        · exact .refl store
  obtain ⟨result, after⟩ := reached
  change Relation.ReflTransGen _ (missed, store) after at steps
  change store.Grows after.2
  induction steps with
  | refl => exact .refl store
  | tail _ step ih => exact ih.trans (grows step)

theorem Source.grows_helper (faithful : definition.Faithful) (known : String → Option Value)
    (name : String) (arguments : List Value) (missed : Bool) (store : Store) :
    store.Grows ((Source.ofKnown definition known).helper definition owner identity name arguments
      missed store).2.2 := by
  unfold Source.helper
  cases found : definition.declared.helpers.get? name with
  | none => exact .refl store
  | some helper => exact HelperCode.grows_answer (faithful.helpers found) name arguments known _ _

/-- A scope of known variables only makes its store grow. -/
theorem Scope.grows_of_move_ofKnown (faithful : definition.Faithful) {known : String → Option Value}
    {before after : Unit × Store}
    (move : (Scope.ofKnown definition owner identity known).Move before after) :
    before.2.Grows after.2 := by
  cases move with
  | grow _ grows => exact grows
  | call name arguments _ store => exact Source.grows_helper faithful known name arguments false store
  | child _ _ _ store => exact .refl store
  | lookup name _ store =>
    change store.Grows ((Scope.ofSource definition owner identity
      (.ofKnown definition known)).lookup name false store).2.2
    simp only [Scope.ofSource]
    split
    · next declared =>
      simp only [Source.ofKnown, declared, if_true]
      cases known name <;> exact .refl store
    · split
      · exact .refl store
      · exact Source.grows_helper faithful known name [] false store

/-! ### Knowing alike -/

/-- Surroundings of two helpers over known variables, whose stores are paired at least like this. -/
def Store.PairedMissing (least pairing : Pairing) (l r : Bool × Store) : Prop :=
  l.1 = r.1 ∧ Store.PairedBeyond least pairing ((), l.2) ((), r.2)

section

variable {first second : String → Option Value} {names : String → Prop} {least : Pairing}

theorem Source.accord_ofKnown (known : ∀ name, definition.declares name = true → names name →
      Option.Rel (Value.Paired least) (first name) (second name))
    (identified : identity.Paired least identity) :
    Source.Accord identity identity (.ofKnown definition first) (.ofKnown definition second) names
      (Store.PairedMissing least) where
  paired alike := alike.2.2
  advance alike advance :=
    ⟨alike.1, alike.2.1.trans advance.enlarges, advance.paired⟩
  identity alike name := OrderedMap.Paired.get? (OrderedMap.Paired.mono alike.2.1 identified) name
  read {pairing l r name} alike clean := by
    refine ⟨pairing, le_rfl, ?_⟩
    unfold Source.ofKnown
    cases declared : definition.declares name with
    | false => exact ⟨alike, .error _⟩
    | true =>
      have same := known name declared clean
      generalize first name = found, second name = other at same ⊢
      cases same with
      | none => exact ⟨⟨rfl, alike.2⟩, .error _⟩
      | some same => exact ⟨alike, .ok (same.mono alike.2.1)⟩

theorem Answer.unmissed_alike {relation : Pairing → α → α → Prop} {pairing : Pairing}
    {left right : Answer Bool α}
    (alike : AnswerAlike (Store.PairedMissing least) pairing relation left right) :
    AnswerAlike (Store.PairedBeyond least) pairing relation left.unmissed right.unmissed := by
  obtain ⟨larger, le, around, results⟩ := alike
  refine ⟨larger, le, around.2, ?_⟩
  unfold Answer.unmissed
  rw [around.1]
  split
  · exact .error _
  · exact results

/-- **What is known agrees if it is paired**, except for what is dirty; a dirty component has dirty
helpers, and without one nothing is dirty. -/
theorem Scope.agreeExcept_ofKnown (faithful : definition.Faithful) {dirty : NameSet}
    {left right : Store} {pairing : Pairing} (paired : Store.Paired pairing left right)
    (identified : identity.Paired pairing identity)
    (known : ∀ name, definition.declares name = true → name ∉ dirty →
      Option.Rel (Value.Paired pairing) (first name) (second name))
    (whole : Template.componentName ∉ dirty → ∀ name, name ∉ dirty)
    (helper : ∀ name, definition.hasHelper name = true → name ∉ dirty →
      Template.componentName ∉ dirty) :
    AgreeExcept dirty (ofKnown definition owner identity first) ((), left)
      (ofKnown definition owner identity second) ((), right) := by
  have accord := @Scope.accord_ofSource _ _ _ _ owner _ _ _ _ _ faithful
    (Source.accord_ofKnown known identified) _ whole helper
  have enter {larger : Pairing} {l r : Unit × Store} (alike : Store.PairedBeyond pairing larger l r) :
      Store.PairedMissing pairing larger (false, l.2) (false, r.2) := ⟨rfl, alike⟩
  refine ⟨Store.PairedBeyond pairing, pairing, ?_, le_rfl, paired⟩
  exact {
    paired := fun alike => alike.2
    moveLeft := fun alike move => alike.grow (grows_of_move_ofKnown faithful move) (.refl _)
    moveRight := fun alike move => alike.grow (.refl _) (grows_of_move_ofKnown faithful move)
    advance := fun alike advance => ⟨alike.1.trans advance.enlarges, advance.paired⟩
    lookup := fun alike clean => Answer.unmissed_alike (accord.lookup (enter alike) clean)
    call := fun alike answered same =>
      Answer.unmissed_alike (accord.call (enter alike) answered same)
    child := fun _ answered => absurd rfl answered.1 }

end

/-! ### Knowing more -/

theorem Answer.Mirrors.unmissed {left : Answer Unit α} {right : Answer Bool α}
    (mirrors : Answer.Mirrors (fun _ missed => missed = false) (fun _ => True) left right) :
    Answer.Mirrors (fun _ _ => True) (fun _ => True) left right.unmissed := by
  cases mirrors with
  | same related =>
    subst related
    exact .same trivial
  | refused _ => exact .refused trivial

variable (template : Template) (dirty : Dirty) (view : ClientView) (config : Config)
  {known : String → Option Value}

/-- **Knowing more** changes no rendering that succeeds. -/
theorem render_ofKnown_mono {more : String → Option Value}
    (le : ∀ name value, known name = some value → more name = some value) {store : Store}
    {rendered : Rendered} (ok : (render template dirty view
      (Scope.ofKnown definition owner identity known) config () store).1 = .ok rendered) :
    (render template dirty view (Scope.ofKnown definition owner identity more) config ()
      store).1 = .ok rendered := by
  have covers : Source.Covers definition known (.ofKnown definition more) false fun _ => True := by
    refine ⟨fun declared found store => ?_, fun _ _ _ => trivial, fun undeclared store => ?_,
      fun _ _ _ => trivial⟩
    · simp only [Source.ofKnown, declared, if_true, le _ _ found]
    · simp only [Source.ofKnown, undeclared, Bool.false_eq_true, if_false]
  have mirrors : (Scope.ofKnown definition owner identity known).Mirrors
      (Scope.ofKnown definition owner identity more) (fun _ _ => True) (fun _ => True) :=
    have whole := Scope.mirrors_ofKnown covers
    { lookup := fun {world _} _ name store => (whole.lookup rfl name store).unmissed
      call := fun {world _} _ name arguments store =>
        (whole.call rfl name arguments store).unmissed
      child := fun {world _} _ className id store =>
        (whole.child rfl className id store).unmissed
      lookupOut := fun _ _ _ => trivial
      callOut := fun _ _ _ _ => trivial
      childOut := fun _ _ _ _ => trivial }
  have ended := @mirrored_render _ _ _ _ _ _ mirrors config template dirty view () () trivial store
  rcases ended with ⟨same, _⟩ | ⟨⟨error, failed⟩, _⟩
  · exact same ▸ ok
  · cases ok.symm.trans failed

section

variable {source : Source τ} {world : τ} {out : τ → Prop}
  (covers : Source.Covers definition known source world out) {store : Store}
include covers

/-- **A rendering from what is known** is the rendering from any source that has it. -/
theorem render_of_covers {rendered : Rendered} (ok : (render template dirty view
      (Scope.ofKnown definition owner identity known) config () store).1 = .ok rendered) :
    (render template dirty view (Scope.ofSource definition owner identity source) config world
        store).1 = .ok rendered ∧
      (render template dirty view (Scope.ofSource definition owner identity source) config world
        store).2.2.1 = world := by
  have ended := @mirrored_render _ _ _ _ _ _ (@Scope.mirrors_ofKnown _ _ owner identity _ _ _ _ covers)
    config template dirty view () _ rfl store
  rcases ended with ⟨same, _, stays, _⟩ | ⟨⟨error, failed⟩, _⟩
  · exact ⟨same ▸ ok, stays⟩
  · cases ok.symm.trans failed

/-- A rendering from a source that stays within what is known is one from what is known. -/
theorem render_of_within (within : ¬ out (render template dirty view
      (Scope.ofSource definition owner identity source) config world store).2.2.1) :
    (render template dirty view (Scope.ofKnown definition owner identity known) config ()
        store).1 =
      (render template dirty view (Scope.ofSource definition owner identity source) config world
        store).1 := by
  have ended := @mirrored_render _ _ _ _ _ _ (@Scope.mirrors_ofKnown _ _ owner identity _ _ _ _ covers)
    config template dirty view () _ rfl store
  rcases ended with ⟨same, _⟩ | ⟨_, gone⟩
  · exact same
  · exact absurd gone within

end

end ReactiveView
