/-
**Variables as a template reaches them.**

A variable that has a value is read as it is. One that has none yet is given its default, which is
stored, so from then on it has that value. Nothing else happens to the variables of a component while
its template is rendered.

* `Variables.known` — the values that the declared variables have.
* `Variables.step_cases` — all that one step of a rendering does to them.
* `Scope.ofReached`, `World.render_scopeOf` — the scope of a component without children.
* `Variables.covers_read` — reading, as far as values are known.
-/

import ReactiveView.Proofs.Component.Known
import ReactiveView.Proofs.Container.Frames
import ReactiveView.Proofs.Render.Shown
import ReactiveView.Proofs.Render.Twins
import ReactiveView.Session.Rendering

namespace ReactiveView

open Render

namespace Variables

variable {definition : ComponentDef} {owner : Owner} {reached : Variables} {name : String}
  {default : VarDefault} {value : Value} {store stage : Store}

/-- The value of a declared variable, if it has one. -/
def known (definition : ComponentDef) (reached : Variables) (name : String) : Option Value :=
  if definition.isReactive name then reached.own.values.get? name
  else reached.shared.values.get? name

/-- Stores a value under a declared name without marking it. -/
def watch (definition : ComponentDef) (name : String) (value : Value) (reached : Variables)
    (store : Store) : Variables × Store :=
  if definition.isReactive name then
    ({ reached with own := (reached.own.watch name value store).1 },
      (reached.own.watch name value store).2)
  else
    ({ reached with shared := (reached.shared.watch name value store).1 },
      (reached.shared.watch name value store).2)

theorem known_watch (definition : ComponentDef) (name : String) (value : Value)
    (reached : Variables) (store : Store) (other : String) :
    known definition (reached.watch definition name value store).1 other =
      if other = name then some value else known definition reached other := by
  unfold watch known
  by_cases same : other = name
  · subst same
    rw [if_pos rfl]
    cases definition.isReactive other <;>
      simp [Container.values_watch, OrderedMap.get?_insert_self]
  · rw [if_neg same]
    cases definition.isReactive name <;> cases definition.isReactive other <;>
      simp [Container.values_watch, OrderedMap.get?_insert_of_ne _ same]

theorem extends_watch (definition : ComponentDef) (name : String) (value : Value)
    (reached : Variables) (store : Store) :
    store.Extends (reached.watch definition name value store).2 := by
  unfold watch
  split <;> exact (Container.frame_watch ..).1

/-! ### Reading -/

theorem read_of_undeclared (undeclared : definition.declares name = false) (owner : Owner)
    (reached : Variables) (store : Store) :
    reached.read definition owner name store =
      (.error (definition.unknownVariable name), reached, store) := by
  have absent : definition.declared.reactive.get? name = none ∧
      definition.declared.shared.get? name = none := by
    simpa [ComponentDef.declares, ComponentDef.isReactive, ComponentDef.isShared,
      OrderedMap.contains] using undeclared
  simp only [read, read?, absent, Option.getD_none]

/-- Whether a name is a variable of the component itself, or else one of the session. -/
theorem default_cases (found : definition.default? name = some default) :
    (definition.isReactive name = true ∧
      definition.declared.reactive.get? name = some default) ∨
    (definition.isReactive name = false ∧ definition.declared.reactive.get? name = none ∧
      definition.declared.shared.get? name = some default) := by
  unfold ComponentDef.default? at found
  cases own : definition.declared.reactive.get? name with
  | some other =>
    rw [own] at found
    exact Or.inl ⟨by simp [ComponentDef.isReactive, OrderedMap.contains, own], found⟩
  | none =>
    rw [own] at found
    exact Or.inr ⟨by simp [ComponentDef.isReactive, OrderedMap.contains, own], rfl, found⟩

/-- A variable that has a value is read as it is. -/
theorem read_of_known (declared : definition.declares name = true)
    (has : known definition reached name = some value) (owner : Owner) (store : Store) :
    reached.read definition owner name store = (.ok value, reached, store) := by
  rw [definition.declares_eq, Option.isSome_iff_exists] at declared
  obtain ⟨default, found⟩ := declared
  unfold known at has
  rcases default_cases found with ⟨reactive, own⟩ | ⟨reactive, own, shared⟩
  · simp only [reactive, if_true] at has
    simp only [read, read?, own, Container.get, has, Option.getD_some]
  · simp only [reactive, Bool.false_eq_true, if_false] at has
    simp only [read, read?, own, shared, Container.get, has, Option.getD_some]

/-- A variable that has none yet is given its default. -/
theorem read_of_unknown (found : definition.default? name = some default)
    (lacks : known definition reached name = none)
    (made : default.compute name owner store = (.ok value, stage)) :
    reached.read definition owner name store =
      (.ok value, reached.watch definition name value stage) := by
  unfold known at lacks
  unfold watch
  rcases default_cases found with ⟨reactive, own⟩ | ⟨reactive, own, shared⟩
  · simp only [reactive, if_true] at lacks ⊢
    simp only [read, read?, own, Container.get, lacks, made, Option.getD_some]
  · simp only [reactive, Bool.false_eq_true, if_false] at lacks ⊢
    simp only [read, read?, own, shared, Container.get, lacks, made, Option.getD_some]

/-- **One step of a rendering**, as far as variables and store are concerned. -/
inductive Step (definition : ComponentDef) (owner : Owner) :
    Variables × Store → Variables × Store → Prop
  | reads (reached : Variables) {before after : Store} (reads : before.Reads after) :
    Step definition owner (reached, before) (reached, after)
  | read (name : String) (reached : Variables) (store : Store) :
    Step definition owner (reached, store) (reached.read definition owner name store).2

/-- **All that one step does**: nodes are read and made, or a variable is given its default. -/
theorem step_cases (steady : definition.Steady) {before after : Variables × Store}
    (step : Step definition owner before after) :
    (after.1 = before.1 ∧ before.2.Reads after.2) ∨
      ∃ name default value stage, definition.default? name = some default ∧
        known definition before.1 name = none ∧
        default.compute name owner before.2 = (.ok value, stage) ∧
        after = before.1.watch definition name value stage := by
  cases step with
  | reads reached reads => exact Or.inl ⟨rfl, reads⟩
  | read name reached store =>
    cases found : definition.default? name with
    | none =>
      have undeclared : definition.declares name = false := by
        rw [definition.declares_eq, found]
        rfl
      rw [read_of_undeclared undeclared]
      exact Or.inl ⟨rfl, .refl store⟩
    | some default =>
      cases has : known definition reached name with
      | some value =>
        have declared : definition.declares name = true := by
          rw [definition.declares_eq, found]
          rfl
        rw [read_of_known declared has]
        exact Or.inl ⟨rfl, .refl store⟩
      | none =>
        obtain ⟨_, value, _, stage, _, made, _⟩ := steady.defaults found name owner store store
        rw [read_of_unknown found has made]
        exact Or.inr ⟨name, default, value, stage, found, has, made, rfl⟩

/-- What has a value keeps it. -/
theorem known_of_step (steady : definition.Steady) {before after : Variables × Store}
    (step : Step definition owner before after) {value : Value}
    (has : known definition before.1 name = some value) :
    known definition after.1 name = some value := by
  rcases step_cases steady step with ⟨same, _⟩ | ⟨other, _, _, _, _, lacks, _, rfl⟩
  · rw [same]
    exact has
  · rw [known_watch, if_neg fun same => by rw [same, lacks] at has; cases has]
    exact has

/-! ### Reading as far as values are known -/

/-- A variable that has no value yet has one afterwards. -/
def Caches (definition : ComponentDef) (before after : Variables) : Prop :=
  ∃ name, definition.declares name = true ∧ known definition before name = none ∧
    known definition after name ≠ none

theorem covers_read (steady : definition.Steady) (owner : Owner) (reached : Variables) :
    Source.Covers definition (known definition reached) (read definition owner) reached
      (Caches definition reached) where
  has declared has := read_of_known declared has owner
  lacks {name} declared lacks store := by
    refine ⟨name, declared, lacks, ?_⟩
    rw [definition.declares_eq, Option.isSome_iff_exists] at declared
    obtain ⟨default, found⟩ := declared
    obtain ⟨_, value, _, stage, _, made, _⟩ := steady.defaults found name owner store store
    rw [read_of_unknown found lacks made, known_watch, if_pos rfl]
    nofun
  undeclared undeclared := read_of_undeclared undeclared owner reached
  stays {after} gone asked store := by
    obtain ⟨name, declared, lacks, has⟩ := gone
    obtain ⟨value, has⟩ := Option.ne_none_iff_exists'.mp has
    refine ⟨name, declared, lacks, ?_⟩
    rw [known_of_step steady (.read asked after store) has]
    nofun

end Variables

/-! ### The scope of a component -/

/-- **The scope of a component without children** that reaches some variables. -/
def Scope.ofReached (definition : ComponentDef) (owner : Owner)
    (identity : OrderedMap String Value) : Scope Variables :=
  .ofSource definition owner identity (Variables.read definition owner)

section

variable {definition : ComponentDef} {owner : Owner} {identity : OrderedMap String Value}

theorem HelperQuestion.answer_eq (definition : ComponentDef) (owner : Owner)
    (identity : OrderedMap String Value) : HelperQuestion.answer definition owner identity =
      HelperQuestion.answerFrom identity (Variables.read definition owner) := by
  funext question
  cases question <;> rfl

/-- A helper goes on by steps. -/
theorem Variables.steps_helper (solitary : definition.Solitary) (name : String)
    (arguments : List Value) (reached : Variables) (store : Store) :
    Relation.ReflTransGen (Variables.Step definition owner) (reached, store)
      (Source.helper (Variables.read definition owner) definition owner identity name arguments
        reached store).2 := by
  unfold Source.helper
  cases found : definition.declared.helpers.get? name with
  | none => exact .refl
  | some helper =>
    have steps := Program.steps_run (solitary.readsOnly found owner arguments)
      (HelperQuestion.answerFrom identity (Variables.read definition owner)) reached store
    refine Relation.ReflTransGen.mono (fun before after step => ?_) _ _ steps
    cases step with
    | reads world reads => exact .reads world reads
    | ask question world store =>
      cases question with
      | get name => exact .read name world store
      | identity name => exact .reads world (.refl store)

end

namespace World

variable {renderChild : String → String → World → Store → Answer World ChildRender}
  {component : Instance} {world : World}

/-- The helpers of a component, by the variables that it reaches. -/
theorem callHelper_eq (component : Instance) (name : String) (arguments : List Value)
    (state : RenderState) (store : Store) :
    RenderState.callHelper component.definition component.owner name arguments state store =
      let (result, reached, store) := Source.helper
        (Variables.read component.definition component.owner) component.definition component.owner
        state.world.identity name arguments state.reached store
      (result, state.withVariables reached, store) := by
  unfold RenderState.callHelper Variables.callHelper Source.helper
  cases component.definition.declared.helpers.get? name with
  | none => rfl
  | some helper =>
    simp only [Option.map_some, HelperCode.answer, HelperQuestion.answer_eq]

/-- The scope of a component answers as its variables do. -/
theorem twins_scopeOf (solitary : component.definition.Solitary) (start : Variables × Store) :
    (scopeOf renderChild component).Twins
      (Scope.ofReached component.definition component.owner world.identity) (· ≠ "child")
      (fun state reached => state = ⟨reached.own, { world with shared := reached.shared }⟩)
      (Relation.ReflTransGen (Variables.Step component.definition component.owner) start) where
  reads visited reads := visited.tail (.reads _ reads.toReads)
  lookup {state reached store} same visited name := by
    subst same
    simp only [scopeOf, RenderState.lookup, Scope.ofReached, Scope.ofSource]
    cases declared : component.definition.declares name with
    | true =>
      have read : Variables.read? component.definition component.owner name reached store =
          some (reached.read component.definition component.owner name store) := by
        unfold Variables.read
        have some : (Variables.read? component.definition component.owner name reached
            store).isSome = true := by
          simp only [ComponentDef.declares, ComponentDef.isReactive, ComponentDef.isShared,
            OrderedMap.contains, Bool.or_eq_true] at declared
          unfold Variables.read?
          split
          · rfl
          · next own =>
            rw [own] at declared
            split
            · rfl
            · next shared =>
              rw [shared] at declared
              simp at declared
        obtain ⟨answer, found⟩ := Option.isSome_iff_exists.mp some
        rw [found]
        rfl
      simp only [RenderState.reached, if_true, read]
      exact ⟨rfl, rfl, rfl, visited.tail (.read name reached store)⟩
    | false =>
      have absent : component.definition.declared.reactive.get? name = none ∧
          component.definition.declared.shared.get? name = none := by
        simpa [ComponentDef.declares, ComponentDef.isReactive, ComponentDef.isShared,
          OrderedMap.contains] using declared
      simp only [Variables.read?, absent, Bool.false_eq_true, if_false]
      cases world.identity.get? name with
      | some value => exact ⟨rfl, rfl, rfl, visited⟩
      | none =>
        simp only [callHelper_eq]
        exact ⟨rfl, rfl, rfl, visited.trans (Variables.steps_helper solitary name [] reached store)⟩
  call {state reached store} same visited name arguments := by
    subst same
    simp only [scopeOf, callHelper_eq]
    exact ⟨rfl, rfl, rfl,
      visited.trans (Variables.steps_helper solitary name arguments reached store)⟩
  child _ _ none := absurd rfl none

/-- **A component that calls for no child is rendered as its variables have it**, and the rendering
goes by steps. -/
theorem render_scopeOf (solitary : component.definition.Solitary) {template : Template}
    (found : component.definition.template component.variant = .ok template) (dirty : Dirty)
    (view : ClientView) (config : Config) (store : Store) :
    let (result, seen, state, stored) := Render.render template dirty view
      (scopeOf renderChild component) config ⟨component.container, world⟩ store
    let (answer, shown, reached, kept) := Render.render template dirty view
      (Scope.ofReached component.definition component.owner world.identity) config
      (world.variablesOf component) store
    result = answer ∧ seen = shown ∧
      state = ⟨reached.own, { world with shared := reached.shared }⟩ ∧ stored = kept ∧
      Relation.ReflTransGen (Variables.Step component.definition component.owner)
        (world.variablesOf component, store) (reached, kept) :=
  (twins_scopeOf solitary _).render_of_twins (fun part member _ called =>
    ne_of_mem_of_not_mem called (solitary.childless found part member)) dirty view config rfl .refl

end World

end ReactiveView
