/-
**Sessions that resemble each other.**

Two sessions resemble each other if the same components stand in the same places, of the same classes and
with the same markup, and all variables and identity values are paired. Whatever is rendered then is
rendered alike in both: with the same markup, the same errors and the same messages, also where components
are rendered inside of others, come and go. It does not matter at which places of the store anything lies.

* `Instance.Resembles`, `World.Resembles` — components and sessions.
* `World.Renderer.Resembles`, `World.resembles_renderNested` — a rendering, with all that is inside of it.
* `Cycle.Resembles.renderAll` — all components that are to be rendered.
-/

import ReactiveView.Proofs.Component.Resemblance
import ReactiveView.Proofs.Session.Runs

namespace ReactiveView

open Render

/-! ### Components and sessions -/

/-- **Components that resemble each other**: of one class and with the same markup, and with paired
values. -/
structure Instance.Resembles (pairing : Pairing) (left right : Instance) : Prop where
  id : right.id = left.id
  definition : right.definition = left.definition
  view : right.view = left.view
  variant : right.variant = left.variant
  container : left.container.Resembles pairing right.container
  uniform : left.definition.Uniform

/-- **Sessions that resemble each other**: the same components in the same places, with paired variables and
identity values, and the same is to be sent. -/
structure World.Resembles (pairing : Pairing) (left right : World) : Prop where
  ids : right.ids = left.ids
  places : ∀ id, Option.Rel (Option.Rel (Instance.Resembles pairing)) (left.mounted.get? id)
    (right.mounted.get? id)
  shared : left.shared.Resembles pairing right.shared
  identity : left.identity.Resembles pairing right.identity
  config : right.config = left.config
  outgoing : right.outgoing = left.outgoing

theorem Instance.Resembles.mono {pairing larger : Pairing} {left right : Instance}
    (same : left.Resembles pairing right) (le : pairing ≤ larger) : left.Resembles larger right :=
  { same with container := same.container.mono le }

section

variable {α β : Type} {relation weaker : α → β → Prop} {left : Option α} {right : Option β}

theorem rel_imp (related : Option.Rel relation left right)
    (weaken : ∀ left right, relation left right → weaker left right) :
    Option.Rel weaker left right := by
  cases related with
  | none => exact .none
  | some related => exact .some (weaken _ _ related)

theorem eq_none_of_rel (related : Option.Rel relation none right) : right = none := by
  cases related
  rfl

theorem exists_of_rel {value : α} (related : Option.Rel relation (some value) right) :
    ∃ other, right = some other ∧ relation value other := by
  cases related with
  | some related => exact ⟨_, rfl, related⟩

end

namespace World

variable {pairing larger : Pairing} {world other : World} {component opposed : Instance}
  {store against : Store} {id : String}

/-- Sessions that resemble each other, over stores that do. -/
abbrev Akin : Pairing → World × Store → World × Store → Prop := Store.Resembles.Along Resembles

theorem destroyAll_of_absent (free : world.mounted.get? id = none) (rest : List String) :
    world.destroyAll (id :: rest) store = world.destroyAll rest store := by
  rw [World.destroyAll]
  split
  · rfl
  · next found => rw [free] at found; cases found

theorem destroyAll_of_found {place : Option Instance} (found : world.mounted.get? id = some place)
    (rest : List String) : world.destroyAll (id :: rest) store =
      (world.remove id).destroyAll ((endOf place store).1 ++ rest) (endOf place store).2 := by
  rw [World.destroyAll]
  split
  · next free => rw [free] at found; cases found
  · next there =>
    rw [found] at there
    cases there
    rfl

namespace Resembles

variable (same : world.Resembles pairing other)
include same

theorem mono (le : pairing ≤ larger) : world.Resembles larger other :=
  { same with
    places := fun id =>
      rel_imp (same.places id) fun _ _ place => rel_imp place fun _ _ like => like.mono le
    shared := same.shared.mono le
    identity := same.identity.mono le }

theorem contains_eq (id : String) : other.contains id = world.contains id := by
  have place := same.places id
  rw [World.contains_eq, World.contains_eq]
  generalize world.mounted.get? id = here, other.mounted.get? id = there at place ⊢
  cases place <;> rfl

/-- The same components can be reached. -/
theorem instance? (id : String) :
    AlikeResult (Instance.Resembles pairing) (world.instance? id) (other.instance? id) := by
  have place := same.places id
  unfold World.instance?
  generalize world.mounted.get? id = here, other.mounted.get? id = there at place ⊢
  cases place with
  | none => exact .error _
  | some place =>
    cases place with
    | none => exact .error _
    | some like => exact .ok like

/-- Something stands in a place, or none is there. -/
theorem insert {place opposite : Option Instance}
    (like : Option.Rel (Instance.Resembles pairing) place opposite) (id : String) :
    ({ world with mounted := world.mounted.insert id place } : World).Resembles pairing
      { other with mounted := other.mounted.insert id opposite } :=
  { same with
    ids := by
      change (other.mounted.insert id opposite).keys = (world.mounted.insert id place).keys
      rw [OrderedMap.keys_insert, OrderedMap.keys_insert, show other.mounted.keys = _ from same.ids]
      rfl
    places := fun asked => by
      rw [get?_insert_eq, get?_insert_eq]
      split
      · exact .some like
      · exact same.places asked }

theorem takeOut (id : String) : (world.takeOut id).Resembles pairing (other.takeOut id) :=
  same.insert .none id

theorem put (like : component.Resembles pairing opposed) :
    (world.put component).Resembles pairing (other.put opposed) := by
  unfold World.put
  rw [like.id]
  exact same.insert (.some like) component.id

theorem emit (id : String) (payload : Outbound) :
    (world.emit id payload).Resembles pairing (other.emit id payload) :=
  { same with outgoing := by simp [World.emit, same.outgoing] }

omit same in
/-- What stands in a place ends, with the same children on both sides. -/
theorem endOf (stores : Store.Resembles pairing store against) {place opposite : Option Instance}
    (like : Option.Rel (Instance.Resembles pairing) place opposite) :
    (World.endOf opposite against).1 = (World.endOf place store).1 ∧
      Store.Resembles pairing (World.endOf place store).2 (World.endOf opposite against).2 := by
  cases like with
  | none => exact ⟨rfl, stores⟩
  | @some component opposed like =>
    refine ⟨?_, stores.retain (Container.retains_drop ..) (Container.retains_drop ..)⟩
    simp only [World.endOf, World.shownIn, like.view]

theorem remove (id : String) : (world.remove id).Resembles pairing (other.remove id) := by
  have erased : ({ world with mounted := world.mounted.erase id } : World).Resembles pairing
      { other with mounted := other.mounted.erase id } :=
    { same with
      ids := by
        change (other.mounted.erase id).keys = (world.mounted.erase id).keys
        rw [OrderedMap.keys_erase, OrderedMap.keys_erase, show other.mounted.keys = _ from same.ids]
        rfl
      places := fun asked => by
        rw [get?_erase_eq, get?_erase_eq]
        split
        · exact .none
        · exact same.places asked }
  exact erased.emit id _

omit same in
/-- **Components are destroyed**, the same on both sides. -/
theorem destroyAll (alike : Akin pairing (world, store) (other, against)) (ids : List String) :
    Akin pairing (world.destroyAll ids store) (other.destroyAll ids against) := by
  fun_induction World.destroyAll world ids store generalizing other against with
  | case1 world store =>
    rw [World.destroyAll]
    exact alike
  | case2 world store id rest free ih =>
    have opposite := alike.2.places id
    rw [free] at opposite
    rw [destroyAll_of_absent (eq_none_of_rel opposite)]
    exact ih alike
  | case3 world store id rest place found ih =>
    have opposite := alike.2.places id
    rw [found] at opposite
    obtain ⟨against, there, like⟩ := exists_of_rel opposite
    obtain ⟨children, stores⟩ := endOf alike.1 like
    rw [destroyAll_of_found there, children]
    exact ih ⟨stores, alike.2.remove id⟩

omit same in
/-- A component is put back in its place, or ends. -/
theorem putBack (alike : Akin pairing (world, store) (other, against))
    (like : component.Resembles pairing opposed) :
    Akin pairing (world.putBack component store) (other.putBack opposed against) := by
  have put : Akin pairing (world.put component, store) (other.put opposed, against) :=
    ⟨alike.1, alike.2.put like⟩
  have ended : Akin pairing (world, component.container.drop store)
      (other, opposed.container.drop against) :=
    ⟨alike.1.retain (Container.retains_drop ..) (Container.retains_drop ..), alike.2⟩
  have place := alike.2.places component.id
  unfold World.putBack
  rw [like.id]
  generalize world.mounted.get? component.id = here, other.mounted.get? component.id = there
    at place ⊢
  cases place with
  | none => exact ended
  | some place =>
    cases place with
    | none => exact put
    | some _ => exact ended

omit same in
/-- **A component is mounted**, or its id is taken on both sides. -/
theorem mount (alike : Akin pairing (world, store) (other, against)) {definition : ComponentDef}
    (uniform : definition.Uniform) (id : String) :
    Akin pairing (world.mount id definition store).2 (other.mount id definition against).2 := by
  unfold World.mount
  rw [alike.2.contains_eq]
  split
  · exact alike
  · refine ⟨alike.1.retain (Container.retains_new store) (Container.retains_new against),
      (alike.2.put ?_).emit id _⟩
    exact ⟨rfl, rfl, rfl, rfl, fun _ => .none, uniform⟩

end Resembles

end World

/-! ### What a template asks for -/

/-- What the renderings of two components see. -/
structure RenderState.Resembles (pairing : Pairing) (left right : RenderState) : Prop where
  own : left.own.Resembles pairing right.own
  world : left.world.Resembles pairing right.world

namespace RenderState.Resembles

variable {pairing larger : Pairing} {left right : RenderState} {store against : Store}
  {definition : ComponentDef} {owner : Owner}

theorem mono (same : left.Resembles pairing right) (le : pairing ≤ larger) :
    left.Resembles larger right := ⟨same.own.mono le, same.world.mono le⟩

theorem withVariables (same : left.Resembles pairing right) {reached other : Variables}
    (reaches : reached.Resembles pairing other) :
    (left.withVariables reached).Resembles pairing (right.withVariables other) :=
  ⟨reaches.own, { same.world with shared := reaches.shared }⟩

theorem reached (same : left.Resembles pairing right) : left.reached.Resembles pairing right.reached :=
  ⟨same.own, same.world.shared⟩

/-- An answer that variables give is an answer to the template. -/
theorem answered (same : left.Resembles pairing right)
    {answer opposed : Except Error Value × Variables × Store}
    (alike : AnswerAlike (Store.Resembles.Along Variables.Resembles) pairing Value.Paired answer opposed) :
    AnswerAlike (Store.Resembles.Along Resembles) pairing
      (fun larger => Option.Rel (Value.Paired larger))
      (answer.1.map some, left.withVariables answer.2.1, answer.2.2)
      (opposed.1.map some, right.withVariables opposed.2.1, opposed.2.2) := by
  obtain ⟨larger, le, ⟨stores, reaches⟩, results⟩ := alike
  refine ⟨larger, le, ⟨stores, (same.mono le).withVariables reaches⟩, ?_⟩
  generalize answer.1 = result, opposed.1 = outcome at results ⊢
  cases results with
  | ok values => exact .ok (.some values)
  | error error => exact .error error

/-- **A helper is called.** -/
theorem callHelper (same : left.Resembles pairing right)
    (stores : Store.Resembles pairing store against) (uniform : definition.Uniform) (name : String)
    {arguments others : List Value} (values : List.Forall₂ (Value.Paired pairing) arguments others) :
    AnswerAlike (Store.Resembles.Along Resembles) pairing
      (fun larger => Option.Rel (Value.Paired larger))
      (RenderState.callHelper definition owner name arguments left store)
      (RenderState.callHelper definition owner name others right against) := by
  unfold RenderState.callHelper
  rcases same.reached.callHelper stores same.world.identity uniform name values with
    ⟨here, there⟩ | ⟨answer, opposed, here, there, alike⟩
  · rw [here, there]
    exact ⟨pairing, le_rfl, ⟨stores, same⟩, .ok .none⟩
  · rw [here, there]
    exact same.answered alike

/-- **A name is looked up.** -/
theorem lookup (same : left.Resembles pairing right)
    (stores : Store.Resembles pairing store against) (uniform : definition.Uniform) (name : String) :
    AnswerAlike (Store.Resembles.Along Resembles) pairing
      (fun larger => Option.Rel (Value.Paired larger))
      (RenderState.lookup definition owner name left store)
      (RenderState.lookup definition owner name right against) := by
  obtain ⟨defaults, _, _⟩ := id uniform
  unfold RenderState.lookup
  rcases same.reached.read? stores defaults name with
    ⟨here, there⟩ | ⟨answer, opposed, here, there, alike⟩
  · rw [here, there]
    have known := same.world.identity name
    dsimp only
    generalize left.world.identity.get? name = value, right.world.identity.get? name = other
      at known ⊢
    cases known with
    | none => exact same.callHelper stores uniform name .nil
    | some values => exact ⟨pairing, le_rfl, ⟨stores, same⟩, .ok (.some values)⟩
  · rw [here, there]
    exact same.answered alike

end RenderState.Resembles

/-! ### Renderings -/

/-- Scopes that answer alike do so as more and more is paired. -/
theorem Scope.Accord.above {σ τ : Type} {left : Scope σ} {right : Scope τ}
    {names answered : String → Prop} {Alike : Pairing → σ × Store → τ × Store → Prop}
    (accord : left.Accord right names answered Alike) (least : Pairing) :
    left.Accord right names answered fun pairing l r => least ≤ pairing ∧ Alike pairing l r where
  paired alike := accord.paired alike.2
  advance alike advance := ⟨alike.1.trans advance.enlarges, accord.advance alike.2 advance⟩
  lookup alike named := by
    obtain ⟨larger, le, after, results⟩ := accord.lookup alike.2 named
    exact ⟨larger, le, ⟨alike.1.trans le, after⟩, results⟩
  call alike asked values := by
    obtain ⟨larger, le, after, results⟩ := accord.call alike.2 asked values
    exact ⟨larger, le, ⟨alike.1.trans le, after⟩, results⟩
  child alike asked className id := by
    obtain ⟨larger, le, after, results⟩ := accord.child alike.2 asked className id
    exact ⟨larger, le, ⟨alike.1.trans le, after⟩, results⟩

namespace World

variable {pairing : Pairing} {world other : World} {component opposed : Instance}
  {store against : Store}

/-- **A renderer that renders alike what is alike.** -/
def Renderer.Resembles (render : Renderer) : Prop :=
  ∀ ⦃pairing : Pairing⦄ ⦃world other : World⦄ ⦃store against : Store⦄ ⦃component opposed : Instance⦄
    (dirty : Dirty), Akin pairing (world, store) (other, against) →
    component.Resembles pairing opposed →
    ∃ larger, pairing ≤ larger ∧
      Akin larger (render component dirty world store).2.2 (render opposed dirty other against).2.2 ∧
      (render component dirty world store).2.1.Resembles larger
        (render opposed dirty other against).2.1 ∧
      (render opposed dirty other against).1 = (render component dirty world store).1

/-- A component is rendered in its place. -/
theorem resembles_renderInPlace {render : Renderer} (resembles : render.Resembles)
    (alike : Akin pairing (world, store) (other, against))
    (like : component.Resembles pairing opposed) (dirty : Dirty) :
    ∃ larger, pairing ≤ larger ∧
      Akin larger (world.renderInPlace render component dirty store).2.2
        (other.renderInPlace render opposed dirty against).2.2 ∧
      (other.renderInPlace render opposed dirty against).2.1 =
        (world.renderInPlace render component dirty store).2.1 ∧
      (other.renderInPlace render opposed dirty against).1 =
        (world.renderInPlace render component dirty store).1 := by
  have out : Akin pairing (world.takeOut component.id, store) (other.takeOut opposed.id, against) := by
    rw [like.id]
    exact ⟨alike.1, alike.2.takeOut component.id⟩
  obtain ⟨larger, le, rendered, back, results⟩ := resembles dirty out like
  exact ⟨larger, le, Resembles.putBack rendered back, back.view, results⟩

/-- **The child of a call** is found, or mounted. -/
theorem resembles_childFor {parent : ComponentDef} (uniform : parent.Uniform) (className id : String)
    (alike : Akin pairing (world, store) (other, against)) :
    Akin pairing (childFor parent className id world store).2
        (childFor parent className id other against).2 ∧
      AlikeResult (Instance.Resembles pairing) (childFor parent className id world store).1
        (childFor parent className id other against).1 := by
  obtain ⟨_, _, children⟩ := uniform
  unfold World.childFor
  cases found : parent.child className with
  | error error => exact ⟨alike, .error error⟩
  | ok definition =>
    have prepared : Akin pairing
        (if world.contains id then (.ok (), world, store) else world.mount id definition store :
          Except Error Unit × World × Store).2
        (if other.contains id then (.ok (), other, against) else other.mount id definition against :
          Except Error Unit × World × Store).2 := by
      rw [alike.2.contains_eq]
      split
      · exact alike
      · exact Resembles.mount alike (children found) id
    dsimp only
    generalize (if world.contains id then (.ok (), world, store) else world.mount id definition store :
      Except Error Unit × World × Store) = mounted, (if other.contains id then (.ok (), other, against)
        else other.mount id definition against : Except Error Unit × World × Store) = opposite
      at prepared ⊢
    have standing := prepared.2.instance? id
    generalize mounted.2.1.instance? id = here, opposite.2.1.instance? id = there at standing ⊢
    cases standing with
    | error error => exact ⟨prepared, .error error⟩
    | ok like =>
      dsimp only
      rw [like.definition]
      split
      · exact ⟨prepared, .error _⟩
      · exact ⟨prepared, .ok like⟩

/-- **The child of a call** is rendered in its place. -/
theorem resembles_renderChild {render : Renderer} (resembles : render.Resembles)
    {parent : ComponentDef} (uniform : parent.Uniform) (className id : String)
    (alike : Akin pairing (world, store) (other, against)) :
    AnswerAlike Akin pairing (fun _ => Eq) (renderChild render parent className id world store)
      (renderChild render parent className id other against) := by
  obtain ⟨prepared, found⟩ := resembles_childFor uniform className id alike
  rw [renderChild_eq, renderChild_eq]
  generalize childFor parent className id world store = here,
    childFor parent className id other against = there at prepared found ⊢
  obtain ⟨child, world, store⟩ := here
  obtain ⟨opposite, other, against⟩ := there
  cases found with
  | error error => exact ⟨pairing, le_rfl, prepared, .error error⟩
  | @ok component opposed like =>
    obtain ⟨larger, le, rendered, views, results⟩ :=
      resembles_renderInPlace resembles prepared like .all
    dsimp only at results views ⊢
    refine ⟨larger, le, rendered, ?_⟩
    rw [results, views]
    generalize (world.renderInPlace render component .all store).1 = result
    cases result with
    | ok rendered => exact .ok rfl
    | error error => exact .error error

/-- **The scopes of components that resemble each other answer alike.** -/
theorem accord_scopeOf {render : Renderer} (resembles : render.Resembles)
    (like : component.Resembles pairing opposed) :
    (scopeOf (renderChild render component.definition) component).Accord
      (scopeOf (renderChild render opposed.definition) opposed) (fun _ => True) (fun _ => True)
      (Store.Resembles.Along RenderState.Resembles) where
  paired same := same.1.paired
  advance same advance := ⟨same.1.advance advance, same.2.mono advance.enlarges⟩
  lookup {_ l r name} same _ := by
    unfold scopeOf Instance.owner
    rw [like.id, like.definition]
    exact same.2.lookup same.1 like.uniform name
  call {_ l r name _ _} same _ values := by
    unfold scopeOf Instance.owner
    rw [like.id, like.definition]
    exact same.2.callHelper same.1 like.uniform name values
  child {_ l r} same _ className id := by
    obtain ⟨larger, le, alike, results⟩ := resembles_renderChild resembles like.uniform className id
      (show Akin _ (l.1.world, l.2) (r.1.world, r.2) from ⟨same.1, same.2.world⟩)
    unfold scopeOf
    rw [like.definition]
    exact ⟨larger, le, ⟨alike.1, same.2.own.mono le, alike.2⟩, results⟩

/-- **A rendering renders alike what is alike**, with all that is rendered inside of it. -/
theorem resembles_renderNested (nesting : Nat) : Renderer.Resembles (renderNested nesting) := by
  induction nesting with
  | zero =>
    intro pairing world other store against component opposed dirty alike like
    refine ⟨pairing, le_rfl, alike, like, ?_⟩
    simp only [renderNested, like.id]
  | succ nesting ih =>
    intro pairing world other store against component opposed dirty alike like
    unfold renderNested renderWith
    rw [like.definition, like.variant, like.view]
    cases found : component.definition.template component.variant with
    | error error => exact ⟨pairing, le_rfl, alike, like, rfl⟩
    | ok template =>
      have accord := (accord_scopeOf ih like).above pairing
      let Around (larger : Pairing) (l r : RenderState × Store) : Prop :=
        pairing ≤ larger ∧ Store.Resembles.Along RenderState.Resembles larger l r
      have around : Around pairing (⟨component.container, world⟩, store)
          (⟨opposed.container, other⟩, against) := ⟨le_rfl, alike.1, like.container, alike.2⟩
      have met (name : String) : (Scope.Agreement.lockstep (fun _ => True) (fun _ => True)
          Around).Met pairing name none none := ⟨.none, fun _ => trivial⟩
      have rendered := Lockstep.alike_render accord.lawful world.config
        (fun part (_ : Part.dynamic part ∈ template.parts) _ _ => trivial) dirty component.view
        around met
      rw [like.definition] at rendered
      rw [alike.2.config]
      dsimp only
      generalize Render.render template dirty component.view
        (scopeOf (renderChild (renderNested nesting) component.definition) component) world.config
        ⟨component.container, world⟩ store = here, Render.render template dirty component.view
        (scopeOf (renderChild (renderNested nesting) component.definition) opposed) world.config
        ⟨opposed.container, other⟩ against = there at rendered ⊢
      obtain ⟨result, view, state, stored⟩ := here
      obtain ⟨outcome, seen, opposite, kept⟩ := there
      obtain ⟨rfl, rfl, larger, le, stores, states⟩ := rendered
      have reached : Instance.Resembles larger { component with view, container := state.own }
          ⟨opposed.id, component.definition, opposite.own, view, component.variant⟩ :=
        ⟨like.id, rfl, rfl, rfl, states.own, like.uniform⟩
      cases result with
      | error error => exact ⟨larger, le, ⟨stores, states.world⟩, reached, rfl⟩
      | ok slots =>
        exact ⟨larger, le, Resembles.destroyAll ⟨stores, states.world⟩ _, reached, rfl⟩

/-- **A component of the session is rendered**, with the same result on both sides. -/
theorem resembles_render (alike : Akin pairing (world, store) (other, against))
    (like : component.Resembles pairing opposed) (dirty : Dirty) :
    ∃ larger, pairing ≤ larger ∧
      Akin larger (world.render component dirty store).2 (other.render opposed dirty against).2 ∧
      (other.render opposed dirty against).1 = (world.render component dirty store).1 := by
  obtain ⟨larger, le, rendered, _, results⟩ :=
    resembles_renderInPlace (resembles_renderNested renderDepthLimit) alike like dirty
  exact ⟨larger, le, rendered, results⟩

end World

/-! ### Cycles -/

namespace Cycle

/-- **Cycles that resemble each other**: their sessions do, and the same has failed. -/
structure Resembles (pairing : Pairing) (left right : Cycle) : Prop where
  stores : Store.Resembles pairing left.store right.store
  worlds : left.world.Resembles pairing right.world
  failure : right.failure = left.failure
  failed : right.failed = left.failed

namespace Resembles

variable {pairing : Pairing} {left right : Cycle} {component opposed : Instance}
  (same : left.Resembles pairing right)
include same

/-- A failure is shown. -/
theorem fail (id : String) (error : Error) :
    (left.fail id error).Resembles pairing (right.fail id error) := by
  have standing := same.worlds.instance? id
  unfold Cycle.fail
  generalize left.world.instance? id = here, right.world.instance? id = there at standing ⊢
  cases standing with
  | error _ =>
    refine ⟨same.stores, ?_, by rw [same.failure], by rw [same.failed]⟩
    dsimp only
    rw [same.worlds.config]
    exact same.worlds.emit id _
  | @ok component opposed like =>
    refine ⟨same.stores, ?_, by rw [same.failure], by rw [same.failed]⟩
    have invalid : Instance.Resembles pairing { component with view := component.view.invalidate }
        { opposed with view := opposed.view.invalidate } :=
      { like with view := congrArg ClientView.invalidate like.view }
    have put := same.worlds.put invalid
    dsimp only
    rw [put.config, show opposed.definition.className = _ from congrArg _ like.definition]
    exact put.emit id _

/-- One component is rendered. -/
theorem renderOne (like : component.Resembles pairing opposed) (inlined : List String)
    (dirty : Dirty) :
    ∃ larger, (left.renderOne inlined component dirty).1.Resembles larger
        (right.renderOne inlined opposed dirty).1 ∧
      (right.renderOne inlined opposed dirty).2 = (left.renderOne inlined component dirty).2 := by
  obtain ⟨larger, _, rendered, results⟩ :=
    World.resembles_render (show World.Akin pairing (left.world, left.store) (right.world, right.store)
      from ⟨same.stores, same.worlds⟩) like dirty
  unfold Cycle.renderOne
  generalize left.world.render component dirty left.store = here,
    right.world.render opposed dirty right.store = there at rendered results ⊢
  obtain ⟨result, world, store⟩ := here
  obtain ⟨outcome, other, against⟩ := there
  obtain rfl : outcome = result := results
  have next : Resembles larger { left with world, store }
      { right with world := other, store := against } :=
    ⟨rendered.1, rendered.2, same.failure, same.failed⟩
  rw [like.id]
  cases outcome with
  | error error => exact ⟨larger, next.fail component.id error, rfl⟩
  | ok brought =>
    dsimp only
    split
    · exact ⟨larger, next, rfl⟩
    · exact ⟨larger, { next with worlds := next.worlds.emit component.id _ }, rfl⟩

/-- **All components are rendered** that are to be. -/
theorem renderAll (inlined : List String) (affected : List (String × Dirty)) :
    ∃ larger, (left.renderAll inlined affected).Resembles larger (right.renderAll inlined affected) := by
  induction affected generalizing pairing left right inlined with
  | nil => exact ⟨pairing, same⟩
  | cons entry rest ih =>
    obtain ⟨id, dirty⟩ := entry
    unfold Cycle.renderAll
    split
    · exact ih same inlined
    · have standing := same.worlds.instance? id
      generalize left.world.instance? id = here, right.world.instance? id = there at standing ⊢
      cases standing with
      | error _ => exact ih same inlined
      | ok like =>
        obtain ⟨larger, next, inlines⟩ := same.renderOne like inlined dirty
        dsimp only
        rw [inlines]
        exact ih next _

end Resembles

end Cycle

end ReactiveView
