/-
**Only declared variables exist.**

The containers of a session are its own and those of its components, and with them the containers of
components that are being rendered. Whatever is asked of a session, in whatever order and by whatever code,
they keep to what they are for: the container of a component holds and marks the variables that its class
declares reactive, and that of the session those that some class declares shared of which a component was
mounted. A message that assigns any other name changes no variable.

* `World.Chartered` — all containers of a session keep to what they are for.
* `Rendering.chartered` — a rendering keeps this, with all renderings inside of it.
* `Session.Mounted` — the classes of which components were mounted so far.
* `Cycle.keeps_chartered`, `Session.Chartered.enter` — all entries keep it.
* `Session.Comes`, `Session.declared_of_comes` — in all states that a session comes to, only declared
  variables exist.
-/

import ReactiveView.Proofs.Component.Declared
import ReactiveView.Proofs.Component.Furnished
import ReactiveView.Proofs.Render.Twins
import ReactiveView.Proofs.Session.Renewal
import ReactiveView.Proofs.Session.Stages

namespace ReactiveView

/-- The container of a component, and what it is for. -/
def Instance.tenant (component : Instance) : Tenant :=
  (component.definition.charter, component.container)

/-! ### Places -/

namespace World

variable {classes more : ComponentDef → Prop} {world after : World} {id : String}
  {component : Instance} {inside : List Tenant} {store stored : Store}

/-- The containers of the components that stand in their places. -/
def standing (mounted : OrderedMap String (Option Instance)) : List Tenant :=
  mounted.values.filterMap (Option.map Instance.tenant)

theorem standing_insert (mounted : OrderedMap String (Option Instance)) (id : String)
    (place : Option Instance) : (standing (mounted.insert id place)).Perm
      ((place.map Instance.tenant).toList ++ standing (mounted.erase id)) := by
  have perm := OrderedMap.perm_values (OrderedMap.get?_insert_self mounted id place)
  rw [OrderedMap.erase_insert] at perm
  refine (perm.filterMap _).trans ?_
  cases place <;> exact .refl _

theorem standing_of_get? {mounted : OrderedMap String (Option Instance)} {place : Option Instance}
    (found : mounted.get? id = some place) : (standing mounted).Perm
      ((place.map Instance.tenant).toList ++ standing (mounted.erase id)) := by
  refine ((OrderedMap.perm_values found).filterMap _).trans ?_
  cases place <;> exact .refl _

/-- **All containers of a session keep to what they are for**, with some that are not in their places, and
all components are of some classes. -/
structure Chartered (classes : ComponentDef → Prop) (inside : List Tenant) (world : World)
    (store : Store) : Prop where
  filed : world.Filed
  known : ∀ {id component}, world.mounted.get? id = some (some component) →
    classes component.definition
  chartered : ReactiveView.Chartered
    ((.shared classes, world.shared) :: (inside ++ standing world.mounted)) store

namespace Chartered

/-- Where all containers are the same, they keep to what they are for. -/
theorem of_same (chartered : world.Chartered classes inside store)
    (mounted : after.mounted = world.mounted) (shared : after.shared = world.shared) :
    after.Chartered classes inside store where
  filed {id component} there := by
    rw [mounted] at there
    exact chartered.filed there
  known {id component} there := by
    rw [mounted] at there
    exact chartered.known there
  chartered := by
    rw [mounted, shared]
    exact chartered.chartered

/-- There may be more classes. -/
theorem mono (chartered : world.Chartered classes inside store)
    (grows : ∀ definition, classes definition → more definition) :
    world.Chartered more inside store :=
  ⟨chartered.filed, fun there => grows _ (chartered.known there),
    chartered.chartered.relax (Charter.shared_mono grows)⟩

theorem peruses (chartered : world.Chartered classes inside store) (peruses : store.Peruses stored) :
    world.Chartered classes inside stored :=
  ⟨chartered.filed, chartered.known, chartered.chartered.peruses peruses⟩

/-- **A component is taken out.** -/
theorem takeOut (chartered : world.Chartered classes inside store)
    (stands : world.mounted.get? id = some (some component)) :
    (world.takeOut id).Chartered classes (component.tenant :: inside) store where
  filed := World.Filed.takeOut chartered.filed id
  known {other found} there := by
    rw [World.takeOut, get?_insert_eq] at there
    split at there
    · cases there
    · exact chartered.known there
  chartered := by
    refine chartered.chartered.perm (List.Perm.cons _ ?_)
    calc component.tenant :: inside ++ standing (world.mounted.insert id none)
        _ |>.Perm (component.tenant :: (inside ++ standing (world.mounted.erase id))) :=
          ((standing_insert world.mounted id none).append_left inside).cons _
        _ |>.Perm (inside ++ standing world.mounted) :=
          List.perm_middle.symm.trans ((standing_of_get? stands).symm.append_left inside)

/-- **A component is put in its place**, which is empty. -/
theorem put (chartered : world.Chartered classes (component.tenant :: inside) store)
    (known : classes component.definition)
    (free : world.mounted.get? component.id = some none ∨
      world.mounted.get? component.id = none) :
    (world.put component).Chartered classes inside store where
  filed := World.Filed.put chartered.filed component
  known {other found} there := by
    rw [World.put, get?_insert_eq] at there
    split at there
    · cases there
      exact known
    · exact chartered.known there
  chartered := by
    have others : (standing world.mounted).Perm
        (standing (world.mounted.erase component.id)) := by
      rcases free with empty | absent
      · exact standing_of_get? empty
      · rw [OrderedMap.erase_of_absent absent]
    refine chartered.chartered.perm (List.Perm.cons _ ?_)
    calc inside ++ standing (world.mounted.insert component.id (some component))
        _ |>.Perm (inside ++ (component.tenant :: standing (world.mounted.erase component.id))) :=
          (standing_insert world.mounted component.id (some component)).append_left inside
        _ |>.Perm (component.tenant :: (inside ++ standing world.mounted)) :=
          List.perm_middle.trans ((others.symm.append_left inside).cons _)

/-- A component is put back, or ends if its place is gone. -/
theorem putBack (chartered : world.Chartered classes (component.tenant :: inside) store)
    (known : classes component.definition) :
    (world.putBack component store).1.Chartered classes inside
      (world.putBack component store).2 := by
  unfold World.putBack
  split
  · next empty => exact chartered.put known (Or.inl empty)
  · exact ⟨chartered.filed, chartered.known,
      (chartered.chartered.perm (List.Perm.swap ..)).drop⟩

/-- **A component is mounted.** -/
theorem mount (chartered : world.Chartered classes inside store) {definition : ComponentDef}
    (known : classes definition) (id : String) :
    (world.mount id definition store).2.1.Chartered classes inside
      (world.mount id definition store).2.2 := by
  unfold World.mount
  split
  · exact chartered
  · next free =>
    have new : world.Chartered classes ((Instance.new id definition store).1.tenant :: inside)
        (Container.new store).2 :=
      ⟨chartered.filed, chartered.known,
        (chartered.chartered.new definition.charter).perm (List.Perm.swap ..)⟩
    have absent : world.mounted.get? id = none := by
      rw [contains_eq, Bool.not_eq_true] at free
      exact Option.not_isSome_iff_eq_none.mp (by rw [free]; exact Bool.false_ne_true)
    exact (new.put known (Or.inr absent)).of_same rfl rfl

/-- **Components are destroyed.** -/
theorem destroyAll (chartered : world.Chartered classes inside store) (ids : List String) :
    (world.destroyAll ids store).1.Chartered classes inside (world.destroyAll ids store).2 := by
  fun_induction World.destroyAll world ids store with
  | case1 world store => exact chartered
  | case2 world store id rest free ih => exact ih chartered
  | case3 world store id rest place found ih =>
    have earlier {other : String} {component : Instance}
        (there : (world.remove id).mounted.get? other = some (some component)) :
        world.mounted.get? other = some (some component) := by
      change (world.mounted.erase id).get? other = _ at there
      rw [get?_erase_eq] at there
      split at there
      · cases there
      · exact there
    refine ih ⟨fun there => chartered.filed (earlier there),
      fun there => chartered.known (earlier there), ?_⟩
    change ReactiveView.Chartered
      ((.shared classes, world.shared) :: (inside ++ standing (world.mounted.erase id))) _
    cases place with
    | none =>
      exact chartered.chartered.perm (((standing_of_get? found).symm.append_left inside).cons _)
    | some component =>
      have perm : (component.tenant :: (.shared classes, world.shared) ::
          (inside ++ standing (world.mounted.erase id))).Perm
          ((.shared classes, world.shared) :: (inside ++ standing world.mounted)) :=
        (List.Perm.swap ..).trans (List.Perm.cons _
          (List.perm_middle.symm.trans ((standing_of_get? found).symm.append_left inside)))
      exact (chartered.chartered.perm perm).drop

/-- All marks are forgotten. -/
theorem resetChanges (chartered : world.Chartered classes inside store) :
    world.Chartered classes inside (world.resetChanges store) := by
  refine ⟨chartered.filed, chartered.known, ?_⟩
  refine List.foldlRecOn world.mounted.values _ (chartered.chartered.resetChanges world.shared) ?_
  intro store chartered place _
  cases place with
  | none => exact chartered
  | some component => exact chartered.resetChanges component.container

/-- The variables of a component that was taken out. -/
theorem reached {definition : ComponentDef} {own : Container}
    (chartered : world.Chartered classes ((definition.charter, own) :: inside) store) :
    Variables.Chartered classes definition (inside ++ standing world.mounted) ⟨own, world.shared⟩
      store :=
  chartered.chartered.perm (List.Perm.swap ..)

/-- A component that was taken out has other variables. -/
theorem withVariables {definition : ComponentDef} {own : Container} {reached : Variables}
    (chartered : world.Chartered classes ((definition.charter, own) :: inside) store)
    (changed : reached.Chartered classes definition (inside ++ standing world.mounted) stored) :
    ({ world with shared := reached.shared } : World).Chartered classes
      ((definition.charter, reached.own) :: inside) stored :=
  ⟨chartered.filed, chartered.known, ReactiveView.Chartered.perm changed (List.Perm.swap ..)⟩

/-- **A component changes its variables**, in its place. -/
theorem change (chartered : world.Chartered classes inside store)
    (stands : world.mounted.get? component.id = some (some component)) (next : Instance)
    (named : next.id = component.id) (same : next.definition = component.definition)
    {shared : Container}
    (changes : ∀ {rest}, (world.variablesOf component).Chartered classes component.definition rest
      store → Variables.Chartered classes component.definition rest ⟨next.container, shared⟩ stored) :
    ({ world with shared }.put next : World).Chartered classes inside stored := by
  have out := chartered.takeOut stands
  have changed := withVariables out (changes (reached out))
  have empty : (world.takeOut component.id).mounted.get? next.id = some none := by
    rw [named]
    exact OrderedMap.get?_insert_self ..
  have known : classes next.definition := same ▸ chartered.known stands
  rw [← same] at changed
  have placed : ({ world.takeOut component.id with shared } : World).Chartered classes
    (next.tenant :: inside) stored := changed
  refine (placed.put known (Or.inl empty)).of_same ?_ rfl
  change world.mounted.insert next.id _ = (world.mounted.insert component.id none).insert next.id _
  rw [named, OrderedMap.insert_insert]

end Chartered

/-! ### Renderings -/

theorem chartered_callHelper {definition : ComponentDef} (known : classes definition) (owner : Owner)
    (name : String) (arguments : List Value) {state : RenderState}
    (chartered : state.world.Chartered classes ((definition.charter, state.own) :: inside) store) :
    let (_, after, stored) := RenderState.callHelper definition owner name arguments state store
    after.world.Chartered classes ((definition.charter, after.own) :: inside) stored := by
  unfold RenderState.callHelper
  rcases found : state.reached.callHelper definition owner state.world.identity name arguments store
    with _ | ⟨result, reached, stored⟩
  · exact chartered
  · exact chartered.withVariables (chartered.reached.callHelper known found)

theorem chartered_lookup {definition : ComponentDef} (known : classes definition) (owner : Owner)
    (name : String) {state : RenderState}
    (chartered : state.world.Chartered classes ((definition.charter, state.own) :: inside) store) :
    let (_, after, stored) := RenderState.lookup definition owner name state store
    after.world.Chartered classes ((definition.charter, after.own) :: inside) stored := by
  unfold RenderState.lookup
  rcases found : Variables.read? definition owner name state.reached store
    with _ | ⟨result, reached, stored⟩
  · dsimp only
    cases state.world.identity.get? name with
    | some value => exact chartered
    | none => exact chartered_callHelper known owner name [] chartered
  · exact chartered.withVariables (chartered.reached.read? known found)

/-- A component is rendered in its place, given what its rendering does. -/
theorem Chartered.renderInPlace {render : Renderer} {dirty : Dirty}
    (chartered : world.Chartered classes inside store)
    (stands : world.mounted.get? component.id = some (some component))
    (face : (render component dirty (world.takeOut component.id) store).2.1.definition =
      component.definition)
    (renders : (world.takeOut component.id).Chartered classes (component.tenant :: inside) store →
      let (_, rendered, after, stored) := render component dirty (world.takeOut component.id) store
      after.Chartered classes (rendered.tenant :: inside) stored) :
    let (_, _, after, stored) := world.renderInPlace render component dirty store
    after.Chartered classes inside stored := by
  have rendered := renders (chartered.takeOut stands)
  unfold World.renderInPlace
  generalize render component dirty (world.takeOut component.id) store = outcome at rendered face ⊢
  obtain ⟨result, rendering, after, stored⟩ := outcome
  exact rendered.putBack (face ▸ chartered.known stands)

/-- **The child of a call** is mounted by it if need be, and is rendered then. -/
theorem chartered_childFor (parent : ComponentDef) (className id : String)
    (chartered : world.Chartered classes inside store)
    (known : ∀ component, (childFor parent className id world store).1 = .ok component →
      classes component.definition) :
    (childFor parent className id world store).2.1.Chartered classes inside
      (childFor parent className id world store).2.2 := by
  unfold childFor at known ⊢
  cases declared : parent.child className with
  | error error => exact chartered
  | ok definition =>
    rw [declared] at known
    dsimp only at known ⊢
    by_cases there : world.contains id = true
    · simp only [there, if_true]
      cases world.instance? id with
      | error error => exact chartered
      | ok component =>
        dsimp only
        split <;> exact chartered
    · -- the component is new, so it is found, and is of the class that was asked for
      have found : (world.mount id definition store).2.1.instance? id =
          .ok (Instance.new id definition store).1 := by
        unfold World.mount
        rw [if_neg there]
        exact instance?_eq_ok_iff.mpr (OrderedMap.get?_insert_self ..)
      have className : (Instance.new id definition store).1.definition = definition := rfl
      simp only [there, Bool.false_eq_true, if_false, found, className, ne_eq, not_true_eq_false]
        at known ⊢
      exact chartered.mount (known _ rfl) id

end World

namespace Rendering

variable {classes : ComponentDef → Prop} {rendering : Rendering} {inside : List Tenant}

/-- What happens inside of a rendering to which a call leads happens inside of the whole rendering. -/
theorem mem_inside_of_inner {call : Scope.Call RenderState} (called : call ∈ rendering.calls)
    {inner : Rendering} (leads : rendering.inner? call = some inner) {event : Event}
    (member : event ∈ inner.inside) : event ∈ rendering.inside := by
  obtain ⟨index, found⟩ := List.mem_iff_getElem?.mp called
  rw [inside_eq]
  refine List.mem_flatMap.mpr ⟨(call, index), List.mem_zipIdx_iff_getElem?.mpr found, ?_⟩
  simp only [eventsOf, leads]
  exact List.mem_append_right _ (List.mem_append_left _ member)

/-- **A call for a child** lets all containers keep to what they are for, if the rendering does to which it
leads. -/
theorem chartered_renderChild {nesting : Nat} (depth : rendering.nesting = nesting + 1)
    {call : Scope.Call RenderState} {definition : ComponentDef}
    (leads : ∀ inner, rendering.inner? call = some inner → classes inner.component.definition ∧
      ∀ {inside}, inner.world.Chartered classes (inner.component.tenant :: inside) inner.store →
        inner.after.Chartered classes (inner.rendered.tenant :: inside) inner.outcome.2.2.2)
    (chartered : call.world.world.Chartered classes ((definition.charter, call.world.own) :: inside)
      call.store) :
    let (_, after, stored) := (scope nesting rendering.component).renderChild call.className call.id
      call.world call.store
    after.world.Chartered classes ((definition.charter, after.own) :: inside) stored := by
  have found := World.chartered_childFor rendering.component.definition call.className call.id chartered
  have stands := (World.found_childFor rendering.component.definition call.className call.id
    call.world.world call.store).2
  simp only [inner?, depth] at leads
  simp only [scope, World.scopeOf, World.renderChild_eq]
  generalize World.childFor rendering.component.definition call.className call.id call.world.world
    call.store = answer at leads found stands ⊢
  obtain ⟨error | inner, reached, stored⟩ := answer
  · exact found fun component ok => by cases ok
  · obtain ⟨known, renders⟩ := leads _ rfl
    have reached := found fun _ same => Except.ok.inj same ▸ known
    have there := stands inner rfl
    rw [← reached.filed there] at there
    exact reached.renderInPlace there (Rendering.inPlace nesting inner .all _ stored).rendered_face.2.1
      renders

/--
**A rendering lets all containers keep to what they are for**, with all renderings inside of it, if all
components that are rendered are of the classes in question.
-/
theorem chartered (known : classes rendering.component.definition)
    (rendered : ∀ inner place, .renders inner place ∈ rendering.inside →
      classes inner.component.definition)
    (chartered : rendering.world.Chartered classes (rendering.component.tenant :: inside)
      rendering.store) :
    rendering.after.Chartered classes (rendering.rendered.tenant :: inside)
      rendering.outcome.2.2.2 := by
  induction rendering using Rendering.induct generalizing inside with
  | step rendering within =>
    obtain ⟨nesting, component, dirty, world, store⟩ := rendering
    cases nesting with
    | zero => exact chartered
    | succ nesting =>
      unfold after Rendering.rendered outcome World.renderNested World.renderWith
      cases chosen : component.definition.template component.variant with
      | error error => exact chartered
      | ok template =>
        have noted : (Rendering.mk (nesting + 1) component dirty world store).calls =
            Render.calls template dirty component.view (scope nesting component) world.config
              ⟨component.container, world⟩ store := by simp only [calls, chosen]
        have depth : (Rendering.mk (nesting + 1) component dirty world store).nesting = nesting + 1 :=
          rfl
        have kept := Scope.visited_of_calls
          (fun (around : RenderState × Store) => around.1.world.Chartered classes
            ((component.definition.charter, around.1.own) :: inside) around.2)
          (fun chartered peruses => chartered.peruses peruses)
          (fun chartered name => World.chartered_lookup known _ name chartered)
          (fun chartered name arguments => World.chartered_callHelper known _ name arguments chartered)
          template dirty component.view world.config ⟨component.container, world⟩ store
          (fun call called chartered => by
            rw [← noted] at called
            obtain ⟨index, place⟩ := List.mem_iff_getElem?.mp called
            refine chartered_renderChild depth (fun inner leads => ?_) chartered
            have class_ := rendered inner _ (renders_mem_inside place leads)
            exact ⟨class_, within call inner leads class_ fun deeper spot member =>
              rendered deeper spot (mem_inside_of_inner called leads member)⟩)
          chartered
        rcases ran : Render.render template dirty component.view (scope nesting component)
          world.config ⟨component.container, world⟩ store with ⟨error | slots, view, state, stored⟩
        all_goals
          rw [ran] at kept
          unfold scope at ran
          simp only [ran]
        · exact kept
        · exact kept.destroyAll _

end Rendering

/-! ### Cycles -/

/-- **The classes of which components were mounted**: by request, or by a call for a child, which renders
the child then. -/
def Session.Mounted (asked : ComponentDef → Prop) (happened : List Event) (definition : ComponentDef) :
    Prop :=
  asked definition ∨
    ∃ rendering place, .renders rendering place ∈ happened ∧ rendering.component.definition = definition

theorem Session.Mounted.mono {asked more : ComponentDef → Prop} {happened later : List Event}
    (grows : ∀ definition, asked definition → more definition) (further : happened ⊆ later)
    {definition : ComponentDef} (mounted : Mounted asked happened definition) :
    Mounted more later definition :=
  mounted.imp (grows definition) fun ⟨rendering, place, member, same⟩ =>
    ⟨rendering, place, further member, same⟩

namespace Cycle

variable {classes more : ComponentDef → Prop} {world : World} {component : Instance} {store : Store}
  {inside : List Tenant}

theorem chartered_runCode (chartered : world.Chartered classes inside store)
    (stands : world.mounted.get? component.id = some (some component)) (name : String)
    (code : ActionCode) :
    let (_, after, stored) := runCode world component name code store
    after.Chartered classes inside stored := by
  have known := chartered.known stands
  have kept {rest : List Tenant}
      (chartered : (world.variablesOf component).Chartered classes component.definition rest store) :=
    @Variables.Chartered.run classes component.definition component.owner world.identity rest store
      known _ (code component.owner) ⟨world.variablesOf component, component.variant⟩ chartered
  unfold runCode
  dsimp only
  generalize (code component.owner).run (ActionQuestion.answer component.definition component.owner
    world.identity) ⟨world.variablesOf component, component.variant⟩ store = outcome at kept ⊢
  exact chartered.change stands
    { component with container := outcome.2.1.reached.own, variant := outcome.2.1.variant } rfl rfl kept

theorem chartered_assign (chartered : world.Chartered classes inside store)
    (stands : world.mounted.get? component.id = some (some component)) (name : String)
    (value : Json) :
    let (_, after, stored) := assign world component name value store
    after.Chartered classes inside stored := by
  have known := chartered.known stands
  unfold assign
  dsimp only
  split
  · exact chartered
  · refine chartered.change stands { component with container := Variables.own _ } rfl rfl
      fun {rest} chartered => ?_
    have made : (world.variablesOf component).Chartered classes component.definition rest
      (Value.ofJson store value).2 := chartered.ofJson value
    exact made.write known name _

/-- What one message asks lets all containers keep to what they are for. -/
theorem chartered_execute (chartered : world.Chartered classes inside store) (message : SubMessage) :
    let (_, after, stored) := execute world message store
    after.Chartered classes inside stored := by
  unfold execute
  cases known : world.instance? message.component with
  | error error => exact chartered
  | ok component =>
    have stands := World.instance?_eq_ok_iff.mp known
    rw [← chartered.filed stands] at stands
    cases message with
    | assign id name value => exact chartered_assign chartered stands name value
    | action id name params =>
      dsimp only
      cases component.definition.action? name with
      | none => exact chartered
      | some action => exact chartered_runCode chartered stands name _

theorem chartered_executeExternal (chartered : world.Chartered classes inside store) (id : String)
    (code : ActionCode) :
    let (_, after, stored) := executeExternal world id code store
    after.Chartered classes inside stored := by
  unfold executeExternal
  cases known : world.instance? id with
  | error error => exact chartered
  | ok component =>
    have stands := World.instance?_eq_ok_iff.mp known
    rw [← chartered.filed stands] at stands
    exact chartered_runCode chartered stands externalAction code

/-- All containers keep to what they are for while a cycle runs. -/
def Chartered (classes : ComponentDef → Prop) (cycle : Cycle) : Prop :=
  cycle.world.Chartered classes [] cycle.store

namespace Chartered

variable {cycle : Cycle}

/-- A failure is shown. -/
theorem fail (chartered : cycle.Chartered classes) (id : String) (error : Error) :
    (cycle.fail id error).Chartered classes := by
  obtain ⟨className, same⟩ := exists_fail_eq cycle id error
  rw [same]
  have invalid : (invalidated cycle.world id).Chartered classes [] cycle.store := by
    unfold invalidated
    cases known : cycle.world.instance? id with
    | error error => exact chartered
    | ok component =>
      have stands := World.instance?_eq_ok_iff.mp known
      rw [← World.Chartered.filed chartered stands] at stands
      exact World.Chartered.change chartered stands { component with view := component.view.invalidate }
        rfl rfl fun kept => kept
  exact World.Chartered.of_same invalid rfl rfl

theorem after {id : String} {done : Except Error Unit × World × Store}
    (chartered : done.2.1.Chartered classes [] done.2.2) : (cycle.after id done).Chartered classes := by
  obtain ⟨error | value, world, store⟩ := done
  · exact @fail classes { cycle with world, store } chartered id error
  · exact chartered

/-- **A component is rendered**: there may be more classes then. -/
theorem renderOne (chartered : cycle.Chartered classes) (inlined : List String) {id : String}
    (dirty : Dirty) (known : cycle.world.instance? id = .ok component)
    (grows : ∀ definition, classes definition → more definition)
    (rendered : ∀ rendering place, .renders rendering place ∈ (Turn.mk cycle component dirty).events →
      more rendering.component.definition) :
    (cycle.renderOne inlined component dirty).1.Chartered more := by
  have chartered := World.Chartered.mono chartered grows
  have stands := World.instance?_eq_ok_iff.mp known
  rw [← chartered.filed stands] at stands
  have settled :
      let (_, _, after, stored) := cycle.world.renderInPlace (World.renderNested renderDepthLimit)
        component dirty cycle.store
      after.Chartered more [] stored :=
    chartered.renderInPlace stands (Turn.rendering ⟨cycle, component, dirty⟩).rendered_face.2.1
      (@Rendering.chartered more (Turn.rendering ⟨cycle, component, dirty⟩) []
        (chartered.known stands) fun inner place member =>
          rendered inner place (List.mem_append_left _ member))
  unfold Cycle.renderOne World.render
  generalize cycle.world.renderInPlace (World.renderNested renderDepthLimit) component dirty
    cycle.store = outcome at settled ⊢
  obtain ⟨error | slots, view, world, store⟩ := outcome
  · exact @fail more { cycle with world, store } settled component.id error
  · dsimp only
    split
    · exact settled
    · exact World.Chartered.of_same settled rfl rfl

end Chartered

/-- **Every step of a cycle lets all containers keep to what they are for.** -/
theorem keeps_chartered (asked : ComponentDef → Prop) :
    Keeps fun happened cycle => cycle.Chartered (Session.Mounted asked happened) where
  execute message chartered := Chartered.after (chartered_execute chartered message)
  external id code chartered := Chartered.after (chartered_executeExternal chartered id code)
  renderOne inlined _ _ dirty known chartered :=
    chartered.renderOne inlined dirty known
      (fun _ => Session.Mounted.mono (fun _ => id) (List.subset_append_left ..))
      (fun rendering place member =>
        Or.inr ⟨rendering, place, List.mem_append_right _ member, rfl⟩)
  reset chartered := World.Chartered.resetChanges chartered

end Cycle

/-! ### Sessions -/

/-- **What is done outside of a session is done by a program.** -/
def Entry.Programmed : Entry → Prop
  | .outside change => ∃ program : Program Empty Unit, ∀ store, change store = (program.runAlone store).2
  | _ => True

namespace Session

variable {session : Session} {classes more : ComponentDef → Prop} {entry : Entry}

/-- All containers of a session keep to what they are for. -/
def Chartered (classes : ComponentDef → Prop) (session : Session) : Prop :=
  session.world.Chartered classes [] session.store

/-- The class of the component that an entry mounts, if it does. -/
def Adds (session : Session) (entry : Entry) (definition : ComponentDef) : Prop :=
  ∃ id, entry = .mount id definition ∧ (session.cycle? entry).isSome = true

namespace Chartered

theorem mono (chartered : session.Chartered classes)
    (grows : ∀ definition, classes definition → more definition) : session.Chartered more :=
  World.Chartered.mono chartered grows

/-- **Where a cycle starts**, a component may have been mounted. -/
theorem of_runs (chartered : session.Chartered classes)
    (adds : ∀ definition, session.Adds entry definition → classes definition) {world : World}
    {request : Request} {store : Store}
    (runs : session.cycle? entry = some (world, request, store)) :
    world.Chartered classes [] store := by
  cases opened : session.closed with
  | true => cases entry <;> simp [cycle?, opened] at runs
  | false =>
    cases entry with
    | mount id definition =>
      have mounted := World.Chartered.mount chartered
        (adds definition ⟨id, rfl, Option.isSome_iff_exists.mpr ⟨_, runs⟩⟩) id
      simp only [cycle?, opened, Bool.false_eq_true, if_false] at runs
      generalize session.world.mount id definition session.store = outcome at mounted runs
      obtain ⟨error | value, reached, stored⟩ := outcome
      · cases runs
      · cases runs
        exact mounted
    | handle messages =>
      simp only [cycle?, opened, Bool.false_eq_true, if_false] at runs
      cases runs
      exact chartered
    | handleText text =>
      simp only [cycle?, opened, Bool.false_eq_true, if_false] at runs
      cases read : SubMessage.batchOfText text with
      | error error =>
        rw [read] at runs
        cases runs
      | ok messages =>
        rw [read] at runs
        cases runs
        exact chartered
    | external id code =>
      simp only [cycle?, opened, Bool.false_eq_true, if_false] at runs
      cases runs
      exact chartered
    | _ => cases runs

/-- The variable of a component is read from outside. -/
theorem get (chartered : session.Chartered classes) (id name : String) :
    (session.get id name).2.Chartered classes := by
  unfold Session.get
  cases known : session.world.instance? id with
  | error error => exact chartered
  | ok component =>
    have stands := World.instance?_eq_ok_iff.mp known
    rw [← World.Chartered.filed chartered stands] at stands
    exact World.Chartered.change chartered stands { component with container := Variables.own _ } rfl rfl
      fun kept => kept.read (World.Chartered.known chartered stands) name

/-- **The connection ends**: all containers of components end, and that of the session is emptied. -/
theorem disconnect (chartered : session.Chartered classes) :
    session.disconnect.Chartered classes := by
  unfold Session.disconnect
  split
  · exact chartered
  · have ended (places : List (Option Instance)) {store : Store} {shared : Tenant}
        (chartered : ReactiveView.Chartered (shared :: places.filterMap (Option.map Instance.tenant))
          store) : ReactiveView.Chartered [shared]
          (places.foldl (fun store place => (World.endOf place store).2) store) := by
      induction places generalizing store with
      | nil => exact chartered
      | cons place rest ih =>
        cases place with
        | none => exact ih chartered
        | some component =>
          have first : ReactiveView.Chartered (component.tenant :: shared ::
              rest.filterMap (Option.map Instance.tenant)) store :=
            chartered.perm (List.Perm.swap ..)
          exact ih first.drop
    exact ⟨nofun, nofun, (ended _ (World.Chartered.chartered chartered)).cleanup⟩

/-- Where the cycle of an entry starts. -/
theorem starts {asked : ComponentDef → Prop} {happened : List Event}
    (chartered : session.Chartered (Mounted asked happened))
    (adds : ∀ definition, session.Adds entry definition → asked definition) {world : World}
    {request : Request} {store : Store}
    (runs : session.cycle? entry = some (world, request, store)) :
    (Cycle.start world store).Chartered (Mounted asked (happened ++ session.asked entry)) :=
  ((chartered.of_runs (fun definition added => Or.inl (adds definition added)) runs).mono
    fun _ => Mounted.mono (fun _ => id) (List.subset_append_left ..)).resetChanges

/-- **An entry lets all containers keep to what they are for**, with the classes of the components that are
mounted by it. -/
theorem enter {asked : ComponentDef → Prop} {happened : List Event}
    (chartered : session.Chartered (Mounted asked happened)) (programmed : entry.Programmed)
    (adds : ∀ definition, session.Adds entry definition → asked definition) :
    (session.enter entry).session.Chartered
      (Mounted asked (happened ++ session.eventsOf entry)) := by
  cases runs : session.cycle? entry with
  | some cycle =>
    obtain ⟨world, request, store⟩ := cycle
    have ran := (Cycle.keeps_chartered asked).run (chartered.starts adds runs) request
    rw [enter_of_runs runs, eventsOf, turns, runs, ← List.append_assoc]
    exact World.Chartered.of_same ran rfl rfl
  | none =>
    refine mono ?_ fun _ => Mounted.mono (fun _ => id) (List.subset_append_left ..)
    cases entry with
    | mount id definition =>
      simp only [cycle?] at runs
      simp only [Session.enter, Session.mount]
      split at runs
      · next closed =>
        rw [if_pos closed]
        exact chartered
      · next opened =>
        rw [if_neg opened]
        generalize session.world.mount id definition session.store = outcome at runs ⊢
        obtain ⟨error | value, world, store⟩ := outcome
        · exact chartered
        · cases runs
    | unmount id =>
      simp only [Session.enter, Session.unmount]
      split
      · exact chartered
      · cases session.world.instance? id with
        | error error => exact chartered
        | ok component => exact (World.Chartered.destroyAll chartered [id]).of_same rfl rfl
    | handle messages =>
      simp only [cycle?] at runs
      split at runs
      · next closed =>
        simp only [Session.enter, Session.handle, Session.run, closed, if_true]
        exact chartered
      · cases runs
    | handleText text =>
      simp only [cycle?] at runs
      simp only [Session.enter, Session.handleText]
      split at runs
      · next closed =>
        rw [if_pos closed]
        exact chartered
      · next opened =>
        rw [if_neg opened]
        cases read : SubMessage.batchOfText text with
        | error error => exact chartered
        | ok messages =>
          rw [read] at runs
          cases runs
    | external id code =>
      simp only [cycle?] at runs
      split at runs
      · next closed =>
        simp only [Session.enter, Session.externalUpdate, Session.run, closed, if_true]
        exact chartered
      · cases runs
    | setIdentity name value => exact World.Chartered.of_same chartered rfl rfl
    | get id name => exact chartered.get id name
    | outside change =>
      obtain ⟨program, same⟩ := programmed
      have changed := (World.Chartered.chartered chartered).runAlone program
      rw [← same] at changed
      exact ⟨World.Chartered.filed chartered, World.Chartered.known chartered, changed⟩
    | disconnect => exact chartered.disconnect

end Chartered

/-- At every stage of an entry all containers keep to what they are for. -/
theorem Chartered.stages {asked : ComponentDef → Prop} {happened : List Event}
    (chartered : session.Chartered (Mounted asked happened))
    (adds : ∀ definition, session.Adds entry definition → asked definition) :
    ∀ stage ∈ session.stages happened entry, stage.cycle.Chartered (Mounted asked stage.happened) := by
  unfold Session.stages
  cases runs : session.cycle? entry with
  | none => exact fun stage member => by cases member
  | some cycle => exact (Cycle.keeps_chartered asked).stages (chartered.starts adds runs) cycle.2.1

/-- The classes of the components that were mounted by request so far. -/
def Asked (config : Config) (entries : List Entry) (definition : ComponentDef) : Prop :=
  ∃ entry earlier, entry :: earlier <:+ entries ∧ (reached config earlier).Adds entry definition

theorem Asked.mono {config : Config} {entry : Entry} {earlier : List Entry} (definition : ComponentDef)
    (asked : Asked config earlier definition) : Asked config (entry :: earlier) definition := by
  obtain ⟨first, before, suffix, adds⟩ := asked
  exact ⟨first, before, suffix.trans (List.suffix_cons ..), adds⟩

/-- **All containers of a session keep to what they are for**, in every state. -/
theorem chartered_reached (config : Config) {entries : List Entry}
    (programmed : ∀ entry ∈ entries, entry.Programmed) :
    (reached config entries).Chartered (Mounted (Asked config entries) (events config entries)) := by
  induction entries with
  | nil => exact ⟨nofun, nofun, ReactiveView.Chartered.start.new _⟩
  | cons entry earlier ih =>
    have before := ih fun other member => programmed other (List.mem_cons_of_mem _ member)
    exact (before.mono fun _ => Mounted.mono Asked.mono (List.Subset.refl _)).enter
      (programmed entry List.mem_cons_self)
      fun definition adds => ⟨entry, earlier, List.suffix_refl _, adds⟩

/-- **What a session comes to**: its state after some entries, and those at the stages of the last one. -/
inductive Comes (config : Config) : List Entry → List Event → World → Store → Prop
  | after (entries : List Entry) : Comes config entries (events config entries)
    (reached config entries).world (reached config entries).store
  | during {entry : Entry} {earlier : List Entry} {stage : Stage}
    (member : stage ∈ (reached config earlier).stages (events config earlier) entry) :
    Comes config (entry :: earlier) stage.happened stage.cycle.world stage.cycle.store

theorem Comes.chartered {config : Config} {entries : List Entry} {happened : List Event} {world : World}
    {store : Store} (comes : Comes config entries happened world store)
    (programmed : ∀ entry ∈ entries, entry.Programmed) :
    world.Chartered (Mounted (Asked config entries) happened) [] store := by
  cases comes with
  | after => exact chartered_reached config programmed
  | @during entry earlier stage member =>
    have before := chartered_reached config fun other earlier =>
      programmed other (List.mem_cons_of_mem _ earlier)
    exact (before.mono fun _ => Mounted.mono Asked.mono (List.Subset.refl _)).stages
      (fun definition adds => ⟨entry, earlier, List.suffix_refl _, adds⟩) stage member

end Session

/-! ### Names that are not declared -/

namespace World

variable {world : World} {store : Store}

/-- Forgetting marks changes nothing else. -/
theorem retains_resetChanges (world : World) (store : Store) :
    store.Retains (world.resetChanges store) := by
  refine (Container.retains_resetChanges world.shared store).trans (Store.retains_foldl ?_ _ _)
  intro store place
  cases place with
  | none => exact .refl store
  | some component => exact component.container.retains_resetChanges store

/-- **Once all marks are forgotten, no name is marked.** -/
theorem not_mem_changes_resetChanges {site : Site} {container : Container}
    (found : world.container? site = some container) (name : String) :
    name ∉ container.changes (world.resetChanges store) := by
  -- what is reset has no marks, and gets none while others are reset
  unfold resetChanges
  cases site with
  | none =>
    cases found
    refine fun marked => world.shared.not_mem_changes_resetChanges name
      (Store.forgets_foldl ?_ world.mounted.values _ marked)
    intro store place changeset name marked
    cases place with
    | none => exact marked
    | some component => exact component.container.forgets_resetChanges marked
  | some id =>
    obtain ⟨component, there, rfl⟩ := exists_of_container? found
    have member : some component ∈ world.mounted.values :=
      (OrderedMap.mem_values_iff _ _).mpr ⟨id, there⟩
    obtain ⟨before, later, split⟩ := List.append_of_mem member
    rw [split, List.foldl_append, List.foldl_cons]
    refine fun marked => component.container.not_mem_changes_resetChanges name
      (Store.forgets_foldl ?_ later _ marked)
    intro store place changeset name marked
    cases place with
    | none => exact marked
    | some other => exact other.container.forgets_resetChanges marked

end World

namespace Cycle

/-- **If no name is marked, nothing is rendered.** -/
theorem affected_of_unmarked {cycle : Cycle}
    (unmarked : ∀ {site container}, cycle.world.container? site = some container →
      ∀ name, name ∉ container.changes cycle.store) : cycle.affected none = [] := by
  unfold affected
  rw [List.filterMap_eq_nil_iff]
  intro entry member
  obtain ⟨id, place⟩ := entry
  rw [Option.map_eq_none_iff]
  unfold dirtyOf
  rw [if_neg (Option.some_ne_none id).symm]
  split
  · rfl
  · cases place with
    | none => rfl
    | some component =>
      have own := unmarked (World.container?_of_mounted (OrderedMap.mem_entries_iff.mp member))
      have shared := @unmarked none _ rfl
      have nothing : ((component.container.changes cycle.store).insertAll
          (component.sharedChanges (cycle.world.shared.changes cycle.store))).isEmpty = true := by
        rw [NameSet.isEmpty, List.isEmpty_iff, List.eq_nil_iff_forall_not_mem]
        intro name member
        rcases NameSet.mem_insertAll.mp member with marked | marked
        · exact shared name (NameSet.contains_iff.mp (List.mem_filter.mp marked).2)
        · exact own name marked
      simp only [Instance.dirty, nothing, if_true]

end Cycle

namespace Session

variable {config : Config} {entries : List Entry} {happened : List Event} {world : World}
  {store : Store}

/-- What assigns a name that is not declared does nothing. -/
theorem execute_of_undeclared {id name : String}
    (undeclared : ∀ component, world.instance? id = .ok component →
      component.definition.declares name = false) (value : Json) :
    ∃ error, Cycle.execute world (.assign id name value) store = (.error error, world, store) := by
  unfold Cycle.execute
  cases known : world.instance? (SubMessage.assign id name value).component with
  | error error => exact ⟨error, rfl⟩
  | ok component =>
    refine ⟨component.definition.unknownVariable name, ?_⟩
    simp only [Cycle.assign, undeclared component known, Bool.not_false, if_true]

/-- **A message that assigns a name that is not declared changes no variable** of any component. -/
theorem handle_of_undeclared {session : Session} (filed : session.world.Filed) {id name : String}
    (undeclared : ∀ component, session.world.instance? id = .ok component →
      component.definition.declares name = false) (value : Json) :
    session.store.Retains (session.handle [.assign id name value]).session.store ∧
      ∀ site, (session.handle [.assign id name value]).session.world.container? site =
        session.world.container? site := by
  unfold Session.handle Session.run
  split
  · exact ⟨.refl _, fun _ => rfl⟩
  · obtain ⟨error, nothing⟩ := @execute_of_undeclared session.world
      (session.world.resetChanges session.store) id name undeclared value
    have performed : (Cycle.start session.world session.store).perform
        (.messages [.assign id name value]) =
          (Cycle.start session.world session.store).fail id error := by
      simp only [Cycle.perform, Cycle.executeAll, Cycle.start, nothing, Cycle.after,
        SubMessage.component, ite_self]
    have same (site : Site) :=
      Cycle.container?_fail (Cycle.start session.world session.store) id error site filed
    have stored : ((Cycle.start session.world session.store).fail id error).store =
        session.world.resetChanges session.store := by
      obtain ⟨_, same⟩ := Cycle.exists_fail_eq (Cycle.start session.world session.store) id error
      rw [same]
      rfl
    have calm : ((Cycle.start session.world session.store).fail id error).affected none = [] := by
      refine Cycle.affected_of_unmarked fun {site container} found => ?_
      rw [stored]
      exact World.not_mem_changes_resetChanges ((same site).symm.trans found)
    have newcomer : Cycle.newcomer? (.messages [.assign id name value]) = none := rfl
    dsimp only
    unfold Cycle.run
    dsimp only
    rw [performed, newcomer, calm]
    have started := World.retains_resetChanges session.world session.store
    rw [← stored] at started
    exact ⟨started.trans (World.retains_resetChanges ..), same⟩

/--
**Only declared variables exist**, in every state that a session comes to, whatever messages, code and
templates ask for. The container of a component holds and marks reactive variables of its class, besides
the mark of the component itself; the container of the session holds and marks shared variables of classes
of which a component was mounted. No class that is built declares a name both ways. A message that assigns
another name does nothing, and no variable is changed in handling it.
-/
theorem declared_of_comes (config : Config) {entries : List Entry}
    (programmed : ∀ entry ∈ entries, entry.Programmed) {happened : List Event} {world : World}
    {store : Store} (comes : Comes config entries happened world store) :
    (∀ id component, world.mounted.get? id = some (some component) → ∀ name,
      (name ∈ component.container.values.keys → component.definition.isReactive name = true) ∧
      (name ∈ component.container.changes store →
        component.definition.isReactive name = true ∨ name = Template.componentName)) ∧
    (∀ name, name ∈ world.shared.values.keys ∨ name ∈ world.shared.changes store →
      ∃ definition, Mounted (Asked config entries) happened definition ∧
        definition.isShared name = true) ∧
    (∀ (draft : Draft) (definition : ComponentDef), draft.build = .ok definition → ∀ name,
      ¬ (definition.isReactive name = true ∧ definition.isShared name = true)) ∧
    ∀ id name, (∀ component, world.instance? id = .ok component →
      component.definition.declares name = false) → ∀ value,
      (∃ error, Cycle.execute world (.assign id name value) store = (.error error, world, store)) ∧
      ∀ closed, store.Retains ((Session.mk world store closed).handle [.assign id name value]).session.store ∧
        ∀ site, ((Session.mk world store closed).handle [.assign id name value]).session.world.container?
          site = world.container? site := by
  have chartered := comes.chartered programmed
  have shared := chartered.chartered.within _ List.mem_cons_self
  refine ⟨fun id component there name => ?_, fun name held => ?_,
    fun draft definition ok => ComponentDef.apart_of_build ok, fun id name undeclared value => ?_⟩
  · have own := (chartered.takeOut there).chartered.within component.tenant
      (List.mem_cons_of_mem _ List.mem_cons_self)
    refine ⟨fun held => ?_, own.marked⟩
    obtain ⟨value, found⟩ := Option.isSome_iff_exists.mp ((OrderedMap.mem_keys_iff _ _).mp held)
    exact own.values found
  · rcases held with held | marked
    · obtain ⟨value, found⟩ := Option.isSome_iff_exists.mp ((OrderedMap.mem_keys_iff _ _).mp held)
      exact shared.values found
    · exact shared.marked marked
  · exact ⟨execute_of_undeclared undeclared value, fun closed =>
      @handle_of_undeclared ⟨world, store, closed⟩ chartered.filed id name undeclared value⟩

/-- What a component has counted, and the total of the session. -/
def tally : Draft :=
  (((Draft.empty "Tally").addReactive "count" (.literal (.int 0))).addShared "total"
    (.literal (.int 0))).addTemplate standardVariant "<%= count %> of <%= total %>"

/-- A tally that was rendered and then assigned holds its count, and the session holds the total. -/
theorem declared_of_comes_of_tally : ∃ definition, tally.build = .ok definition ∧ ∃ component,
    (reached Config.default [.handle [.assign "t" "count" (.int 5)], .mount "t" definition]).world.mounted.get?
      "t" = some (some component) ∧
    component.container.values.keys = ["count"] ∧ component.definition.isReactive "count" = true ∧
    (reached Config.default [.handle [.assign "t" "count" (.int 5)],
      .mount "t" definition]).world.shared.values.keys = ["total"] ∧
    ∃ owner, Mounted (Asked Config.default [.handle [.assign "t" "count" (.int 5)], .mount "t" definition])
      (events Config.default [.handle [.assign "t" "count" (.int 5)], .mount "t" definition]) owner ∧
      owner.isShared "total" = true := by
  have checked : ComponentDef.isBuiltTo tally.build (fun definition =>
      let session := reached Config.default [.handle [.assign "t" "count" (.int 5)], .mount "t" definition]
      (session.world.mounted.get? "t").join.any fun component =>
        component.container.values.keys == ["count"] && session.world.shared.values.keys == ["total"]) =
      true := by decide +kernel
  obtain ⟨definition, built, passes⟩ := ComponentDef.exists_of_isBuiltTo checked
  obtain ⟨component, there, passes⟩ := (Option.any_eq_true ..).mp passes
  rw [Bool.and_eq_true, beq_iff_eq, beq_iff_eq] at passes
  rw [Option.join_eq_some_iff] at there
  have programmed : ∀ entry ∈ [Entry.handle [.assign "t" "count" (.int 5)], .mount "t" definition],
      entry.Programmed := by
    intro entry member
    rcases List.mem_cons.mp member with rfl | member
    · trivial
    · cases List.mem_singleton.mp member
      trivial
  obtain ⟨own, shared, _⟩ := declared_of_comes Config.default programmed (.after _)
  exact ⟨definition, built, component, there, passes.1,
    (own "t" component there "count").1 (passes.1 ▸ List.mem_singleton_self _), passes.2,
    shared "total" (Or.inl (passes.2 ▸ List.mem_singleton_self _))⟩

end Session

end ReactiveView
