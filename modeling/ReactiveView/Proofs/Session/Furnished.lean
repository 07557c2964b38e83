/-
**Sessions over furnished classes.**

All components of a session are of furnished classes if those are that are mounted by request: children
are of classes that their parents declare. Whatever is done then, each component is rendered with one of
its templates, also if its code has chosen another one before it failed; and no default is faulty, in
whatever order variables are read.

* `World.Furnished` — all components that stand in their places are furnished.
* `Rendering.ends` — a rendering keeps this, with all renderings inside of it.
* `Cycle.keeps_furnished`, `Session.Furnished.enter` — so do cycles, and every entry.
* `Session.furnished_stages` — at every stage of every session, declarations cannot fail.
-/

import ReactiveView.Proofs.Component.Furnished
import ReactiveView.Proofs.Render.Faults
import ReactiveView.Proofs.Session.Stages

namespace ReactiveView

namespace World

variable {world after : World} {id : String} {component : Instance} {store : Store}

/-- A component that cannot be reached is no fault of a class. -/
theorem faultless_instance? (world : World) (id : String) : Faultless (world.instance? id) := by
  unfold instance?
  split
  · exact .of_kind (by simp [Error.kind])
  · exact .of_kind (by simp [Error.kind])
  · exact .ok _

/-- Nor is an id that is taken. -/
theorem faultless_mount (world : World) (id : String) (definition : ComponentDef) (store : Store) :
    Faultless (world.mount id definition store).1 := by
  unfold mount
  split
  · exact .of_kind (by simp [Error.kind])
  · exact .ok _

/-- **All components that stand in their places are furnished.** -/
structure Furnished (world : World) : Prop where
  standing : ∀ {id component}, world.mounted.get? id = some (some component) → component.Furnished

namespace Furnished

variable (furnished : world.Furnished)

include furnished

theorem of_same (mounted : after.mounted = world.mounted) : after.Furnished :=
  ⟨fun there => furnished.standing (mounted ▸ there)⟩

/-- Something is put in a place. -/
theorem insert (id : String) (place : Option Instance)
    (fits : ∀ component, place = some component → component.Furnished)
    (mounted : after.mounted = world.mounted.insert id place) : after.Furnished := by
  refine ⟨fun {other component} there => ?_⟩
  rw [mounted, get?_insert_eq] at there
  split at there
  · exact fits component (Option.some.inj there)
  · exact furnished.standing there

/-- A component is put in its place, perhaps with other shared variables. -/
theorem change (fits : component.Furnished) (shared : Container) :
    ({ world with shared }.put component : World).Furnished := by
  refine furnished.insert component.id (some component) ?_ rfl
  rintro _ ⟨⟩
  exact fits

theorem put (fits : component.Furnished) : (world.put component).Furnished :=
  furnished.change fits world.shared

theorem takeOut (id : String) : (world.takeOut id).Furnished :=
  furnished.insert id none (fun _ => nofun) rfl

theorem putBack (fits : component.Furnished) : (world.putBack component store).1.Furnished := by
  unfold World.putBack
  split
  · exact furnished.put fits
  · exact furnished

/-- A component of a furnished class is mounted. -/
theorem mount {definition : ComponentDef} (class_ : definition.Furnished) (id : String) :
    (world.mount id definition store).2.1.Furnished := by
  unfold World.mount
  split
  · exact furnished
  · exact (furnished.put (.new class_ id store)).of_same rfl

theorem destroyAll (ids : List String) : (world.destroyAll ids store).1.Furnished :=
  ⟨fun there => furnished.standing (get?_of_destroyAll there)⟩

/-- A component that can be reached is furnished. -/
theorem of_instance? (known : world.instance? id = .ok component) : component.Furnished :=
  furnished.standing (instance?_eq_ok_iff.mp known)

/-- **The child of a call is furnished**: it is there, or of a class that its parent declares. -/
theorem childFor {parent : ComponentDef} (class_ : parent.Furnished) (className id : String)
    (store : Store) :
    let (result, after, _) := World.childFor parent className id world store
    after.Furnished ∧ Faultless result ∧ ∀ component, result = .ok component →
      component.Furnished := by
  unfold World.childFor
  cases known : parent.child className with
  | error error =>
    refine ⟨furnished, ?_, fun component ok => by cases ok⟩
    unfold ComponentDef.child at known
    split at known
    · cases known
    · cases known
      exact .of_kind (by simp [Error.kind])
  | ok definition =>
    dsimp only
    have prepared : (if world.contains id then (.ok (), world, store)
        else world.mount id definition store : Except Error Unit × World × Store).2.1.Furnished := by
      split
      · exact furnished
      · exact furnished.mount (class_.child known) id
    generalize (if world.contains id then (.ok (), world, store) else world.mount id definition store :
      Except Error Unit × World × Store) = mounted at prepared ⊢
    obtain ⟨_, reached, stored⟩ := mounted
    dsimp only at prepared ⊢
    cases standing : reached.instance? id with
    | error error =>
      have unreached := faultless_instance? reached id
      rw [standing] at unreached
      exact ⟨prepared, unreached.error, fun component ok => by cases ok⟩
    | ok component =>
      dsimp only
      split
      · exact ⟨prepared, .of_kind (by simp [Error.kind]), fun component ok => by cases ok⟩
      · refine ⟨prepared, .ok _, ?_⟩
        rintro _ ⟨⟩
        exact prepared.of_instance? standing

end Furnished

end World

/-! ### Renderings -/

namespace Rendering

/-- A rendering of a furnished component among furnished components. -/
structure Begins (rendering : Rendering) : Prop where
  component : rendering.component.Furnished
  world : rendering.world.Furnished

/-- **What comes of it**: all components are furnished, also those that are rendered inside, and nothing
fails by a fault of a class. -/
structure Ends (rendering : Rendering) : Prop where
  rendered : rendering.rendered.Furnished
  after : rendering.after.Furnished
  result : Faultless rendering.result
  inside : ∀ inner place, .renders inner place ∈ rendering.inside →
    inner.Begins ∧ Faultless inner.result

variable {rendering : Rendering}

theorem Ends.settled (ends : rendering.Ends) : rendering.settled.Furnished :=
  ends.after.putBack ends.rendered

/-- A call leads to a rendering that begins well. -/
theorem begins_of_inner (furnished : rendering.component.definition.Furnished)
    {call : Scope.Call RenderState} (world : call.world.world.Furnished) {inner : Rendering}
    (leads : rendering.inner? call = some inner) : inner.Begins := by
  have found := world.childFor furnished call.className call.id call.store
  unfold inner? at leads
  cases depth : rendering.nesting with
  | zero =>
    rw [depth] at leads
    cases leads
  | succ nesting =>
    rw [depth] at leads
    dsimp only at leads
    generalize World.childFor rendering.component.definition call.className call.id call.world.world
      call.store = answer at found leads
    obtain ⟨error | component, reached, stored⟩ := answer
    · cases leads
    · cases leads
      exact ⟨found.2.2 component rfl, found.1.takeOut component.id⟩

variable {nesting : Nat}

/-- **A call for a child** leaves all components furnished, and does not fail by a fault of a class. -/
theorem furnished_renderChild (depth : rendering.nesting = nesting + 1)
    (within : ∀ call inner, rendering.inner? call = some inner → inner.Begins → inner.Ends)
    (furnished : rendering.component.definition.Furnished) (className id : String)
    {state : RenderState} (store : Store) (world : state.world.Furnished) :
    let (result, after, _) := (scope nesting rendering.component).renderChild className id state store
    after.world.Furnished ∧ Faultless result := by
  have found := world.childFor furnished className id store
  have leads (inner : Rendering) :
      rendering.inner? ⟨className, id, state, store⟩ = some inner → inner.Begins :=
    begins_of_inner furnished world
  have within := within ⟨className, id, state, store⟩
  unfold inner? at leads within
  rw [depth] at leads within
  simp only [scope, World.scopeOf, World.renderChild_eq] at leads within ⊢
  generalize World.childFor rendering.component.definition className id state.world store = answer
    at found leads within ⊢
  obtain ⟨error | component, reached, stored⟩ := answer
  · exact ⟨found.1, found.2.1.error⟩
  · have ends := within _ rfl (leads _ rfl)
    exact ⟨ends.settled, ends.result.map _⟩

/-- What a template asks for leaves all components furnished. -/
theorem furnished_move (depth : rendering.nesting = nesting + 1)
    (within : ∀ call inner, rendering.inner? call = some inner → inner.Begins → inner.Ends)
    (furnished : rendering.component.definition.Furnished) {before after : RenderState × Store}
    (move : (scope nesting rendering.component).Move before after)
    (world : before.1.world.Furnished) : after.1.world.Furnished := by
  cases move with
  | lookup name state store =>
    exact world.of_same (RenderState.rests_lookup _ _ name state store).mounted
  | call name arguments state store =>
    exact world.of_same (RenderState.rests_callHelper _ _ name arguments state store).mounted
  | child className id state store =>
    exact (furnished_renderChild depth within furnished className id store world).1
  | grow state grows => exact world

theorem faultless_callHelper (definition : ComponentDef) (owner : Owner) (name : String)
    (arguments : List Value) (state : RenderState) (store : Store) :
    Faultless (RenderState.callHelper definition owner name arguments state store).1 := by
  unfold RenderState.callHelper
  rcases found : state.reached.callHelper definition owner state.world.identity name arguments store
    with _ | ⟨result, after, stored⟩
  · exact .ok _
  · exact (ComponentDef.faultless_callHelper found).map _

theorem faultless_lookup {definition : ComponentDef} (built : definition.Built) (owner : Owner)
    (name : String) (state : RenderState) (store : Store) :
    Faultless (RenderState.lookup definition owner name state store).1 := by
  have found := built.isOk_read? owner name state.reached store
  unfold RenderState.lookup
  generalize Variables.read? definition owner name state.reached store = answer at found ⊢
  cases answer with
  | some answer =>
    obtain ⟨result, after, stored⟩ := answer
    cases declared : definition.declares name with
    | true =>
      rw [declared] at found
      exact (Faultless.of_isOk (Option.some.inj found)).map _
    | false =>
      rw [declared] at found
      cases found
  | none =>
    dsimp only
    cases state.world.identity.get? name with
    | some value => exact .ok _
    | none => exact faultless_callHelper definition owner name [] state store

/-- **The error of a template is no fault of a class.** -/
theorem faultless_of_raises (depth : rendering.nesting = nesting + 1)
    (within : ∀ call inner, rendering.inner? call = some inner → inner.Begins → inner.Ends)
    (furnished : rendering.component.definition.Furnished) {start : RenderState × Store}
    (world : start.1.world.Furnished) {error : Error}
    (raises : (scope nesting rendering.component).Raises start error) :
    error.kind ≠ .unknownTemplate ∧ error.kind ≠ .invalidDefaultFactory := by
  refine raises.allowed (motive := fun around => around.1.world.Furnished)
    (fun error => error.kind ≠ .unknownTemplate ∧ error.kind ≠ .invalidDefaultFactory)
    (furnished_move depth within furnished) ?_ ?_ ?_ ?_ ?_ world
  · intro error innate
    cases error with
    | eval | undefinedVariable | unknownField => simp [Error.kind]
    | _ => cases innate
  · exact fun index source error allowed => allowed
  · intro state store _ name error failed
    exact (faultless_lookup furnished.built _ name state store).kinds error failed
  · intro state store _ name arguments error failed
    exact (faultless_callHelper _ _ name arguments state store).kinds error failed
  · intro state store world className id error failed
    exact (furnished_renderChild depth within furnished className id store world).2.kinds
      error failed

/-- **The error of a rendering is no fault of a class.** -/
theorem Begins.faultless (begins : rendering.Begins)
    (within : ∀ call inner, rendering.inner? call = some inner → inner.Begins → inner.Ends) :
    Faultless rendering.result := by
  obtain ⟨template, known⟩ := begins.component.exists_template
  refine ⟨fun error failed => ?_⟩
  cases depth : rendering.nesting with
  | zero =>
    simp only [result, outcome, depth, World.renderNested, Except.error.injEq] at failed
    subst failed
    simp [Error.kind]
  | succ nesting =>
    simp only [result, outcome, depth, World.renderNested, World.renderWith, known] at failed
    rcases ran : Render.render template rendering.dirty rendering.component.view
      (scope nesting rendering.component) rendering.world.config
      ⟨rendering.component.container, rendering.world⟩ rendering.store with
      ⟨other | slots, view, state, stored⟩
    · unfold scope at ran
      simp only [ran, Except.error.injEq] at failed
      subst failed
      exact faultless_of_raises depth within begins.component.definition begins.world
        (Render.raises_of_render ran)
    · unfold scope at ran
      simp only [ran, reduceCtorEq] at failed

/-- What happens inside is a rendering that a call leads to, or is inside of one. -/
theorem exists_of_renders_inside {inner : Rendering} {place : Option (String × Nat)}
    (member : .renders inner place ∈ rendering.inside) :
    ∃ call ∈ rendering.calls, ∃ leads, rendering.inner? call = some leads ∧
      (inner = leads ∨ .renders inner place ∈ leads.inside) := by
  rw [inside_eq] at member
  obtain ⟨⟨call, index⟩, called, member⟩ := List.mem_flatMap.mp member
  refine ⟨call, (List.mem_zipIdx called).2.2 ▸ List.getElem_mem _, ?_⟩
  unfold eventsOf at member
  rcases List.mem_append.mp member with mounts | member
  · unfold mountsOf at mounts
    split at mounts <;> simp at mounts
  · cases leads : rendering.inner? call with
    | none =>
      rw [leads] at member
      cases member
    | some next =>
      rw [leads] at member
      rcases List.mem_append.mp member with inside | ends
      · exact ⟨next, rfl, Or.inr inside⟩
      · simp only [Rendering.ends, List.mem_cons, reduceCtorEq, Event.renders.injEq, List.not_mem_nil,
          or_false, false_or] at ends
        exact ⟨next, rfl, Or.inl ends.1⟩

/-- **A rendering that begins well ends well**, with all renderings inside of it. -/
theorem Begins.ends {rendering : Rendering} (begins : rendering.Begins) : rendering.Ends := by
  induction rendering using Rendering.induct with
  | step rendering within =>
    have class_ := begins.component.definition
    have face := rendering.rendered_face
    have rendered : rendering.rendered.Furnished := begins.component.of_same face.2.1 face.2.2
    -- the worlds that its template comes to, and in which it makes its calls
    have path {nesting : Nat} (depth : rendering.nesting = nesting + 1) {own : Container}
        {reached : World} {stored : Store} (path : (scope nesting rendering.component).Path
          (⟨rendering.component.container, rendering.world⟩, rendering.store) rendering.calls
          (⟨own, reached⟩, stored)) : reached.Furnished ∧
          ∀ call ∈ rendering.calls, call.world.world.Furnished :=
      path.kept (motive := fun around => around.1.world.Furnished)
        (furnished_move depth within class_) begins.world
    have inside (calls : ∀ call ∈ rendering.calls, call.world.world.Furnished) (inner : Rendering)
        (place : Option (String × Nat)) (member : .renders inner place ∈ rendering.inside) :
        inner.Begins ∧ Faultless inner.result := by
      obtain ⟨call, called, next, leads, same⟩ := exists_of_renders_inside member
      have starts := begins_of_inner class_ (calls call called) leads
      have ends := within call next leads starts
      rcases same with rfl | deeper
      · exact ⟨starts, ends.result⟩
      · exact ends.inside inner place deeper
    have result := begins.faultless within
    cases rendering.course with
    | refused _ _ after calls =>
      exact ⟨rendered, after.symm ▸ begins.world, result, inside (by simp [calls])⟩
    | failed depth _ way _ _ after =>
      obtain ⟨reached, calls⟩ := path depth way
      exact ⟨rendered, after.symm ▸ reached, result, inside calls⟩
    | done depth _ way _ _ _ _ _ _ after =>
      obtain ⟨reached, calls⟩ := path depth way
      exact ⟨rendered, after.symm ▸ reached.destroyAll _, result, inside calls⟩

end Rendering

/-! ### Cycles -/

namespace Cycle

variable {world : World} {component : Instance} {store : Store}

/-- All components are furnished, those that were rendered, too, and nothing has failed by a fault of a
class. -/
structure Furnished (happened : List Event) (cycle : Cycle) : Prop where
  world : cycle.world.Furnished
  failure : ∀ error, cycle.failure = some error →
    error.kind ≠ .unknownTemplate ∧ error.kind ≠ .invalidDefaultFactory
  renders : ∀ rendering place, .renders rendering place ∈ happened →
    rendering.Begins ∧ Faultless rendering.result

/-- **The code of an action leaves its component furnished**, also if it fails. -/
theorem furnished_runCode (furnished : world.Furnished) (fits : component.Furnished) (name : String)
    (code : ActionCode) (store : Store) :
    let (result, after, _) := runCode world component name code store
    after.Furnished ∧ Faultless result := by
  have chosen := @ActionState.variant_run _ component.definition component.owner world.identity
    (code component.owner) ⟨world.variablesOf component, component.variant⟩ store fits.variant
  unfold runCode
  dsimp only
  generalize (code component.owner).run (ActionQuestion.answer component.definition component.owner
    world.identity) ⟨world.variablesOf component, component.variant⟩ store = outcome at chosen ⊢
  obtain ⟨result, state, stored⟩ := outcome
  have changed : Instance.Furnished
      { component with container := state.reached.own, variant := state.variant } :=
    ⟨fits.definition, chosen⟩
  refine ⟨furnished.change changed state.reached.shared, ?_⟩
  cases result with
  | ok value => exact .ok _
  | error cause => exact .of_kind (by simp [Error.kind])

theorem furnished_assign (furnished : world.Furnished) (fits : component.Furnished) (name : String)
    (value : Json) (store : Store) :
    let (result, after, _) := assign world component name value store
    after.Furnished ∧ Faultless result := by
  unfold assign
  dsimp only
  split
  · exact ⟨furnished, .of_kind (by simp [ComponentDef.unknownVariable, Error.kind])⟩
  · have changed (own : Container) : Instance.Furnished { component with container := own } :=
      fits.of_same rfl rfl
    refine ⟨furnished.change (changed _) _, ⟨fun error failed => ?_⟩⟩
    obtain ⟨unknown, rfl⟩ := Variables.unknown_of_write failed
    simp [ComponentDef.unknownVariable, Error.kind]

theorem furnished_execute (furnished : world.Furnished) (message : SubMessage) (store : Store) :
    let (result, after, _) := execute world message store
    after.Furnished ∧ Faultless result := by
  have reached := World.faultless_instance? world message.component
  unfold execute
  cases known : world.instance? message.component with
  | error error =>
    rw [known] at reached
    exact ⟨furnished, reached.error⟩
  | ok component =>
    have fits := furnished.of_instance? known
    cases message with
    | assign id name value => exact furnished_assign furnished fits name value store
    | action id name params =>
      dsimp only
      cases component.definition.action? name with
      | none => exact ⟨furnished, .of_kind (by simp [Error.kind])⟩
      | some action => exact furnished_runCode furnished fits name _ store

theorem furnished_executeExternal (furnished : world.Furnished) (id : String) (code : ActionCode)
    (store : Store) :
    let (result, after, _) := executeExternal world id code store
    after.Furnished ∧ Faultless result := by
  have reached := World.faultless_instance? world id
  unfold executeExternal
  cases known : world.instance? id with
  | error error =>
    rw [known] at reached
    exact ⟨furnished, reached.error⟩
  | ok component =>
    exact furnished_runCode furnished (furnished.of_instance? known) externalAction code store

namespace Furnished

variable {happened : List Event} {cycle : Cycle}

/-- A failure is shown that is no fault of a class. -/
theorem fail (furnished : cycle.Furnished happened) (id : String) {error : Error}
    (faultless : Faultless (.error error : Except Error Unit)) :
    (cycle.fail id error).Furnished happened := by
  obtain ⟨className, same⟩ := exists_fail_eq cycle id error
  rw [same]
  refine ⟨?_, fun other failed => ?_, furnished.renders⟩
  · have invalid : (invalidated cycle.world id).Furnished := by
      unfold invalidated
      split
      · next component known =>
        exact furnished.world.put ((furnished.world.of_instance? known).of_same rfl rfl)
      · exact furnished.world
    exact invalid.of_same rfl
  · rcases Option.or_eq_some_iff.mp failed with earlier | ⟨_, now⟩
    · exact furnished.failure other earlier
    · cases now
      exact faultless.kinds error rfl

theorem after (furnished : cycle.Furnished happened) (id : String)
    {done : Except Error Unit × World × Store} (world : done.2.1.Furnished)
    (faultless : Faultless done.1) : (cycle.after id done).Furnished happened := by
  obtain ⟨result, reached, stored⟩ := done
  have changed : Furnished happened { cycle with world := reached, store := stored } :=
    ⟨world, furnished.failure, furnished.renders⟩
  cases result with
  | ok value => exact changed
  | error error => exact changed.fail id faultless

/-- **A component is rendered**, and perhaps its failure is shown. -/
theorem renderOne (furnished : cycle.Furnished happened) (inlined : List String) {id : String}
    (dirty : Dirty) (known : cycle.world.instance? id = .ok component) :
    (cycle.renderOne inlined component dirty).1.Furnished
      (happened ++ (Turn.mk cycle component dirty).events) := by
  have begins : (Turn.rendering ⟨cycle, component, dirty⟩).Begins :=
    ⟨furnished.world.of_instance? known, furnished.world.takeOut component.id⟩
  have ends := begins.ends
  have renders : ∀ rendering place,
      .renders rendering place ∈ happened ++ (Turn.mk cycle component dirty).events →
      rendering.Begins ∧ Faultless rendering.result := by
    intro rendering place member
    rcases List.mem_append.mp member with earlier | now
    · exact furnished.renders rendering place earlier
    · rcases List.mem_append.mp now with inside | last
      · exact ends.inside rendering place inside
      · simp only [Rendering.ends, List.mem_cons, reduceCtorEq, Event.renders.injEq, List.not_mem_nil,
          or_false, false_or] at last
        exact last.1 ▸ ⟨begins, ends.result⟩
  obtain ⟨store, same⟩ := exists_renderOne_eq ⟨cycle, component, dirty⟩ inlined
  dsimp only at same
  rw [same]
  have faultless := ends.result
  have settled := ends.settled
  cases result : (Turn.rendering ⟨cycle, component, dirty⟩).result with
  | error error =>
    rw [result] at faultless
    have changed : Furnished (happened ++ (Turn.mk cycle component dirty).events)
        { cycle with world := (Turn.rendering ⟨cycle, component, dirty⟩).settled, store := store } :=
      ⟨settled, furnished.failure, renders⟩
    exact changed.fail component.id faultless.error
  | ok rendered =>
    refine ⟨?_, furnished.failure, renders⟩
    dsimp only
    split
    · exact settled
    · exact settled.of_same rfl

end Furnished

/-- **Every step of a cycle keeps all components furnished.** -/
theorem keeps_furnished : Keeps fun happened cycle => cycle.Furnished happened where
  execute {_ cycle} message furnished :=
    furnished.after _ (furnished_execute furnished.world message cycle.store).1
      (furnished_execute furnished.world message cycle.store).2
  external {_ cycle} id code furnished :=
    furnished.after id (furnished_executeExternal furnished.world id code cycle.store).1
      (furnished_executeExternal furnished.world id code cycle.store).2
  renderOne inlined _ _ dirty known furnished := furnished.renderOne inlined dirty known
  reset furnished := ⟨furnished.world, furnished.failure, furnished.renders⟩

end Cycle

/-! ### Sessions -/

/-- An entry that mounts a component mounts one of a furnished class. -/
def Entry.Furnished : Entry → Prop
  | .mount _ definition => definition.Furnished
  | _ => True

namespace Session

variable {session : Session} {happened : List Event} {entry : Entry}

/-- All components of a session are furnished, and so are those that were rendered in it. -/
structure Furnished (happened : List Event) (session : Session) : Prop where
  world : session.world.Furnished
  renders : ∀ rendering place, .renders rendering place ∈ happened →
    rendering.Begins ∧ Faultless rendering.result

/-- What is asked for before a cycle is no rendering. -/
theorem not_renders_asked {rendering : Rendering} {place : Option (String × Nat)} :
    .renders rendering place ∉ session.asked entry := by
  cases entry with
  | mount id definition =>
    unfold asked
    split <;> simp
  | unmount id =>
    unfold asked
    split <;> simp
  | _ => simp [asked]

/-- Where a cycle starts, all components are furnished. -/
theorem furnished_of_runs (furnished : session.world.Furnished) (fits : entry.Furnished)
    {world : World} {request : Request} {store : Store}
    (runs : session.cycle? entry = some (world, request, store)) : world.Furnished := by
  cases opened : session.closed with
  | true => cases entry <;> simp [cycle?, opened] at runs
  | false =>
    cases entry with
    | mount id definition =>
      have mounted : (session.world.mount id definition session.store).2.1.Furnished :=
        furnished.mount fits id
      simp only [cycle?, opened, Bool.false_eq_true, if_false] at runs
      generalize session.world.mount id definition session.store = outcome at mounted runs
      obtain ⟨error | value, reached, stored⟩ := outcome
      · cases runs
      · cases runs
        exact mounted
    | handle messages =>
      simp only [cycle?, opened, Bool.false_eq_true, if_false] at runs
      cases runs
      exact furnished
    | handleText text =>
      simp only [cycle?, opened, Bool.false_eq_true, if_false] at runs
      cases read : SubMessage.batchOfText text with
      | error error =>
        rw [read] at runs
        cases runs
      | ok messages =>
        rw [read] at runs
        cases runs
        exact furnished
    | external id code =>
      simp only [cycle?, opened, Bool.false_eq_true, if_false] at runs
      cases runs
      exact furnished
    | _ => cases runs

theorem Furnished.starts (furnished : session.Furnished happened) (fits : entry.Furnished)
    {world : World} {request : Request} {store : Store}
    (runs : session.cycle? entry = some (world, request, store)) :
    (Cycle.start world store).Furnished (happened ++ session.asked entry) := by
  refine ⟨furnished_of_runs furnished.world fits runs, fun _ => nofun, fun rendering place member => ?_⟩
  exact furnished.renders rendering place ((List.mem_append.mp member).resolve_right not_renders_asked)

/-- **At every stage of an entry all components are furnished.** -/
theorem Furnished.stages (furnished : session.Furnished happened) (fits : entry.Furnished) :
    ∀ stage ∈ session.stages happened entry, stage.cycle.Furnished stage.happened := by
  unfold Session.stages
  cases runs : session.cycle? entry with
  | none => exact fun stage member => by cases member
  | some cycle =>
    exact Cycle.keeps_furnished.stages (furnished.starts fits runs) cycle.2.1

/-- A text that is no batch is no fault of a class. -/
theorem faultless_batchOfText (text : String) : Faultless (SubMessage.batchOfText text) := by
  unfold SubMessage.batchOfText
  split
  · exact .ok _
  · exact .of_kind (by simp [Error.kind])

/-- An entry that runs no cycle keeps all components furnished, too. -/
theorem Furnished.idle (furnished : session.world.Furnished) (fits : entry.Furnished)
    (idle : session.cycle? entry = none) :
    (session.enter entry).session.world.Furnished ∧ Faultless (session.enter entry).result := by
  have refused {α : Type} {error : Error} (faultless : Faultless (.error error : Except Error α)) :
      (session.refuse error : Outcome α).session.world.Furnished ∧
        Faultless (session.refuse error : Outcome α).result := ⟨furnished, faultless⟩
  have closed : Faultless (.error .closed : Except Error Unit) := .of_kind (by simp [Error.kind])
  cases entry with
  | mount id definition =>
    simp only [cycle?] at idle
    simp only [Session.enter, Session.mount]
    split at idle
    · next ended =>
      rw [if_pos ended]
      exact refused closed
    · next opened =>
      have mounts := World.faultless_mount session.world id definition session.store
      rw [if_neg opened]
      generalize session.world.mount id definition session.store = outcome at mounts idle ⊢
      obtain ⟨error | value, world, store⟩ := outcome
      · exact refused mounts.error
      · cases idle
  | unmount id =>
    have reached := World.faultless_instance? session.world id
    simp only [Session.enter, Session.unmount]
    split
    · exact refused closed
    · cases known : session.world.instance? id with
      | error error =>
        rw [known] at reached
        exact refused reached.error
      | ok component => exact ⟨(furnished.destroyAll [id]).of_same rfl, .ok _⟩
  | handle messages =>
    simp only [cycle?] at idle
    split at idle
    · next ended =>
      simp only [Session.enter, Session.handle, Session.run, ended, if_true]
      exact refused closed
    · cases idle
  | handleText text =>
    simp only [cycle?] at idle
    simp only [Session.enter, Session.handleText]
    split at idle
    · next ended =>
      rw [if_pos ended]
      exact refused closed
    · next opened =>
      have reads := faultless_batchOfText text
      rw [if_neg opened]
      cases read : SubMessage.batchOfText text with
      | error error =>
        rw [read] at reads
        exact refused reads.error
      | ok messages =>
        rw [read] at idle
        cases idle
  | external id code =>
    simp only [cycle?] at idle
    split at idle
    · next ended =>
      simp only [Session.enter, Session.externalUpdate, Session.run, ended, if_true]
      exact refused closed
    · cases idle
  | setIdentity name value => exact ⟨furnished.of_same rfl, .ok _⟩
  | outside change => exact ⟨furnished, .ok _⟩
  | get id name =>
    have reached := World.faultless_instance? session.world id
    simp only [Session.enter, Session.get]
    cases known : session.world.instance? id with
    | error error =>
      rw [known] at reached
      exact ⟨furnished, reached.error⟩
    | ok component =>
      have fits := furnished.of_instance? known
      have changed (own : Container) : Instance.Furnished { component with container := own } :=
        fits.of_same rfl rfl
      exact ⟨furnished.change (changed _) _,
        (fits.definition.built.faultless_read component.owner name _ session.store).map _⟩
  | disconnect =>
    refine ⟨?_, .ok _⟩
    change session.disconnect.world.Furnished
    unfold disconnect
    split
    · exact furnished
    · exact ⟨fun there => by cases there⟩

/-- **An entry keeps all components furnished**, and does not fail by a fault of a class. -/
theorem Furnished.enter (furnished : session.Furnished happened) (fits : entry.Furnished) :
    (session.enter entry).session.Furnished (happened ++ session.eventsOf entry) ∧
      Faultless (session.enter entry).result := by
  cases runs : session.cycle? entry with
  | none =>
    have idle := Furnished.idle furnished.world fits runs
    refine ⟨⟨idle.1, fun rendering place member => ?_⟩, idle.2⟩
    refine furnished.renders rendering place ((List.mem_append.mp member).resolve_right ?_)
    rw [eventsOf, turns, runs]
    exact fun asked => not_renders_asked ((List.mem_append.mp asked).resolve_right (by simp))
  | some cycle =>
    obtain ⟨world, request, store⟩ := cycle
    have ran := Cycle.keeps_furnished.run (furnished.starts fits runs) request
    rw [enter_of_runs runs]
    refine ⟨⟨ran.world.of_same rfl, ?_⟩, ⟨fun error failed => ?_⟩⟩
    · rw [eventsOf, turns, runs, ← List.append_assoc]
      exact ran.renders
    · simp only [flush, resultOf] at failed
      split at failed
      · next first =>
        cases failed
        exact ran.failure error first
      · cases failed

/-- All components are furnished in every session over furnished classes. -/
theorem furnished_reached (config : Config) {entries : List Entry}
    (fits : ∀ entry ∈ entries, entry.Furnished) :
    (reached config entries).Furnished (events config entries) := by
  induction entries with
  | nil => exact ⟨⟨nofun⟩, by simp [events]⟩
  | cons entry earlier ih =>
    exact ((ih fun other member => fits other (List.mem_cons_of_mem _ member)).enter
      (fits entry List.mem_cons_self)).1

/-- **The worlds that a session comes to**: before and after every entry, and at every stage of it. -/
def worlds (config : Config) : List Entry → List World
  | [] => [(Session.new config).world]
  | entry :: earlier => worlds config earlier ++
    ((reached config earlier).stages (events config earlier) entry).map (fun stage => stage.cycle.world) ++
      [(reached config (entry :: earlier)).world]

theorem furnished_worlds (config : Config) {entries : List Entry}
    (fits : ∀ entry ∈ entries, entry.Furnished) :
    ∀ world ∈ worlds config entries, world.Furnished := by
  induction entries with
  | nil =>
    intro world member
    cases List.mem_singleton.mp member
    exact ⟨nofun⟩
  | cons entry earlier ih =>
    have earlierFits : ∀ other ∈ earlier, other.Furnished :=
      fun other member => fits other (List.mem_cons_of_mem _ member)
    have before := furnished_reached config earlierFits
    intro world member
    rcases List.mem_append.mp member with member | last
    · rcases List.mem_append.mp member with early | during
      · exact ih earlierFits world early
      · obtain ⟨stage, taken, rfl⟩ := List.mem_map.mp during
        exact (before.stages (fits entry List.mem_cons_self) stage taken).world
    · cases List.mem_singleton.mp last
      exact (furnished_reached config fits).world

/--
**What furnished classes declare cannot fail**: in every world that a session over such classes comes to,
the variant of each component is one of the templates of its class, and its code can rely on what the class
declares. So every component that is rendered is rendered with one of its templates, and neither a
rendering nor an entry fails because a template is unknown or a default is faulty.
-/
theorem reliable_of_furnished (config : Config) {entries : List Entry}
    (furnished : ∀ id definition, .mount id definition ∈ entries → definition.Furnished) :
    (∀ world ∈ worlds config entries, ∀ id component,
      world.mounted.get? id = some (some component) →
        component.variant ∈ component.definition.declared.templates.keys ∧
          component.definition.Reliable) ∧
    (∀ rendering place, .renders rendering place ∈ events config entries →
      rendering.component.variant ∈ rendering.component.definition.declared.templates.keys ∧
        rendering.component.definition.Reliable ∧
        ∀ error, rendering.result = .error error →
          error.kind ≠ .unknownTemplate ∧ error.kind ≠ .invalidDefaultFactory) ∧
    ∀ entry earlier, entry :: earlier <:+ entries →
      ∀ error, ((reached config earlier).enter entry).result = .error error →
        error.kind ≠ .unknownTemplate ∧ error.kind ≠ .invalidDefaultFactory := by
  have fits : ∀ entry ∈ entries, entry.Furnished := by
    intro entry member
    cases entry with
    | mount id definition => exact furnished id definition member
    | _ => trivial
  refine ⟨fun world member id component there => ?_, fun rendering place member => ?_,
    fun entry earlier suffix error failed => ?_⟩
  · have component := (furnished_worlds config fits world member).standing there
    exact ⟨component.variant, component.definition.built.reliable⟩
  · obtain ⟨begins, faultless⟩ := (furnished_reached config fits).renders rendering place member
    exact ⟨begins.component.variant, begins.component.definition.built.reliable, faultless.kinds⟩
  · have before := furnished_reached config fun other member =>
      fits other (suffix.subset (List.mem_cons_of_mem entry member))
    exact (before.enter (fits entry (suffix.subset List.mem_cons_self))).2.kinds error failed

/-- A tab that is open or closed. -/
def tab : Draft :=
  ((Draft.empty "Tab").addTemplate standardVariant "<b></b>").addTemplate "closed" "<i></i>"

/-- Closes a tab, and fails after this. -/
def slam : ActionCode := fun _ =>
  .ask (.setVariant "closed") fun _ => .done (.error (.text "too hard"))

/-- A tab inside a page has been closed by code that has failed, and is shown by its other template. -/
theorem reliable_of_furnished_of_tab : ∃ leaf page, tab.build = .ok leaf ∧
    (Draft.page leaf "<%= child(\"Tab\", \"t\") %>").build = .ok page ∧ page.Furnished ∧
    ∃ component, (reached Config.default [.external "t" slam, .mount "p" page]).world.mounted.get? "t" =
        some (some component) ∧ component.variant = "closed" ∧
      component.variant ∈ component.definition.declared.templates.keys ∧
      component.definition.Reliable := by
  have checked : ComponentDef.isBuiltTo tab.build (fun leaf => ComponentDef.isBuiltTo
      (Draft.page leaf "<%= child(\"Tab\", \"t\") %>").build fun page =>
        !leaf.declared.templates.isEmpty && (!page.declared.templates.isEmpty &&
        ((reached Config.default [.external "t" slam, .mount "p" page]).world.mounted.get? "t").join.any
          fun component => component.variant == "closed")) = true := by decide +kernel
  obtain ⟨leaf, built, passes⟩ := ComponentDef.exists_of_isBuiltTo checked
  obtain ⟨page, made, passes⟩ := ComponentDef.exists_of_isBuiltTo passes
  rw [Bool.and_eq_true, Bool.and_eq_true, Bool.not_eq_true', Bool.not_eq_true'] at passes
  obtain ⟨shown, some, passes⟩ := passes
  have furnished : page.Furnished := (ComponentDef.Furnished.of_leaf built rfl shown).page made some
  obtain ⟨component, there, passes⟩ := (Option.any_eq_true ..).mp passes
  rw [Option.join_eq_some_iff] at there
  have classes : ∀ id definition, .mount id definition ∈ [Entry.external "t" slam, .mount "p" page] →
      definition.Furnished := fun id definition member => by
    simp only [List.mem_cons, reduceCtorEq, Entry.mount.injEq, List.not_mem_nil, or_false,
      false_or] at member
    exact member.2 ▸ furnished
  have reliable := (reliable_of_furnished Config.default classes).1 _
    (List.mem_append_right _ (List.mem_singleton_self _)) "t" component there
  exact ⟨leaf, page, built, made, furnished, component, there, eq_of_beq passes, reliable⟩

end Session

end ReactiveView
