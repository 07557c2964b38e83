/-
**The places of a session, and what is sent when they change.**

Every component stands in the place of its id. Components come to a place and leave it by a few
functions only, and each of these tells the client whose place it is. What a template asks for, other
than a child, leaves all places alone.

* `World.Filed` — every component stands in the place of its own id.
* `World.Ended`, `exists_ended` — what a destruction takes away, whose it is, and what is sent.
* `World.childFor`, `renderChild_eq` — the child of a call, before it is rendered.
* `rests_of_quiet` — names and helpers leave the places alone.
-/

import ReactiveView.Proofs.Render.Calls
import ReactiveView.Session.Rendering

namespace ReactiveView

/-- What is sent when a component has come or gone. -/
abbrev Envelope.news (status : Status) (id : String) : Envelope := ⟨id, .status status⟩

namespace World

variable {world after : World} {id other : String} {component : Instance} {store : Store}

/-- Every component that stands in a place has the id of the place. -/
def Filed (world : World) : Prop := ∀ {id component},
  world.mounted.get? id = some (some component) → component.id = id

theorem contains_eq (world : World) (id : String) :
    world.contains id = (world.mounted.get? id).isSome := rfl

theorem contains_iff : world.contains id = true ↔ ∃ place, world.mounted.get? id = some place :=
  Option.isSome_iff_exists

theorem instance?_eq_ok_iff : world.instance? id = .ok component ↔
    world.mounted.get? id = some (some component) := by
  unfold instance?
  rcases world.mounted.get? id with _ | _ | found
  · simp
  · simp
  · simp

/-! ### Components come and go -/

/-- What is in a place after something was put there. -/
theorem get?_insert_eq {entries : OrderedMap String (Option Instance)} {place : Option Instance} :
    (entries.insert id place).get? other = if other = id then some place else entries.get? other := by
  split
  · next same => rw [same, OrderedMap.get?_insert_self]
  · next ne => exact OrderedMap.get?_insert_of_ne _ ne _

theorem get?_erase_eq {entries : OrderedMap String (Option Instance)} :
    (entries.erase id).get? other = if other = id then none else entries.get? other := by
  split
  · next same => rw [same, OrderedMap.get?_erase_self]
  · next ne => exact OrderedMap.get?_erase_of_ne _ ne

theorem mem_ids_iff : id ∈ world.ids ↔ world.contains id = true := OrderedMap.mem_keys_iff _ _

/-- A component that is put back has its place where it was; a new one comes last. -/
theorem ids_put (world : World) (component : Instance) : (world.put component).ids =
    if world.contains component.id = true then world.ids else world.ids ++ [component.id] := by
  simp only [← mem_ids_iff]
  exact OrderedMap.keys_insert world.mounted component.id (some component)

theorem ids_takeOut (there : world.contains id = true) : (world.takeOut id).ids = world.ids := by
  rw [← mem_ids_iff] at there
  exact (OrderedMap.keys_insert world.mounted id none).trans (if_pos there)

theorem Filed.put (filed : world.Filed) (component : Instance) : (world.put component).Filed := by
  intro id found there
  rw [World.put, get?_insert_eq] at there
  split at there
  · next same =>
    cases there
    exact same.symm
  · exact filed there

theorem Filed.takeOut (filed : world.Filed) (id : String) : (world.takeOut id).Filed := by
  intro other found there
  rw [World.takeOut, get?_insert_eq] at there
  split at there
  · cases there
  · exact filed there

/-- Components stand where they stood, and what is sent is the same: only the variables of the
session may have changed. -/
structure Rests (before after : World) : Prop where
  mounted : after.mounted = before.mounted
  outgoing : after.outgoing = before.outgoing
  identity : after.identity = before.identity
  config : after.config = before.config

theorem Rests.refl (world : World) : world.Rests world := ⟨rfl, rfl, rfl, rfl⟩

theorem Rests.filed (rests : world.Rests after) (filed : world.Filed) : after.Filed := by
  intro id component there
  rw [rests.mounted] at there
  exact filed there

/-! ### Destruction -/

/-- **What a destruction takes away**: the components `gone`, each of them announced once; all that
were asked for, and all that these have shown. -/
structure Ended (ids : List String) (before : World) (gone : List String) (after : World) : Prop
    where
  outgoing : after.outgoing = before.outgoing ++ gone.map (.news .destroyed)
  places : ∀ id, after.mounted.get? id = if id ∈ gone then none else before.mounted.get? id
  were : ∀ id ∈ gone, before.contains id = true
  asked : ∀ id ∈ ids, after.contains id = false
  children : ∀ id ∈ gone, ∀ component, before.mounted.get? id = some (some component) →
    ∀ child ∈ component.view.liveChildren, after.contains child = false
  shared : after.shared = before.shared
  identity : after.identity = before.identity
  config : after.config = before.config

theorem get?_remove : (world.remove id).mounted.get? other =
    if other = id then none else world.mounted.get? other := get?_erase_eq

/-- What was removed first is not taken away again. -/
theorem Ended.not_mem {rest gone : List String} (ended : Ended rest (world.remove id) gone after) :
    id ∉ gone := by
  intro member
  have there := ended.were id member
  rw [contains_eq, get?_remove, if_pos rfl] at there
  cases there

/-- What is not mounted need not be taken away. -/
theorem Ended.skip {rest gone : List String} (ended : Ended rest world gone after)
    (free : world.mounted.get? id = none) : Ended (id :: rest) world gone after :=
  { ended with
    asked := fun other member => by
      rcases List.mem_cons.mp member with rfl | member
      · rw [contains_eq, ended.places, free]
        split <;> rfl
      · exact ended.asked other member }

/-- A component is taken away before all that it has shown. -/
theorem Ended.next {rest gone : List String} {place : Option Instance}
    (found : world.mounted.get? id = some place)
    (ended : Ended (shownIn place ++ rest) (world.remove id) gone after) :
    Ended (id :: rest) world (id :: gone) after := by
  have absent := ended.not_mem
  have places (other : String) : after.mounted.get? other =
      if other ∈ id :: gone then none else world.mounted.get? other := by
    rw [ended.places, get?_remove]
    by_cases same : other = id
    · simp [same]
    · simp [same]
  refine ⟨?_, places, fun other member => ?_, fun other member => ?_,
    fun other member component there child shown => ?_, ended.shared, ended.identity, ended.config⟩
  · rw [ended.outgoing]
    simp [World.remove, World.emit]
  · rcases List.mem_cons.mp member with rfl | member
    · exact contains_iff.mpr ⟨place, found⟩
    · obtain ⟨place, there⟩ := contains_iff.mp (ended.were other member)
      rw [get?_remove] at there
      split at there
      · cases there
      · exact contains_iff.mpr ⟨place, there⟩
  · rcases List.mem_cons.mp member with rfl | member
    · rw [contains_eq, places]
      simp
    · exact ended.asked other (List.mem_append_right _ member)
  · rcases List.mem_cons.mp member with rfl | member
    · rw [found] at there
      cases there
      exact ended.asked child (List.mem_append_left _ shown)
    · have ne : other ≠ id := fun same => absent (same ▸ member)
      refine ended.children other member component ?_ child shown
      rw [get?_remove, if_neg ne]
      exact there

theorem exists_ended (world : World) (ids : List String) (store : Store) :
    ∃ gone, Ended ids world gone (world.destroyAll ids store).1 := by
  fun_induction World.destroyAll world ids store with
  | case1 world store =>
    exact ⟨[], by simp, by simp, by simp, by simp, by simp, rfl, rfl, rfl⟩
  | case2 world store id rest free ih =>
    obtain ⟨gone, ended⟩ := ih
    exact ⟨gone, ended.skip free⟩
  | case3 world store id rest place found ih =>
    obtain ⟨gone, ended⟩ := ih
    exact ⟨id :: gone, .next found (endOf_fst place store ▸ ended)⟩

theorem Ended.filed {ids gone : List String} (ended : Ended ids world gone after)
    (filed : world.Filed) : after.Filed := by
  intro id component there
  rw [ended.places] at there
  split at there
  · cases there
  · exact filed there

/-! ### Children -/

/-- **The child of a call**: of the class that the parent declares for it, and mounted now if it is
not mounted yet. -/
def childFor (parent : ComponentDef) (className id : String) (world : World) (store : Store) :
    Except Error Instance × World × Store :=
  match parent.child className with
  | .error error => (.error error, world, store)
  | .ok definition =>
    let (_, world, store) :=
      if world.contains id then (.ok (), world, store) else world.mount id definition store
    match world.instance? id with
    | .error error => (.error error, world, store)
    | .ok component =>
      if component.definition.className ≠ definition.className then
        (.error (.duplicateComponent id), world, store)
      else (.ok component, world, store)

/-- A call for a child finds the child, and then renders it in its place. -/
theorem renderChild_eq (render : Renderer) (parent : ComponentDef) (className id : String)
    (world : World) (store : Store) :
    World.renderChild render parent className id world store =
      match childFor parent className id world store with
      | (.error error, world, store) => (.error error, world, store)
      | (.ok component, world, store) =>
        let (result, view, world, store) := world.renderInPlace render component .all store
        (result.map fun rendered => ⟨view.html, id :: rendered.renderedChildren⟩, world, store) := by
  unfold World.renderChild childFor
  cases parent.child className with
  | error error => rfl
  | ok definition =>
    dsimp only
    generalize (if world.contains id then (.ok (), world, store) else world.mount id definition store :
      Except Error Unit × World × Store) = prepared
    obtain ⟨_, world, store⟩ := prepared
    dsimp only
    cases world.instance? id with
    | error error => rfl
    | ok component =>
      dsimp only
      split <;> rfl

/-- Whether a child is mounted by a call for it. -/
def Mounts (parent : ComponentDef) (className id : String) (world : World) : Prop :=
  (∃ definition, parent.child className = .ok definition) ∧ world.contains id = false

/-- What becomes of the places while the child of a call is found. -/
inductive Found (parent : ComponentDef) (className id : String) (world : World) : World → Prop
  | there (known : ¬ Mounts parent className id world) : Found parent className id world world
  | mounted {component : Instance} (new : Mounts parent className id world)
    (named : component.id = id) (declared : parent.child className = .ok component.definition)
    (view : component.view = ClientView.empty) :
    Found parent className id world ((world.put component).emit id (.status .subscribed))

theorem found_childFor (parent : ComponentDef) (className id : String) (world : World)
    (store : Store) :
    Found parent className id world (childFor parent className id world store).2.1 ∧
      ∀ component, (childFor parent className id world store).1 = .ok component →
        (childFor parent className id world store).2.1.mounted.get? id = some (some component) := by
  unfold childFor
  cases known : parent.child className with
  | error error =>
    refine ⟨.there ?_, fun component ok => by cases ok⟩
    rintro ⟨⟨definition, same⟩, _⟩
    cases known.symm.trans same
  | ok definition =>
    dsimp only
    have found : Found parent className id world (if world.contains id then (.ok (), world, store)
        else world.mount id definition store : Except Error Unit × World × Store).2.1 := by
      split
      · next there =>
        exact .there fun mounts => absurd (mounts.2.symm.trans there) (by decide)
      · next free =>
        have new : Mounts parent className id world := ⟨⟨definition, known⟩, by simpa using free⟩
        simp only [World.mount, free]
        exact .mounted new rfl known rfl
    generalize (if world.contains id then (.ok (), world, store) else world.mount id definition store :
      Except Error Unit × World × Store) = prepared at found ⊢
    obtain ⟨_, reached, stored⟩ := prepared
    dsimp only at found ⊢
    cases standing : reached.instance? id with
    | error error => exact ⟨found, fun component ok => by cases ok⟩
    | ok component =>
      dsimp only
      split
      · exact ⟨found, fun component ok => by cases ok⟩
      · refine ⟨found, fun other ok => ?_⟩
        cases ok
        exact instance?_eq_ok_iff.mp standing

end World

/-! ### Names and helpers -/

namespace RenderState

/-- A helper leaves the places alone. -/
theorem rests_callHelper (definition : ComponentDef) (owner : Owner) (name : String)
    (arguments : List Value) (state : RenderState) (store : Store) :
    state.world.Rests (callHelper definition owner name arguments state store).2.1.world := by
  unfold callHelper
  split <;> exact ⟨rfl, rfl, rfl, rfl⟩

/-- So does the lookup of a name. -/
theorem rests_lookup (definition : ComponentDef) (owner : Owner) (name : String)
    (state : RenderState) (store : Store) :
    state.world.Rests (lookup definition owner name state store).2.1.world := by
  unfold lookup
  split
  · exact ⟨rfl, rfl, rfl, rfl⟩
  · split
    · exact .refl _
    · exact rests_callHelper ..

end RenderState

/-- **What a template asks for, other than a child, leaves the places alone.** -/
theorem rests_of_quiet {renderChild : String → String → World → Store → Answer World ChildRender}
    {component : Instance} {before after : RenderState × Store}
    (move : (World.scopeOf renderChild component).Quiet before after) :
    before.1.world.Rests after.1.world := by
  cases move with
  | lookup name state store => exact RenderState.rests_lookup ..
  | call name arguments state store => exact RenderState.rests_callHelper ..
  | grow state grows => exact .refl _

end ReactiveView
