/-
**What is destroyed with a component.**

With a component go exactly those that can be reached from it through the children that components
show, whether they are shown by several, in circles, or not mounted at all. Each is announced once, after
one that shows it. Their containers end, and all other components stay as they are.

* `World.Reaches` — from a component to what it shows, and on.
* `World.Led` — each component of a list is asked for, or comes after one that shows it.
* `World.Destroyed`, `exists_destroyed` — the components taken away, in their order, and what they give up.
* `Destroyed.mem_gone_iff` — they are the ones that are reached.
* `Session.Destruction`, `exists_destruction` — a request to remove a component, in any session.
-/

import Mathlib.Logic.Relation
import ReactiveView.Proofs.Container.Releasing
import ReactiveView.Proofs.Session.Dangling

namespace ReactiveView

namespace World

variable {world after : World} {ids gone : List String} {id other : String} {store stored : Store}
  {place : Option Instance} {container : Container}

/-- From a component to the children that it shows, to theirs, and so on. What is not mounted shows
nothing. -/
def Reaches (world : World) : String → String → Prop := Relation.ReflTransGen world.ShownBy

/-- **Each component of a list is asked for, or comes after one that shows it.** -/
def Led (world : World) (ids gone : List String) : Prop := ∀ before other later,
  gone = before ++ other :: later → other ∈ ids ∨ ∃ parent ∈ before, world.ShownBy parent other

/-- A container of one of some components. -/
def Furnishes (world : World) (ids : List String) (container : Container) : Prop :=
  ∃ id ∈ ids, ∃ component, world.mounted.get? id = some (some component) ∧
    component.container = container

/-- **The components that a destruction takes away**, in the order in which they are announced, and what
their containers give up. -/
structure Destroyed (ids : List String) (world : World) (store : Store) (gone : List String)
    (after : World) (stored : Store) : Prop extends Ended ids world gone after where
  nodup : gone.Nodup
  led : world.Led ids gone
  left : after.ids = world.ids.filter (· ∉ gone)
  releases : store.Releases (.any (world.Furnishes gone) Container.release) stored

/-! ### The order -/

theorem Led.skip (led : world.Led ids gone) : world.Led (id :: ids) gone :=
  fun before other later split => (led before other later split).imp_left (List.mem_cons_of_mem _)

theorem ShownBy.of_remove (shown : (world.remove id).ShownBy other child) :
    world.ShownBy other child :=
  shown.imp fun component there => by
    rw [get?_remove] at there
    split at there
    · cases there
    · exact there

/-- What a component shows is led by it. -/
theorem Led.next (found : world.mounted.get? id = some place)
    (led : (world.remove id).Led (shownIn place ++ ids) gone) : world.Led (id :: ids) (id :: gone) := by
  intro before other later split
  cases before with
  | nil => exact .inl (List.mem_cons.mpr (.inl (List.cons.inj split).1.symm))
  | cons first before =>
    obtain ⟨rfl, rest⟩ := List.cons.inj split
    rcases led before other later rest with asked | ⟨parent, earlier, shown⟩
    · rcases List.mem_append.mp asked with shown | asked
      · refine .inr ⟨id, List.mem_cons_self, ?_⟩
        cases place with
        | none => cases shown
        | some component => exact ⟨component, found, shown⟩
      · exact .inl (List.mem_cons_of_mem _ asked)
    · exact .inr ⟨parent, List.mem_cons_of_mem _ earlier, shown.of_remove⟩

/-- All that is led is reached from what is asked for. -/
theorem Led.exists_reaches (led : world.Led ids gone) (member : other ∈ gone) :
    ∃ id ∈ ids, world.Reaches id other := by
  obtain ⟨before, later, split⟩ := List.append_of_mem member
  -- by induction on the number of components that come before
  induction size : before.length using Nat.strongRecOn generalizing before later other with
  | ind length ih =>
    rcases led before other later split with asked | ⟨parent, earlier, shown⟩
    · exact ⟨other, asked, .refl⟩
    · obtain ⟨first, rest, place⟩ := List.append_of_mem earlier
      have shorter : first.length < length := by
        rw [← size, place]
        simp
      have split' : gone = first ++ parent :: (rest ++ other :: later) := by
        rw [split, place]
        simp
      obtain ⟨id, asked, reached⟩ := ih first.length shorter
        (split ▸ List.mem_append_left _ earlier) first (rest ++ other :: later) split' rfl
      exact ⟨id, asked, reached.tail shown⟩

/-! ### What is taken away -/

/-- What stands in a place gives up its container; what is being rendered keeps it. -/
theorem releases_endOf (found : world.mounted.get? id = some place) (store : Store) :
    store.Releases (.any (world.Furnishes [id]) Container.release) (endOf place store).2 := by
  cases place with
  | none =>
    have nothing : ∀ container, ¬ world.Furnishes [id] container := by
      simp [Furnishes, found]
    rw [Release.any_empty nothing]
    exact .refl store
  | some component =>
    have only : world.Furnishes [id] = (· = component.container) :=
      funext fun container => propext (by simp [Furnishes, found, eq_comm])
    rw [only, Release.any_eq]
    exact component.container.releases_drop store

theorem furnishes_cons (absent : id ∉ gone) : world.Furnishes (id :: gone) container ↔
    world.Furnishes [id] container ∨ (world.remove id).Furnishes gone container := by
  have same : ∀ other ∈ gone, (world.remove id).mounted.get? other = world.mounted.get? other :=
    fun other member => get?_remove.trans (if_neg (ne_of_mem_of_not_mem member absent))
  simp only [Furnishes, List.mem_cons, List.not_mem_nil, or_false, exists_eq_left, or_and_right,
    exists_or]
  exact or_congr_right (exists_congr fun other => and_congr_right fun member => by rw [same other member])

theorem exists_destroyed (world : World) (ids : List String) (store : Store) :
    ∃ gone, Destroyed ids world store gone (world.destroyAll ids store).1
      (world.destroyAll ids store).2 := by
  fun_induction World.destroyAll world ids store with
  | case1 world store =>
    have nothing : ∀ container, ¬ world.Furnishes [] container := by simp [Furnishes]
    have ended : Ended [] world [] world :=
      ⟨by simp, by simp, by simp, by simp, by simp, rfl, rfl, rfl⟩
    refine ⟨[], ended, List.nodup_nil, by simp [Led], by simp, ?_⟩
    rw [Release.any_empty nothing]
    exact .refl store
  | case2 world store id rest free ih =>
    obtain ⟨gone, destroyed⟩ := ih
    exact ⟨gone, { destroyed with toEnded := destroyed.toEnded.skip free, led := destroyed.led.skip }⟩
  | case3 world store id rest place found ih =>
    obtain ⟨gone, ended, nodup, led, left, releases⟩ := ih
    rw [endOf_fst] at ended led
    have absent := ended.not_mem
    refine ⟨id :: gone, ?_, List.nodup_cons.mpr ⟨absent, nodup⟩, led.next found, ?_, ?_⟩
    · simpa only [endOf_fst] using ended.next found
    · rw [left]
      have erased : (world.remove id).ids = world.ids.filter (· ≠ id) := OrderedMap.keys_erase ..
      rw [erased, List.filter_filter]
      refine List.filter_congr fun other _ => ?_
      simp [Bool.and_comm]
    · have both := (releases_endOf found store).trans releases
      rw [Release.any_or fun _ => furnishes_cons absent]
      exact both

/-- **What is destroyed with a component** are those that it reaches. -/
theorem Destroyed.mem_gone_iff (destroyed : Destroyed [id] world store gone after stored)
    (there : world.contains id = true) :
    other ∈ gone ↔ world.contains other = true ∧ world.Reaches id other := by
  have lost {other : String} (there : world.contains other = true)
      (absent : after.contains other = false) : other ∈ gone := by
    by_contra stays
    rw [contains_eq, destroyed.places, if_neg stays, ← contains_eq, there] at absent
    cases absent
  constructor
  · intro member
    obtain ⟨first, asked, reached⟩ := destroyed.led.exists_reaches member
    rw [List.mem_singleton.mp asked] at reached
    exact ⟨destroyed.were other member, reached⟩
  · rintro ⟨standing, reached⟩
    induction reached with
    | refl => exact lost there (destroyed.asked id (List.mem_singleton_self id))
    | tail _ shown ih =>
      have parent := ih shown.contains
      obtain ⟨component, found, child⟩ := shown
      exact lost standing (destroyed.children _ parent component found _ child)

end World

/-- A component of which the client shows some children, with one stored value or none. -/
def Instance.showing (id : String) (children : List String) (container : Container) : Instance :=
  ⟨id, .mk ⟨"Page", .empty, .empty, .empty, .empty, .empty⟩ [], container,
    ⟨none, true, [none], [children]⟩, standardVariant⟩

namespace Session

/-- **What a request to remove a component does**, in terms of the session that it is made to. -/
structure Destruction (session : Session) (id : String) (gone : List String) (outcome : Outcome Unit) :
    Prop where
  result : outcome.result = .ok ()
  /-- Each component that goes is announced. -/
  sent : outcome.sent = session.world.outgoing ++ gone.map (.news .destroyed)
  once : gone.Nodup
  /-- Those go that are reached through what mounted components show. -/
  reached : ∀ other, other ∈ gone ↔ session.contains other = true ∧ session.world.Reaches id other
  /-- Whoever goes with another component is announced after one that shows it. -/
  led : ∀ before other later, gone = before ++ other :: later → other ≠ id →
    ∃ parent ∈ before, session.world.ShownBy parent other
  /-- All others are left, in their order, with their variables, their variant and what the client has
  of them. -/
  componentIds : outcome.session.componentIds = session.componentIds.filter (· ∉ gone)
  places : ∀ other, outcome.session.world.mounted.get? other =
    if other ∈ gone then none else session.world.mounted.get? other
  contents : ∀ ref, outcome.session.store.content ref = session.store.content ref
  /-- Observers of who goes watch none of the values that it stored. -/
  unbound : ∀ other ∈ gone, ∀ component, session.world.instance? other = .ok component →
    ∀ value ∈ component.container.values.values, ∀ binding ∈ outcome.session.store.bindingsOf value,
      binding.observer ∉ component.container.observers.values
  /-- Nor does any of them mark anything from now on, whatever it may still watch. -/
  dead : ∀ other ∈ gone, ∀ component, session.world.instance? other = .ok component →
    ∀ observer : ObserverId,
      session.store.observers[observer]? = some (some component.container.changeset) →
      outcome.session.store.isAlive observer = false
  /-- No other binding is taken off, and no other mark is lost. -/
  bindings : ∀ binding ref, binding ∈ session.store.bindings ref →
    (∀ other ∈ gone, ∀ component, session.world.instance? other = .ok component →
      ¬ component.container.Binds binding ref) →
    binding ∈ outcome.session.store.bindings ref
  marks : ∀ changeset, (∀ other ∈ gone, ∀ component, session.world.instance? other = .ok component →
      changeset ≠ component.container.changeset) →
    outcome.session.store.marked changeset = session.store.marked changeset
  shared : outcome.session.world.shared = session.world.shared
  identity : outcome.session.world.identity = session.world.identity
  opened : outcome.session.closed = false

variable {session : Session} {id : String} {component : Instance}

/-- **With a component go exactly those that can be reached from it**, whatever components show of each
other, each once and after one that shows it; they let go of what they stored, and nothing else changes. -/
theorem exists_destruction (opened : session.closed = false)
    (mounted : session.world.instance? id = .ok component) :
    ∃ gone, session.Destruction id gone (session.unmount id) := by
  obtain ⟨gone, destroyed⟩ := World.exists_destroyed session.world [id] session.store
  have there : session.world.contains id = true :=
    World.contains_iff.mpr ⟨_, World.instance?_eq_ok_iff.mp mounted⟩
  have furnishes {other : String} {component : Instance} (member : other ∈ gone)
      (found : session.world.instance? other = .ok component) :
      session.world.Furnishes gone component.container :=
    ⟨other, member, component, World.instance?_eq_ok_iff.mp found, rfl⟩
  have unmounts : session.unmount id = ⟨.ok (), (session.world.destroyAll [id] session.store).1.outgoing,
      { session with
        world := { (session.world.destroyAll [id] session.store).1 with outgoing := [] }
        store := (session.world.destroyAll [id] session.store).2 }⟩ := by
    simp only [unmount, opened, mounted, Bool.false_eq_true, if_false]
    rfl
  rw [unmounts]
  generalize session.world.destroyAll [id] session.store = answer at destroyed
  obtain ⟨after, stored⟩ := answer
  have releases := destroyed.releases
  refine ⟨gone, rfl, destroyed.outgoing, destroyed.nodup, fun other => destroyed.mem_gone_iff there,
    fun before other later split ne => ?_, destroyed.left, destroyed.places, releases.content_eq,
    fun other member component found value valued binding bound issued => ?_,
    fun other member component found observer marks => ?_, fun binding ref bound spared => ?_,
    fun changeset spared => ?_, destroyed.shared, destroyed.identity, opened⟩
  · exact (destroyed.led before other later split).resolve_left fun asked =>
      ne (List.mem_singleton.mp asked)
  · cases handle : value.ref? with
    | none => simp [Store.bindingsOf, handle] at bound
    | some ref =>
      simp only [Store.bindingsOf, handle] at bound
      exact (releases.bindings.mp bound).2
        ⟨_, furnishes member found, issued, value, valued, handle⟩
  · exact releases.dead marks ⟨_, furnishes member found, rfl⟩
  · refine releases.bindings.mpr ⟨bound, ?_⟩
    rintro ⟨_, ⟨other, member, component, found, rfl⟩, binds⟩
    exact spared other member component (World.instance?_eq_ok_iff.mpr found) binds
  · refine releases.marks ?_
    rintro ⟨_, ⟨other, member, component, found, rfl⟩, same⟩
    exact spared other member component (World.instance?_eq_ok_iff.mpr found) same

/-- Two components that show each other and a third one, which is also shown elsewhere; a child that is
not mounted; and one list that the first component and the last one store. -/
def ring : Session :=
  let watching (changeset : ChangesetId) (observer : ObserverId) : Container :=
    ⟨.ofList [("items", .list 0)], changeset, .ofList [("items", observer)]⟩
  let plain (changeset : ChangesetId) : Container := ⟨.empty, changeset, .empty⟩
  let mounted := [.showing "a" ["b", "missing"] (watching 1 0), .showing "b" ["c", "a"] (plain 2),
    .showing "c" [] (plain 3), Instance.showing "d" ["c"] (watching 4 1)]
  { world := ⟨.ofList (mounted.map fun component => (component.id, some component)), plain 0, .empty,
      Config.default, []⟩
    store := ⟨#[⟨.list [], [⟨0, "items"⟩, ⟨1, "items"⟩]⟩], #[some 1, some 4],
      #[some .empty, some .empty, some .empty, some .empty, some .empty], .empty⟩
    closed := false }

/-- In a ring, all of it goes, and what is shown from elsewhere goes with it. -/
theorem exists_destruction_ring : ∃ component, ring.closed = false ∧
    ring.world.instance? "a" = .ok component ∧
    ∃ gone, ring.Destruction "a" gone (ring.unmount "a") :=
  ⟨_, rfl, rfl, exists_destruction rfl rfl⟩

example : (ring.unmount "a").sent = ["a", "b", "c"].map (.news .destroyed) := by decide +kernel

end Session

end ReactiveView
