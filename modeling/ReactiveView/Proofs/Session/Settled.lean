/-
**What becomes of the pictures while no code runs.**

Between two cycles all that the client has is true. It stays true when all marks are forgotten, when a
component comes or goes, when a variable is read from outside, and when values are made; identity values
come before the first component.

* `World.Settled` — the books are in order, and all pictures are true.
* `World.Settled.reset` — marks are forgotten.
* `World.Settled.mount`, `World.Settled.destroyAll` — components come and go.
* `World.Settled.get` — a variable is read.
* `World.Settled.identify` — an identity value is given.
-/

import ReactiveView.Proofs.Session.Renewal

namespace ReactiveView

namespace World

variable {world after : World} {store stored : Store} {ledger : Ledger} {read : ReadOut}
  {except : String → String → Prop} {id : String} {component : Instance}

/-- All marks are forgotten: nothing flows, and nodes hold what they held. -/
theorem resetChanges_frame (world : World) (store : Store) :
    Store.Flows .still store (world.resetChanges store) ∧ store.Extends (world.resetChanges store) := by
  have one (container : Container) (store : Store) :
      Store.Flows .still store (container.resetChanges store) ∧
        store.Extends (container.resetChanges store) :=
    ⟨Store.flows_modifyChangeset .., (container.retains_resetChanges store).toExtends⟩
  unfold resetChanges
  obtain ⟨flows, lasts⟩ := one world.shared store
  generalize world.shared.resetChanges store = stored at flows lasts ⊢
  induction world.mounted.values generalizing stored with
  | nil => exact ⟨flows, lasts⟩
  | cons place rest ih =>
    cases place with
    | none => exact ih stored flows lasts
    | some component =>
      obtain ⟨further, more⟩ := one component.container stored
      exact ih _ (flows.still_trans further) (lasts.trans more)

/-! ### Books -/

/-- What was read is forgotten, and marks may go. -/
theorem Books.restart (books : world.Books store ledger read)
    (keeps : KeepsAll store ledger stored ledger) : world.Books stored ledger .nothing where
  booked := keeps.booked
  filed := books.filed
  entered := books.entered
  apart := books.apart
  watched found has handle := keeps.kept (books.watched found has handle) id
  tracked _ := False.elim

/-- The changeset of a container is one of those that there are. -/
theorem Books.changeset_lt (books : world.Books store ledger read) {place : Nat} {account : Account}
    (found : ledger place = some account) : place < store.changesets.size := by
  have there := books.booked.there found
  rw [books.filed found] at there
  by_contra beyond
  rw [Store.isThere, Array.getElem?_eq_none (not_lt.mp beyond)] at there
  cases there

/-- The containers after a component has come. -/
theorem container?_mount (world : World) (id : String) (definition : ComponentDef) (store : Store)
    (site : Site) : (world.put (Instance.new id definition store).1).container? site =
      if site = some id then some ⟨OrderedMap.empty, store.changesets.size, OrderedMap.empty⟩
      else world.container? site := by
  cases site with
  | none => rfl
  | some other =>
    change ((world.mounted.insert id _).get? other).join.map Instance.container = _
    rw [get?_insert_eq]
    by_cases same : other = id
    · rw [if_pos same, if_pos (congrArg some same)]
      rfl
    · rw [if_neg same, if_neg fun equal => same (Option.some.inj equal)]
      rfl

/-- **A component comes**, with an empty container. -/
theorem Books.mount (books : world.Books store ledger .nothing) (id : String)
    (definition : ComponentDef) :
    ∃ ledger, (world.put (Instance.new id definition store).1).Books
      (Instance.new id definition store).2 ledger .nothing := by
  have free : ledger store.changesets.size = none := by
    cases found : ledger store.changesets.size with
    | none => rfl
    | some account => exact absurd (books.changeset_lt found) (lt_irrefl _)
  have keeps := books.booked.keeps_new free
  -- a container afterwards is the new one, or one that was there
  have cases {site : Site} {container : Container} (found : (world.put
      (Instance.new id definition store).1).container? site = some container) :
      (site = some id ∧ container = ⟨OrderedMap.empty, store.changesets.size, OrderedMap.empty⟩) ∨
        (world.container? site = some container ∧ container.changeset ≠ store.changesets.size) := by
    rw [container?_mount] at found
    split at found
    · next own =>
      cases found
      exact Or.inl ⟨own, rfl⟩
    · exact Or.inr ⟨found, (books.changeset_lt (books.entered found)).ne⟩
  refine ⟨_, keeps.booked, fun {place account} found => ?_, fun {site container} found => ?_,
    fun {site other container rest} found there same => ?_,
    fun {site container name value ref} found has handle => ?_, fun _ => False.elim⟩
  · rcases update_eq_some found with ⟨rfl, same⟩ | ⟨_, earlier⟩
    · cases same
      rfl
    · exact books.filed earlier
  · rcases cases found with ⟨_, rfl⟩ | ⟨old, ne⟩
    · exact Function.update_self ..
    · rw [Function.update_of_ne ne]
      exact books.entered old
  · rcases cases found with ⟨rfl, rfl⟩ | ⟨old, ne⟩ <;>
      rcases cases there with ⟨rfl, rfl⟩ | ⟨older, differs⟩
    · rfl
    · exact absurd same.symm differs
    · exact absurd same ne
    · exact books.apart old older same
  · rcases cases found with ⟨_, rfl⟩ | ⟨old, _⟩
    · cases has
    · exact keeps.kept (books.watched old has handle) not_false

/-- The containers after a component has gone. -/
theorem container?_remove (world : World) (id : String) (site : Site) :
    (world.remove id).container? site = if site = some id then none else world.container? site := by
  cases site with
  | none => rfl
  | some other =>
    change ((world.mounted.erase id).get? other).join.map Instance.container = _
    rw [get?_erase_eq]
    by_cases same : other = id
    · rw [if_pos same, if_pos (congrArg some same)]
      rfl
    · rw [if_neg same, if_neg fun equal => same (Option.some.inj equal)]
      rfl

/-- **A component goes**, and its container ends. -/
theorem Books.remove (books : world.Books store ledger .nothing) {place : Option Instance}
    (found : world.mounted.get? id = some place) :
    ∃ ledger, (world.remove id).Books (endOf place store).2 ledger .nothing := by
  have old {site : Site} {container : Container}
      (there : (world.remove id).container? site = some container) :
      site ≠ some id ∧ world.container? site = some container := by
    rw [container?_remove] at there
    split at there
    · cases there
    · next elsewhere => exact ⟨elsewhere, there⟩
  cases place with
  | none =>
    exact ⟨ledger, books.booked, books.filed, fun there => books.entered (old there).2,
      fun there other => books.apart (old there).2 (old other).2,
      fun there => books.watched (old there).2, fun _ => False.elim⟩
  | some component =>
    have own := container?_of_mounted found
    have keeps := books.booked.keeps_drop (books.entered own)
    -- no other container has the changeset that ends
    have apart {site : Site} {container : Container}
        (there : (world.remove id).container? site = some container) :
        container.changeset ≠ component.container.changeset :=
      fun same => (old there).1 (books.apart (old there).2 own same)
    refine ⟨_, keeps.booked, fun {place account} known => ?_, fun there => ?_,
      fun there other => books.apart (old there).2 (old other).2,
      fun there has handle => keeps.kept (books.watched (old there).2 has handle) (apart there),
      fun _ => False.elim⟩
    · rcases update_eq_some known with ⟨_, none⟩ | ⟨_, earlier⟩
      · cases none
      · exact books.filed earlier
    · rw [Function.update_of_ne (apart there)]
      exact books.entered (old there).2

/-! ### Pictures -/

/-- What is sent leaves the pictures alone, and so does what is to be sent no longer. -/
theorem Pictured.send (pictured : world.Pictured store except) (outgoing : List Envelope) :
    ({ world with outgoing } : World).Pictured store except where
  filed := pictured.filed
  steady := pictured.steady
  alone := pictured.alone
  finite := pictured.finite
  identities := pictured.identities
  pictured := pictured.pictured

/-- **A component comes**, of which the client has nothing yet. -/
theorem Pictured.mount (pictured : world.Pictured store except) {definition : ComponentDef}
    (steady : definition.Steady) (id : String) :
    (world.put (Instance.new id definition store).1).Pictured
      (Instance.new id definition store).2 except := by
  have lasts : store.Extends (Instance.new id definition store).2 := Store.extends_of_nodes rfl
  have cases {other : String} {component : Instance} (placed : (world.put
      (Instance.new id definition store).1).mounted.get? other = some (some component)) :
      component = (Instance.new id definition store).1 ∨
        world.mounted.get? other = some (some component) := by
    rw [put, get?_insert_eq] at placed
    split at placed
    · cases placed
      exact Or.inl rfl
    · exact Or.inr placed
  refine ⟨Filed.put pictured.filed _, fun placed => ?_, fun placed => ?_, fun {site name value} has => ?_,
    fun value member => (pictured.identities value member).extend lasts, fun placed shown => ?_⟩
  · rcases cases placed with rfl | old
    · exact steady
    · exact pictured.steady old
  · rcases cases placed with rfl | old
    · rfl
    · exact pictured.alone old
  · obtain ⟨container, found, has⟩ := value?_eq_some_iff.mp has
    rw [container?_mount] at found
    split at found
    · cases found
      cases has
    · exact (pictured.finite (value?_eq_some_iff.mpr ⟨container, found, has⟩)).extend lasts
  · rcases cases placed with rfl | old
    · cases shown
    · exact (pictured.pictured old shown).change rfl (Or.inl rfl) lasts
        (fun _ excepted => excepted) fun _ _ _ => rfl

/-- **A component goes.** -/
theorem Pictured.remove (pictured : world.Pictured store except) (id : String)
    (place : Option Instance) : (world.remove id).Pictured (endOf place store).2 except := by
  have lasts : store.Extends (endOf place store).2 := by
    cases place with
    | none => exact .refl store
    | some component => exact (component.container.retains_drop store).toExtends
  have old {other : String} {component : Instance}
      (placed : (world.remove id).mounted.get? other = some (some component)) :
      world.mounted.get? other = some (some component) := by
    change (world.mounted.erase id).get? other = _ at placed
    rw [get?_erase_eq] at placed
    split at placed
    · cases placed
    · exact placed
  refine ⟨fun placed => pictured.filed (old placed), fun placed => pictured.steady (old placed),
    fun placed => pictured.alone (old placed), fun {site name value} has => ?_,
    fun value member => (pictured.identities value member).extend lasts, fun placed shown =>
      (pictured.pictured (old placed) shown).change rfl (Or.inl rfl) lasts
        (fun _ excepted => excepted) fun _ _ _ => rfl⟩
  obtain ⟨container, found, has⟩ := value?_eq_some_iff.mp has
  rw [container?_remove] at found
  split at found
  · cases found
  · exact (pictured.finite (value?_eq_some_iff.mpr ⟨container, found, has⟩)).extend lasts

/-! ### What is settled -/

/-- **All that the client has is true**, and the books are in order. -/
def Settled (world : World) (store : Store) : Prop :=
  ∃ ledger, world.Books store ledger .nothing ∧ world.Pictured store fun _ _ => False

/-- A session on which nothing happened is settled. -/
theorem settled_new (config : Config) :
    (World.new config Store.empty).1.Settled (World.new config Store.empty).2 := by
  have blank : Booked Store.empty fun _ => none :=
    ⟨nofun, nofun, nofun, nofun, fun found => nomatch found⟩
  have keeps := @Booked.keeps_new _ _ 0 blank rfl
  -- only the container of the session is there
  have only {site : Site} {container : Container}
      (found : (World.new config Store.empty).1.container? site = some container) :
      site = none ∧ container = ⟨OrderedMap.empty, 0, OrderedMap.empty⟩ := by
    cases site with
    | none =>
      cases found
      exact ⟨rfl, rfl⟩
    | some id => cases found
  refine ⟨_, ⟨keeps.booked, fun {place account} found => ?_, fun found => ?_, fun found there _ => ?_,
    fun found has _ => ?_, fun _ => False.elim⟩, nofun, nofun, nofun, fun has => ?_, nofun, nofun⟩
  · rcases update_eq_some found with ⟨rfl, same⟩ | ⟨_, none⟩
    · cases same
      rfl
    · cases none
  · obtain ⟨_, rfl⟩ := only found
    rfl
  · rw [(only found).1, (only there).1]
  · obtain ⟨_, rfl⟩ := only found
    cases has
  · obtain ⟨container, found, has⟩ := value?_eq_some_iff.mp has
    obtain ⟨_, rfl⟩ := only found
    cases has

namespace Settled

/-- What is settled is fresh. -/
theorem fresh (settled : world.Settled store) : world.Fresh store .nothing := by
  obtain ⟨ledger, books, pictured⟩ := settled
  exact ⟨ledger, books, pictured.imp fun _ _ => False.elim⟩

/-- All marks are forgotten. -/
theorem reset (settled : world.Settled store) : world.Settled (world.resetChanges store) := by
  obtain ⟨ledger, books, pictured⟩ := settled
  obtain ⟨flows, lasts⟩ := resetChanges_frame world store
  exact ⟨ledger, books.restart (books.booked.keeps_flow flows), pictured.extend lasts⟩

theorem send (settled : world.Settled store) (outgoing : List Envelope) :
    ({ world with outgoing } : World).Settled store := by
  obtain ⟨ledger, books, pictured⟩ := settled
  exact ⟨ledger, books.of_places fun _ => rfl, pictured.send outgoing⟩

/-- Code outside of the session makes values and reads. -/
theorem onStore (settled : world.Settled store) (reads : store.Reads stored) :
    world.Settled stored := by
  obtain ⟨ledger, books, pictured⟩ := settled
  exact ⟨ledger, books.restart (books.booked.keeps_reads reads),
    pictured.extend reads.toGrows.extends⟩

/-- **A component comes.** -/
theorem mount (settled : world.Settled store) {definition : ComponentDef}
    (steady : definition.Steady) (id : String) :
    (world.put (Instance.new id definition store).1).Settled
      (Instance.new id definition store).2 := by
  obtain ⟨ledger, books, pictured⟩ := settled
  obtain ⟨ledger, books⟩ := books.mount id definition
  exact ⟨ledger, books, pictured.mount steady id⟩

/-- **Components go.** -/
theorem destroyAll (settled : world.Settled store) (ids : List String) :
    (world.destroyAll ids store).1.Settled (world.destroyAll ids store).2 := by
  fun_induction World.destroyAll world ids store with
  | case1 => exact settled
  | case2 world store id rest free ih => exact ih settled
  | case3 world store id rest place found ih =>
    obtain ⟨ledger, books, pictured⟩ := settled
    obtain ⟨ledger, books⟩ := books.remove found
    exact ih ⟨ledger, books, pictured.remove id place⟩

/-- **A variable is read**: it is given its default if it has no value yet. -/
theorem get (settled : world.Settled store)
    (there : world.mounted.get? component.id = some (some component)) (name : String) :
    let answer := (world.variablesOf component).read component.definition component.owner name store
    (world.update component answer.2.1).Settled answer.2.2 := by
  obtain ⟨ledger, books, pictured⟩ := settled
  have steady := pictured.steady there
  have same : (world.update component (world.variablesOf component)).Settled store :=
    ⟨ledger, books.enter there, pictured.enter there⟩
  cases found : component.definition.default? name with
  | none =>
    have undeclared : component.definition.declares name = false := by
      rw [component.definition.declares_eq, found]
      rfl
    rw [Variables.read_of_undeclared undeclared]
    exact same
  | some default =>
    have declared : component.definition.declares name = true := by
      rw [component.definition.declares_eq, found]
      rfl
    cases has : Variables.known component.definition (world.variablesOf component) name with
    | some value =>
      rw [Variables.read_of_known declared has]
      exact same
    | none =>
      have determined := steady.defaults found
      obtain ⟨_, value, _, stage, _, made, _⟩ := determined name component.owner store store
      rw [Variables.read_of_unknown found has made]
      obtain ⟨ledger, books⟩ := (books.enter there).default determined made
      exact ⟨ledger, books, (pictured.enter there).default determined has made⟩

/-- **An identity value is given** before any component is mounted. -/
theorem identify (settled : world.Settled store) (empty : world.ids = []) (name : String)
    {value : Value} (finite : value.Finite store) :
    ({ world with identity := world.identity.insert name value } : World).Settled store := by
  obtain ⟨ledger, books, pictured⟩ := settled
  have absent {id : String} {place : Option Instance} : world.mounted.get? id ≠ some place := by
    intro there
    have member := mem_ids_iff.mpr (contains_iff.mpr ⟨place, there⟩)
    rw [empty] at member
    cases member
  refine ⟨ledger, books.of_places fun _ => rfl, fun there => absurd there absent,
    fun there => absurd there absent, fun there => absurd there absent, pictured.finite,
    fun held member => ?_, fun there => absurd there absent⟩
  obtain ⟨asked, found⟩ := (OrderedMap.mem_values_iff _ held).mp member
  rcases get?_insert_eq_some found with ⟨_, rfl⟩ | ⟨_, old⟩
  · exact finite
  · exact pictured.identities held ((OrderedMap.mem_values_iff _ held).mpr ⟨asked, old⟩)

end Settled

end World

end ReactiveView
