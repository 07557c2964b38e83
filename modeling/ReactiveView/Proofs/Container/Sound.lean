/-
**Whose observers are alive, and what they watch.**

A container issues one observer for each name. Each binding that is alive has such an observer,
under the name it was issued for, and what an observer watches is known. This is kept by all that
is done to a store and to the observers and changesets in it.

* `Booked`, `Sound` — the invariant: what was issued is in order, and what it watches is known.
* `Sound.flow` — bindings flow from node to node.
* `Sound.issue`, `Sound.attach`, `Sound.silence` — the life of an observer.
* `Sound.new`, `Sound.drop` — the life of a container.
-/

import Mathlib.Logic.Function.Basic
import ReactiveView.Proofs.Tracked.Flow

namespace ReactiveView

/-- What a container has issued: its changeset, and the observer of each name. -/
structure Account where
  changeset : ChangesetId
  observers : OrderedMap String ObserverId

/-- What the container at each place has issued. -/
abbrev Ledger := Nat → Option Account

/-- Which nodes are watched under which name of which container. -/
abbrev Watched := Nat → String → Ref → Prop

/-- **A store in which what containers have issued is in order**: their observers and changesets. -/
structure Booked (store : Store) (ledger : Ledger) : Prop where
  /-- An issued observer marks the changeset of its container. -/
  issued : ∀ {place account}, ledger place = some account → ∀ {name observer},
    account.observers.get? name = some observer →
    store.observers[observer]? = some (some account.changeset)
  there : ∀ {place account}, ledger place = some account →
    store.isThere account.changeset = true
  apart : ∀ {place other account rest}, ledger place = some account → ledger other = some rest →
    account.changeset = rest.changeset → place = other
  distinct : ∀ {place account}, ledger place = some account → ∀ {name other observer},
    account.observers.get? name = some observer →
    account.observers.get? other = some observer → name = other
  pointed : ∀ {observer : ObserverId} {changeset : ChangesetId},
    store.observers[observer]? = some (some changeset) → changeset < store.changesets.size

/-- **A store and what its containers have issued**, with the nodes that each name watches. -/
structure Sound (store : Store) (ledger : Ledger) (watched : Watched) : Prop
    extends Booked store ledger where
  known : ∀ {binding : Binding} {ref : Ref}, binding ∈ store.bindings ref →
    binding.observer < store.observers.size
  /-- What is alive was issued for the name of the binding. -/
  owned : ∀ {binding : Binding} {ref : Ref}, binding ∈ store.bindings ref →
    store.isAlive binding.observer = true → ∃ place account, ledger place = some account ∧
      account.observers.get? binding.name = some binding.observer
  exact : ∀ {place account}, ledger place = some account → ∀ {name ref},
    watched place name ref ↔ ∃ observer, account.observers.get? name = some observer ∧
      ⟨observer, name⟩ ∈ store.bindings ref
  absent : ∀ {place}, ledger place = none → ∀ {name ref}, ¬ watched place name ref

/-! ### Accounts -/

section

variable {ledger : Ledger} {place : Nat} {name : String} {observer : ObserverId}

/-- The account of a container, updated. -/
theorem update_eq_some {found : Account} {next : Option Account} {asked : Nat}
    (updated : Function.update ledger place next asked = some found) :
    (asked = place ∧ next = some found) ∨ (asked ≠ place ∧ ledger asked = some found) := by
  by_cases same : asked = place
  · subst same
    rw [Function.update_self] at updated
    exact Or.inl ⟨rfl, updated⟩
  · rw [Function.update_of_ne same] at updated
    exact Or.inr ⟨same, updated⟩

theorem update_eq_none {next : Option Account} {asked : Nat}
    (updated : Function.update ledger place next asked = none) :
    (asked = place ∧ next = none) ∨ (asked ≠ place ∧ ledger asked = none) := by
  by_cases same : asked = place
  · subst same
    rw [Function.update_self] at updated
    exact Or.inl ⟨rfl, updated⟩
  · rw [Function.update_of_ne same] at updated
    exact Or.inr ⟨same, updated⟩

theorem get?_insert_eq_some {α : Type} {entries : OrderedMap String α} {new held : α}
    {asked : String} (found : (entries.insert name new).get? asked = some held) :
    (asked = name ∧ held = new) ∨ (asked ≠ name ∧ entries.get? asked = some held) := by
  by_cases same : asked = name
  · subst same
    rw [OrderedMap.get?_insert_self] at found
    exact Or.inl ⟨rfl, (Option.some.inj found).symm⟩
  · rw [OrderedMap.get?_insert_of_ne _ same] at found
    exact Or.inr ⟨same, found⟩

end

/-! ### Retired observers -/

/-- Retiring some observers leaves everything else alone. -/
theorem retire_frame (store : Store) (gone : List ObserverId) :
    (gone.foldl Store.retire store).nodes = store.nodes ∧
      (gone.foldl Store.retire store).changesets = store.changesets ∧
      (gone.foldl Store.retire store).observers.size = store.observers.size ∧
      ∀ {observer changeset},
        (gone.foldl Store.retire store).observers[observer]? = some (some changeset) ↔
          store.observers[observer]? = some (some changeset) ∧ observer ∉ gone := by
  induction gone generalizing store with
  | nil => simp
  | cons first rest ih =>
    obtain ⟨nodes, changesets, size, observers⟩ := ih (store.retire first)
    refine ⟨nodes, changesets, size.trans (by simp [Store.retire]), fun {observer changeset} => ?_⟩
    rw [List.foldl_cons, observers, List.mem_cons, not_or]
    by_cases same : first = observer
    · subst same
      simp [Store.retire, Array.getElem?_modify]
    · simp [Store.retire, Array.getElem?_modify, same, Ne.symm same]

theorem isThere_retire (store : Store) (gone : List ObserverId) (changeset : ChangesetId) :
    (gone.foldl Store.retire store).isThere changeset = store.isThere changeset := by
  obtain ⟨_, changesets, _⟩ := retire_frame store gone
  simp only [Store.isThere, changesets]

/-- A retired observer is not alive. -/
theorem isAlive_retired (store : Store) {gone : List ObserverId} {observer : ObserverId}
    (member : observer ∈ gone) : (gone.foldl Store.retire store).isAlive observer = false := by
  rw [Bool.eq_false_iff, ne_eq, Store.isAlive_iff]
  rintro ⟨changeset, marks, _⟩
  exact ((retire_frame store gone).2.2.2.mp marks).2 member

theorem getElem?_newObserver_of_lt {store : Store} {observer : ObserverId}
    (inside : observer < store.observers.size) (changeset : ChangesetId) :
    (store.newObserver changeset).2.observers[observer]? = store.observers[observer]? := by
  simp [Store.newObserver, Array.getElem?_push, inside.ne]

theorem getElem?_newObserver_size (store : Store) (changeset : ChangesetId) :
    (store.newObserver changeset).2.observers[store.observers.size]? = some (some changeset) := by
  simp [Store.newObserver]

theorem isThere_newChangeset_of_lt {store : Store} {changeset : ChangesetId}
    (inside : changeset < store.changesets.size) :
    store.newChangeset.2.isThere changeset = store.isThere changeset := by
  simp [Store.isThere, Store.newChangeset, Array.getElem?_push, inside.ne]

theorem isThere_dropChangeset_of_ne {store : Store} {changeset gone : ChangesetId}
    (ne : changeset ≠ gone) :
    (store.dropChangeset gone).isThere changeset = store.isThere changeset := by
  simp [Store.isThere, Store.dropChangeset, Array.getElem?_modify, Ne.symm ne]

theorem isThere_dropChangeset_self (store : Store) (gone : ChangesetId) :
    (store.dropChangeset gone).isThere gone = false := by
  simp only [Store.isThere, Store.dropChangeset, Array.getElem?_modify, if_true]
  cases store.changesets[gone]? <;> rfl

/-! ### What is issued -/

namespace Booked

variable {store : Store} {ledger : Ledger} {place : Nat} {account : Account} {name : String}
  {observer : ObserverId} (booked : Booked store ledger)
include booked

/-- An issued observer is alive. -/
theorem alive (found : ledger place = some account)
    (known : account.observers.get? name = some observer) : store.isAlive observer = true :=
  Store.isAlive_iff.mpr ⟨_, booked.issued found known, booked.there found⟩

theorem lt_of_there (found : ledger place = some account) :
    account.changeset < store.changesets.size := by
  have there := booked.there found
  by_contra outside
  simp [Store.isThere, Array.getElem?_eq_none (not_lt.mp outside)] at there

theorem lt_of_issued (found : ledger place = some account)
    (known : account.observers.get? name = some observer) : observer < store.observers.size :=
  (Array.getElem?_eq_some_iff.mp (booked.issued found known)).1

/-- The container that an issued observer marks is the one that has issued it. -/
theorem place_eq {other : Nat} {rest : Account} (found : ledger place = some account)
    (issuer : ledger other = some rest) (known : rest.observers.get? name = some observer)
    (marks : store.observers[observer]? = some (some account.changeset)) : other = place := by
  have same : rest.changeset = account.changeset :=
    Option.some.inj (Option.some.inj ((booked.issued issuer known).symm.trans marks))
  exact booked.apart issuer found same

/-- One observer was issued once. -/
theorem unique (found : ledger place = some account)
    (known : account.observers.get? name = some observer) {another : Nat} {rest : Account}
    (there : ledger another = some rest) {asked : String}
    (issued : rest.observers.get? asked = some observer) : place = another ∧ name = asked := by
  obtain rfl := booked.place_eq there found known (booked.issued there issued)
  obtain rfl : account = rest := Option.some.inj (found.symm.trans there)
  exact ⟨rfl, booked.distinct found known issued⟩

/-- The observers that are left without the one of a name. -/
theorem get?_erase_eq_some (found : ledger place = some account)
    (known : account.observers.get? name = some observer) {asked : String} {other : ObserverId} :
    (account.observers.erase name).get? asked = some other ↔
      account.observers.get? asked = some other ∧ other ∉ [observer] := by
  rw [List.mem_singleton]
  by_cases same : asked = name
  · subst same
    rw [OrderedMap.get?_erase_self, known]
    refine ⟨fun none => ?_, fun held => absurd (Option.some.inj held.1).symm held.2⟩
    cases none
  · rw [OrderedMap.get?_erase_of_ne _ same]
    refine (and_iff_left_of_imp fun held another => same ?_).symm
    exact booked.distinct found (another ▸ held) known

/-- Containers stay apart when one of them keeps its changeset. -/
theorem apart_update (found : ledger place = some account) {next : Account}
    (changeset : next.changeset = account.changeset) {one another : Nat} {first second : Account}
    (here : Function.update ledger place (some next) one = some first)
    (there : Function.update ledger place (some next) another = some second)
    (same : first.changeset = second.changeset) : one = another := by
  rcases update_eq_some here with ⟨rfl, new⟩ | ⟨_, old⟩ <;>
    rcases update_eq_some there with ⟨rfl, newer⟩ | ⟨_, older⟩
  · rfl
  · cases new
    exact booked.apart found older (changeset.symm.trans same)
  · cases newer
    exact booked.apart old found (same.trans changeset)
  · exact booked.apart old older same

/-- Nothing changes where observers and changesets are the same. -/
theorem of_same {after : Store} (observers : after.observers = store.observers)
    (there : ∀ changeset, after.isThere changeset = store.isThere changeset)
    (size : after.changesets.size = store.changesets.size) : Booked after ledger where
  issued {_ _} found {_ _} known := by
    rw [observers]
    exact booked.issued found known
  there found := (there _).trans (booked.there found)
  apart := booked.apart
  distinct := booked.distinct
  pointed marks := by
    rw [observers] at marks
    rw [size]
    exact booked.pointed marks

theorem issue (found : ledger place = some account) (name : String) :
    Booked (store.newObserver account.changeset).2 (Function.update ledger place
      (some ⟨account.changeset, account.observers.insert name store.observers.size⟩)) where
  issued {one rest} there {asked observer} known := by
    rcases update_eq_some there with ⟨rfl, same⟩ | ⟨_, earlier⟩
    · cases same
      rcases get?_insert_eq_some known with ⟨_, rfl⟩ | ⟨_, before⟩
      · exact getElem?_newObserver_size ..
      · rw [getElem?_newObserver_of_lt (booked.lt_of_issued found before)]
        exact booked.issued found before
    · rw [getElem?_newObserver_of_lt (booked.lt_of_issued earlier known)]
      exact booked.issued earlier known
  there {one rest} there := by
    rcases update_eq_some there with ⟨rfl, same⟩ | ⟨_, earlier⟩
    · cases same
      exact (booked.there found : store.isThere account.changeset = true)
    · exact booked.there earlier
  apart here there := booked.apart_update found (by rfl) here there
  distinct {one rest} there {asked other observer} first second := by
    rcases update_eq_some there with ⟨rfl, same⟩ | ⟨_, earlier⟩
    · cases same
      rcases get?_insert_eq_some first with ⟨rfl, new⟩ | ⟨_, before⟩ <;>
        rcases get?_insert_eq_some second with ⟨rfl, newer⟩ | ⟨_, later⟩
      · rfl
      · exact absurd (booked.lt_of_issued found later) (new ▸ lt_irrefl _)
      · exact absurd (booked.lt_of_issued found before) (newer ▸ lt_irrefl _)
      · exact booked.distinct found before later
    · exact booked.distinct earlier first second
  pointed {observer changeset} marks := by
    by_cases inside : observer < store.observers.size
    · rw [getElem?_newObserver_of_lt inside] at marks
      exact booked.pointed marks
    · obtain rfl : observer = store.observers.size := by
        have bound := (Array.getElem?_eq_some_iff.mp marks).1
        simp only [Store.newObserver, Array.size_push] at bound
        exact Nat.eq_of_lt_succ_of_not_lt bound inside
      rw [getElem?_newObserver_size] at marks
      cases marks
      exact booked.lt_of_there found

theorem silence (found : ledger place = some account) {gone : List ObserverId} {next : Account}
    (changeset : next.changeset = account.changeset)
    (left : ∀ {asked observer}, next.observers.get? asked = some observer ↔
      account.observers.get? asked = some observer ∧ observer ∉ gone)
    (own : ∀ observer ∈ gone, ∃ asked, account.observers.get? asked = some observer) :
    Booked (gone.foldl Store.retire store) (Function.update ledger place (some next)) where
  issued {at' rest} here {asked observer} issued := by
    obtain ⟨_, _, _, observers⟩ := retire_frame store gone
    rw [observers]
    rcases update_eq_some here with ⟨rfl, same⟩ | ⟨ne, earlier⟩
    · cases same
      rw [changeset]
      exact ⟨booked.issued found (left.mp issued).1, (left.mp issued).2⟩
    · refine ⟨booked.issued earlier issued, fun member => ?_⟩
      obtain ⟨_, mine⟩ := own observer member
      exact ne (booked.unique found mine earlier issued).1.symm
  there {at' rest} here := by
    rw [isThere_retire]
    rcases update_eq_some here with ⟨rfl, same⟩ | ⟨ne, earlier⟩
    · cases same
      rw [changeset]
      exact booked.there found
    · exact booked.there earlier
  apart here there := booked.apart_update found changeset here there
  distinct {at' rest} here {asked other observer} first second := by
    rcases update_eq_some here with ⟨rfl, same⟩ | ⟨ne, earlier⟩
    · cases same
      exact booked.distinct found (left.mp first).1 (left.mp second).1
    · exact booked.distinct earlier first second
  pointed {observer changeset} marks := by
    obtain ⟨_, changesets, _, observers⟩ := retire_frame store gone
    rw [changesets]
    exact booked.pointed (observers.mp marks).1

theorem drop (found : ledger place = some account) :
    Booked (store.dropChangeset account.changeset) (Function.update ledger place none) := by
  have others {at' : Nat} {rest : Account}
      (here : Function.update ledger place none at' = some rest) :
      at' ≠ place ∧ ledger at' = some rest := by
    rcases update_eq_some here with ⟨_, same⟩ | earlier
    · cases same
    · exact earlier
  exact {
    issued := fun {_ _} here {_ _} issued => booked.issued (others here).2 issued
    there := fun {at' rest} here => by
      obtain ⟨ne, earlier⟩ := others here
      rw [isThere_dropChangeset_of_ne fun same => ne (booked.apart earlier found same)]
      exact booked.there earlier
    apart := fun here there => booked.apart (others here).2 (others there).2
    distinct := fun {_ _} here {_ _ _} => booked.distinct (others here).2
    pointed := fun marks => (booked.pointed marks).trans_eq (by simp [Store.dropChangeset]) }

theorem new (place : Nat) : Booked store.newChangeset.2
    (Function.update ledger place (some ⟨store.changesets.size, OrderedMap.empty⟩)) where
  issued {at' rest} here {asked observer} issued := by
    rcases update_eq_some here with ⟨rfl, same⟩ | ⟨_, earlier⟩
    · cases same
      cases issued
    · exact booked.issued earlier issued
  there {at' rest} here := by
    rcases update_eq_some here with ⟨rfl, same⟩ | ⟨_, earlier⟩
    · cases same
      simp [Store.isThere, Store.newChangeset]
    · rw [isThere_newChangeset_of_lt (booked.lt_of_there earlier)]
      exact booked.there earlier
  apart {one another first second} here there same := by
    rcases update_eq_some here with ⟨rfl, new⟩ | ⟨_, earlier⟩ <;>
      rcases update_eq_some there with ⟨rfl, newer⟩ | ⟨_, later⟩
    · rfl
    · cases new
      exact absurd (booked.lt_of_there later) (same ▸ lt_irrefl _)
    · cases newer
      exact absurd (booked.lt_of_there earlier) (same ▸ lt_irrefl _)
    · exact booked.apart earlier later same
  distinct {at' rest} here {asked other observer} first second := by
    rcases update_eq_some here with ⟨rfl, same⟩ | ⟨_, earlier⟩
    · cases same
      cases first
    · exact booked.distinct earlier first second
  pointed marks := (booked.pointed marks).trans (by simp [Store.newChangeset])

end Booked

namespace Sound

variable {store after : Store} {ledger : Ledger} {watched other : Watched} {place : Nat}
  {account : Account} {name : String} {observer : ObserverId}

theorem start : Sound Store.empty (fun _ => none) fun _ _ _ => False where
  issued := nofun
  there := nofun
  apart := nofun
  distinct := nofun
  known member := nomatch member
  pointed := nofun
  owned member := nomatch member
  exact := nofun
  absent _ _ _ := id

theorem congr (sound : Sound store ledger watched)
    (same : ∀ place name ref, watched place name ref ↔ other place name ref) :
    Sound store ledger other := by
  have equal : watched = other :=
    funext fun place => funext fun name => funext fun ref => propext (same place name ref)
  exact equal ▸ sound

/-! ### Nodes -/

/-- **Where bindings flow, the nodes they come to are watched too.** -/
theorem flow {flow : Flow} (sound : Sound store ledger watched)
    (flows : Store.Flows flow store after) : Sound after ledger fun place name ref =>
      watched place name ref ∨ ∃ source, flow source ref ∧ watched place name source where
  toBooked := sound.toBooked.of_same flows.observers flows.there flows.changesets
  known member := by
    obtain ⟨source, member⟩ := flows.origin member
    rw [flows.observers]
    exact sound.known member
  owned member alive := by
    rw [flows.isAlive] at alive
    rcases (flows.alive alive).mp member with old | ⟨source, _, member⟩
    · exact sound.owned old alive
    · exact sound.owned member alive
  exact {place account} found {name ref} := by
    rw [sound.exact found]
    constructor
    · rintro (⟨observer, known, member⟩ | ⟨source, flowed, here⟩)
      · exact ⟨observer, known, (flows.alive (sound.alive found known)).mpr (Or.inl member)⟩
      · obtain ⟨observer, known, member⟩ := (sound.exact found).mp here
        exact ⟨observer, known,
          (flows.alive (sound.alive found known)).mpr (Or.inr ⟨source, flowed, member⟩)⟩
    · rintro ⟨observer, known, member⟩
      rcases (flows.alive (sound.alive found known)).mp member with old | ⟨source, flowed, member⟩
      · exact Or.inl ⟨observer, known, old⟩
      · exact Or.inr ⟨source, flowed, (sound.exact found).mpr ⟨observer, known, member⟩⟩
  absent {_} free {_ _} := by
    rintro (here | ⟨_, _, here⟩)
    · exact sound.absent free here
    · exact sound.absent free here

/-- Where nothing flows the same nodes are watched. -/
theorem still (sound : Sound store ledger watched) (flows : Store.Flows .still store after) :
    Sound after ledger watched :=
  (sound.flow flows).congr fun _ _ _ => or_iff_left (by simp [Flow.still])

/-! ### Observers -/

/-- **A name gets its observer**, which watches nothing yet. -/
theorem issue (sound : Sound store ledger watched) (found : ledger place = some account)
    (free : account.observers.get? name = none) :
    Sound (store.newObserver account.changeset).2 (Function.update ledger place
        (some ⟨account.changeset, account.observers.insert name store.observers.size⟩))
      watched where
  toBooked := sound.toBooked.issue found name
  known member := (sound.known member).trans (by simp [Store.newObserver])
  owned {binding ref} member alive := by
    have before : store.isAlive binding.observer = true := by
      obtain ⟨changeset, marks, there⟩ := Store.isAlive_iff.mp alive
      rw [getElem?_newObserver_of_lt (sound.known member)] at marks
      exact Store.isAlive_iff.mpr ⟨changeset, marks, there⟩
    obtain ⟨one, rest, there, known⟩ := sound.owned member before
    by_cases here : one = place
    · subst here
      obtain rfl : account = rest := Option.some.inj (found.symm.trans there)
      have ne : binding.name ≠ name := by
        intro same
        rw [same, free] at known
        cases known
      exact ⟨one, _, Function.update_self .., (OrderedMap.get?_insert_of_ne _ ne _).trans known⟩
    · exact ⟨one, rest, (Function.update_of_ne here ..).trans there, known⟩
  exact {one rest} there {asked ref} := by
    rcases update_eq_some there with ⟨rfl, same⟩ | ⟨_, earlier⟩
    · cases same
      rw [sound.exact found]
      refine exists_congr fun issued => and_congr_left fun member => ?_
      -- the new observer watches nothing, and the name had none before
      by_cases same : asked = name
      · subst same
        rw [free, OrderedMap.get?_insert_self]
        refine ⟨fun none => (by cases none), fun new => ?_⟩
        cases new
        exact absurd (sound.known member) (lt_irrefl _)
      · rw [OrderedMap.get?_insert_of_ne _ same]
    · exact sound.exact earlier
  absent {one} none {asked ref} := by
    rcases update_eq_none none with ⟨_, same⟩ | ⟨_, earlier⟩
    · cases same
    · exact sound.absent earlier

/-- **A value comes to be stored**: the observer of its name watches it. -/
theorem attach (sound : Sound store ledger watched) (found : ledger place = some account)
    (known : account.observers.get? name = some observer) (value : Value) :
    Sound (store.attach value observer name) ledger fun at' asked ref =>
      watched at' asked ref ∨
        (at' = place ∧ asked = name ∧ value.ref? = some ref ∧ ref < store.nodes.size) := by
  have grows := Store.grows_inherit store value [⟨observer, name⟩]
  have marks : (store.attach value observer name).observers = store.observers := grows.observers
  have there (changeset : ChangesetId) :
      (store.attach value observer name).isThere changeset = store.isThere changeset := by
    simp only [Store.isThere, Store.attach, grows.changesets]
  refine {
    toBooked := sound.toBooked.of_same marks there (congrArg Array.size grows.changesets)
    known := fun {binding ref} member => ?_
    owned := fun {binding ref} member alive => ?_
    exact := fun {at' rest} here {asked ref} => ?_
    absent := fun {at'} free {asked ref} => ?_ }
  · rw [marks]
    rcases Store.mem_bindings_inherit.mp member with old | ⟨_, _, new⟩
    · exact sound.known old
    · rw [List.mem_singleton.mp new]
      exact sound.lt_of_issued found known
  · rcases Store.mem_bindings_inherit.mp member with old | ⟨_, _, new⟩
    · refine sound.owned old ?_
      obtain ⟨changeset, marked, present⟩ := Store.isAlive_iff.mp alive
      exact Store.isAlive_iff.mpr ⟨changeset, marks ▸ marked, (there changeset).symm.trans present⟩
    · rw [List.mem_singleton.mp new]
      exact ⟨place, account, found, known⟩
  · rw [sound.exact here]
    constructor
    · rintro (⟨issued, known, member⟩ | ⟨rfl, rfl, handle, inside⟩)
      · exact ⟨issued, known, Store.mem_bindings_inherit.mpr (Or.inl member)⟩
      · obtain rfl : account = rest := Option.some.inj (found.symm.trans here)
        exact ⟨observer, known, Store.mem_bindings_inherit.mpr
          (Or.inr ⟨handle, inside, List.mem_singleton_self _⟩)⟩
    · rintro ⟨issued, given, member⟩
      rcases Store.mem_bindings_inherit.mp member with old | ⟨handle, inside, new⟩
      · exact Or.inl ⟨issued, given, old⟩
      · cases List.mem_singleton.mp new
        exact Or.inr ⟨(sound.unique found known here given).1.symm, rfl, handle, inside⟩
  · rintro (here | ⟨rfl, _⟩)
    · exact sound.absent free here
    · rw [found] at free
      cases free

/-- **Observers are retired**: their names watch nothing any more. -/
theorem silence (sound : Sound store ledger watched) (found : ledger place = some account)
    {gone : List ObserverId} {next : Account} (changeset : next.changeset = account.changeset)
    (left : ∀ {asked observer}, next.observers.get? asked = some observer ↔
      account.observers.get? asked = some observer ∧ observer ∉ gone)
    (own : ∀ observer ∈ gone, ∃ asked, account.observers.get? asked = some observer) :
    Sound (gone.foldl Store.retire store) (Function.update ledger place (some next))
      fun at' asked ref => watched at' asked ref ∧
        ¬ (at' = place ∧ ∃ observer ∈ gone, account.observers.get? asked = some observer) := by
  obtain ⟨nodes, _, size, observers⟩ := retire_frame store gone
  have bindings (ref : Ref) :
      (gone.foldl Store.retire store).bindings ref = store.bindings ref := by
    simp only [Store.bindings, nodes]
  refine {
    toBooked := sound.toBooked.silence found changeset left own
    known := fun {binding ref} member => ?_
    owned := fun {binding ref} member alive => ?_
    exact := fun {at' rest} here {asked ref} => ?_
    absent := fun {at'} free {asked ref} watches => ?_ }
  · rw [bindings] at member
    exact (sound.known member).trans_eq size.symm
  · rw [bindings] at member
    obtain ⟨marked, marks, present⟩ := Store.isAlive_iff.mp alive
    rw [isThere_retire] at present
    obtain ⟨before, remains⟩ := observers.mp marks
    obtain ⟨at', rest, here, issued⟩ :=
      sound.owned member (Store.isAlive_iff.mpr ⟨marked, before, present⟩)
    by_cases same : at' = place
    · subst same
      obtain rfl : account = rest := Option.some.inj (found.symm.trans here)
      exact ⟨at', next, Function.update_self .., left.mpr ⟨issued, remains⟩⟩
    · exact ⟨at', rest, (Function.update_of_ne same ..).trans here, issued⟩
  · rw [bindings]
    rcases update_eq_some here with ⟨rfl, same⟩ | ⟨ne, earlier⟩
    · cases same
      rw [sound.exact found]
      constructor
      · rintro ⟨⟨observer, issued, member⟩, remains⟩
        exact ⟨observer, left.mpr ⟨issued, fun member => remains ⟨rfl, observer, member, issued⟩⟩,
          member⟩
      · rintro ⟨observer, issued, member⟩
        obtain ⟨mine, remains⟩ := left.mp issued
        refine ⟨⟨observer, mine, member⟩, ?_⟩
        rintro ⟨_, another, member, issued⟩
        exact remains (Option.some.inj (mine.symm.trans issued) ▸ member)
    · rw [sound.exact earlier]
      exact and_iff_left fun same => ne same.1
  · rcases update_eq_none free with ⟨_, same⟩ | ⟨_, earlier⟩
    · cases same
    · exact sound.absent earlier watches.1

/-! ### Containers -/

/-- **A container is dropped**: nothing is watched under its names any more. -/
theorem drop (sound : Sound store ledger watched) (found : ledger place = some account) :
    Sound (store.dropChangeset account.changeset) (Function.update ledger place none)
      fun at' asked ref => watched at' asked ref ∧ at' ≠ place where
  toBooked := sound.toBooked.drop found
  known := sound.known
  owned {binding ref} member alive := by
    obtain ⟨marked, marks, present⟩ := Store.isAlive_iff.mp alive
    have ne : marked ≠ account.changeset := by
      intro same
      rw [same, isThere_dropChangeset_self] at present
      cases present
    rw [isThere_dropChangeset_of_ne ne] at present
    obtain ⟨at', rest, here, issued⟩ :=
      sound.owned member (Store.isAlive_iff.mpr ⟨marked, marks, present⟩)
    have other : at' ≠ place := by
      rintro rfl
      obtain rfl : account = rest := Option.some.inj (found.symm.trans here)
      exact ne (Option.some.inj (Option.some.inj (marks.symm.trans (sound.issued here issued))))
    exact ⟨at', rest, (Function.update_of_ne other ..).trans here, issued⟩
  exact {at' rest} here {asked ref} := by
    rcases update_eq_some here with ⟨_, same⟩ | ⟨ne, earlier⟩
    · cases same
    · exact (and_iff_left ne).trans (sound.exact earlier)
  absent {at'} free {asked ref} watches := by
    rcases update_eq_none free with ⟨same, _⟩ | ⟨_, earlier⟩
    · exact watches.2 same
    · exact sound.absent earlier watches.1

/-- **A new container** watches nothing. -/
theorem new (sound : Sound store ledger watched) (free : ledger place = none) :
    Sound store.newChangeset.2
      (Function.update ledger place (some ⟨store.changesets.size, OrderedMap.empty⟩)) watched where
  toBooked := sound.toBooked.new place
  known := sound.known
  owned {binding ref} member alive := by
    obtain ⟨marked, marks, present⟩ := Store.isAlive_iff.mp alive
    rw [isThere_newChangeset_of_lt (sound.pointed marks)] at present
    obtain ⟨at', rest, here, issued⟩ :=
      sound.owned member (Store.isAlive_iff.mpr ⟨marked, marks, present⟩)
    have other : at' ≠ place := by
      rintro rfl
      rw [free] at here
      cases here
    exact ⟨at', rest, (Function.update_of_ne other ..).trans here, issued⟩
  exact {at' rest} here {asked ref} := by
    rcases update_eq_some here with ⟨rfl, same⟩ | ⟨_, earlier⟩
    · cases same
      refine ⟨fun watches => absurd watches (sound.absent free), ?_⟩
      rintro ⟨_, issued, _⟩
      cases issued
    · exact sound.exact earlier
  absent {at'} none {asked ref} := by
    rcases update_eq_none none with ⟨_, same⟩ | ⟨_, earlier⟩
    · cases same
    · exact sound.absent earlier

end Sound

end ReactiveView
