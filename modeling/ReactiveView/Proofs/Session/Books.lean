/-
**What the containers of a session have issued, and what code has read out of them.**

The containers of a session keep their books together: each has its account under its changeset. What is
stored under a name is watched under that name, and so is what code reads out of it from then on, unless
the name is marked anyway. So a write to something that was read out of a variable marks the variable.

* `ReadOut` — which nodes were read out of which variables.
* `World.Books` — the books of a session are in order.
* `World.Books.hold` — a container changes.
* `World.Books.marks_of_mutate` — a write marks what was read out of.
-/

import ReactiveView.Proofs.Container.Watching
import ReactiveView.Proofs.Session.Sites

namespace ReactiveView

/-- Which nodes were read out of which variables. -/
abbrev ReadOut := Site → String → Ref → Prop

namespace ReadOut

/-- Nothing was read yet. -/
def nothing : ReadOut := fun _ _ _ => False

/-- What is read out of nodes counts as read out of the variables that these were read out of. -/
def along (read : ReadOut) (flow : Flow) : ReadOut := fun site name ref =>
  read site name ref ∨ ∃ source, read site name source ∧ flow source ref

/-- The value of a variable was read. -/
def add (read : ReadOut) (site : Site) (name : String) (value : Value) : ReadOut :=
  fun asked other ref => read asked other ref ∨
    (asked = site ∧ other = name ∧ value.ref? = some ref)

end ReadOut

/-! ### Bindings that are added -/

namespace Booked

variable {store after : Store} {ledger : Ledger}

/-- What is watched is watched still after reading, whoever reads. -/
theorem keeps_reads (booked : Booked store ledger) (reads : store.Reads after) :
    KeepsAll store ledger after ledger where
  booked := booked.of_same reads.observers
    (fun changeset => by simp only [Store.isThere, reads.changesets])
    (congrArg Array.size reads.changesets)
  kept := by
    rintro place name ref ⟨account, observer, found, known, member⟩ -
    exact ⟨account, observer, found, known, reads.bindings member⟩

end Booked

namespace World

/-- **The books of a session are in order**: each container has its account under its changeset, what is
stored under a name is watched, and so is what was read out of it, unless the name is marked. -/
structure Books (world : World) (store : Store) (ledger : Ledger) (read : ReadOut) : Prop where
  booked : Booked store ledger
  filed : ∀ {place account}, ledger place = some account → account.changeset = place
  entered : ∀ {site container}, world.container? site = some container →
    ledger container.changeset = some container.account
  apart : ∀ {site other container rest}, world.container? site = some container →
    world.container? other = some rest → container.changeset = rest.changeset → site = other
  watched : ∀ {site container name value ref}, world.container? site = some container →
    container.values.get? name = some value → value.ref? = some ref →
    Watching store ledger container.changeset name ref
  tracked : ∀ {site container name ref}, world.container? site = some container →
    read site name ref → name ∈ container.changes store ∨
      Watching store ledger container.changeset name ref

namespace Books

variable {world after : World} {store stored : Store} {ledger : Ledger} {read : ReadOut}
  {site : Site} {container next : Container} {name : String} {value : Value} {target : Ref}

/-- With less that was read. -/
theorem imp (books : world.Books store ledger read) {less : ReadOut}
    (fewer : ∀ {site name ref}, less site name ref → read site name ref) :
    world.Books store ledger less :=
  { books with tracked := fun found here => books.tracked found (fewer here) }

theorem forget (books : world.Books store ledger read) : world.Books store ledger .nothing :=
  books.imp False.elim

/-- Worlds with the same containers have the same books. -/
theorem of_places (books : world.Books store ledger read)
    (same : ∀ site, after.container? site = world.container? site) :
    after.Books store ledger read where
  booked := books.booked
  filed := books.filed
  entered found := books.entered (same _ ▸ found)
  apart found other := books.apart (same _ ▸ found) (same _ ▸ other)
  watched found := books.watched (same _ ▸ found)
  tracked found := books.tracked (same _ ▸ found)

/-- **A store changes** so that everything is watched still, and marks only come. -/
theorem onStore (books : world.Books store ledger read)
    (keeps : KeepsAll store ledger stored ledger)
    (marks : ∀ {changeset name}, name ∈ store.marked changeset → name ∈ stored.marked changeset) :
    world.Books stored ledger read where
  booked := keeps.booked
  filed := books.filed
  entered := books.entered
  apart := books.apart
  watched found has handle := keeps.kept (books.watched found has handle) id
  tracked found here :=
    (books.tracked found here).imp marks fun watches => keeps.kept watches id

/-- Marks come. -/
theorem mark (books : world.Books store ledger read) (marked : Container) (names : List String)
    (marks : ∀ {changeset name}, name ∈ store.marked changeset →
      name ∈ (marked.markDirty names store).marked changeset) :
    world.Books (marked.markDirty names store) ledger read :=
  books.onStore (books.booked.keeps_markDirty marked names) marks

/-- **Where bindings flow**, more is read out of variables. -/
theorem along {flow : Flow} (books : world.Books store ledger read)
    (flows : Store.Flows flow store stored)
    (marks : ∀ {changeset name}, name ∈ store.marked changeset → name ∈ stored.marked changeset) :
    world.Books stored ledger (read.along flow) :=
  { books.onStore (books.booked.keeps_flow flows) marks with
    tracked := by
      rintro site container name ref found (here | ⟨source, here, flowed⟩)
      · exact (books.onStore (books.booked.keeps_flow flows) marks).tracked found here
      · exact (books.tracked found here).imp marks fun watches =>
          books.booked.watching_flow flows watches flowed }

/-- **The value of a variable is read.** -/
theorem add (books : world.Books store ledger read) (has : world.value? site name = some value) :
    world.Books store ledger (read.add site name value) :=
  { books with
    tracked := by
      rintro asked other asked' ref found (here | ⟨rfl, rfl, handle⟩)
      · exact books.tracked found here
      · obtain ⟨container, there, has⟩ := value?_eq_some_iff.mp has
        cases there.symm.trans found
        exact Or.inr (books.watched found has handle) }

/-- **The container at a site changes**: names that lose what they watched are marked. -/
theorem hold (books : world.Books store ledger read) (found : world.container? site = some container)
    {lost : Nat → String → Prop}
    (keeps : ReactiveView.Keeps lost store ledger stored
      (Function.update ledger container.changeset (some next.account)))
    (changeset : next.changeset = container.changeset)
    (own : ∀ place asked, lost place asked → place = container.changeset ∧ asked ∈ next.changes stored)
    (marks : ∀ {changeset name}, name ∈ store.marked changeset → name ∈ stored.marked changeset)
    (watched : ∀ {asked value ref}, next.values.get? asked = some value → value.ref? = some ref →
      Watching stored (Function.update ledger container.changeset (some next.account))
          container.changeset asked ref ∨
        (container.values.get? asked = some value ∧ ¬ lost container.changeset asked))
    (placed : ∀ asked, after.container? asked =
      if asked = site then some next else world.container? asked) :
    after.Books stored (Function.update ledger container.changeset (some next.account)) read := by
  -- the container at a site afterwards: the one that has changed, or one as it was
  have cases {asked : Site} {rest : Container} (there : after.container? asked = some rest) :
      (asked = site ∧ rest = next) ∨
        (asked ≠ site ∧ world.container? asked = some rest ∧
          rest.changeset ≠ container.changeset) := by
    rw [placed] at there
    split at there
    · next same => exact Or.inl ⟨same, (Option.some.inj there).symm⟩
    · next ne => exact Or.inr ⟨ne, there, fun same => ne (books.apart there found same)⟩
  have elsewhere {place : Nat} (ne : place ≠ container.changeset) (asked : String) :
      ¬ lost place asked := fun gone => ne (own place asked gone).1
  refine ⟨keeps.booked, fun {place account} there => ?_, fun {asked rest} there => ?_,
    fun {asked other rest another} here there same => ?_,
    fun {asked rest name value ref} there has handle => ?_, fun {asked rest name ref} there here => ?_⟩
  · rcases update_eq_some there with ⟨rfl, same⟩ | ⟨_, earlier⟩
    · cases same
      exact changeset
    · exact books.filed earlier
  · rcases cases there with ⟨_, rfl⟩ | ⟨_, old, ne⟩
    · rw [changeset, Function.update_self]
    · rw [Function.update_of_ne ne]
      exact books.entered old
  · rcases cases here with ⟨rfl, rfl⟩ | ⟨_, old, ne⟩ <;>
      rcases cases there with ⟨rfl, rfl⟩ | ⟨_, older, differs⟩
    · rfl
    · exact absurd (same.symm.trans changeset) differs
    · exact absurd (same.trans changeset) ne
    · exact books.apart old older same
  · rcases cases there with ⟨rfl, rfl⟩ | ⟨_, old, ne⟩
    · rw [changeset]
      rcases watched has handle with new | ⟨before, stays⟩
      · exact new
      · exact keeps.kept (books.watched found before handle) stays
    · exact keeps.kept (books.watched old has handle) (elsewhere ne name)
  · rcases cases there with ⟨rfl, rfl⟩ | ⟨_, old, ne⟩
    · rw [changeset]
      by_cases gone : lost container.changeset name
      · exact Or.inl (own _ _ gone).2
      · refine (books.tracked found here).imp (fun marked => ?_) fun watches =>
          keeps.kept watches gone
        unfold Container.changes at marked ⊢
        rw [changeset]
        exact marks marked
    · exact (books.tracked old here).imp marks fun watches =>
        keeps.kept watches (elsewhere ne name)

/-- **A write marks the variables that the node was read out of.** -/
theorem marks_of_mutate (books : world.Books store ledger read)
    (found : world.container? site = some container) (here : read site name target)
    (content : Content) : name ∈ container.changes (store.mutate target content) := by
  rw [Container.changes, Store.mem_marked_mutate]
  refine (books.tracked found here).imp id fun watches => ?_
  obtain ⟨account, observer, there, issued, member⟩ := watches
  cases there.symm.trans (books.entered found)
  exact ⟨books.booked.there there, observer, member, books.booked.issued there issued⟩

end Books

end World

end ReactiveView
