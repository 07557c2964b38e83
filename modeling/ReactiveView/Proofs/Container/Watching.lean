/-
**No write to what was read down is lost.**

Code outside a container may attach its observers to further values and notify them by hand. Then a
name may watch more than was obtained through it, but never less: until its value is replaced, the
observer issued for a name stays issued and keeps every node it watches.

* `Deed`, `Workspace.reached` — acts, and observers attached and notified by hand.
* `Keeps`, `Deed.Follows` — what one change, and one deed, leaves of what is watched.
* `ReadDown` — the nodes that are read down from the value under a name.
* `mem_changes_of_read_down` — a write to such a node marks the name.
* `not_mem_changes_of_unread` — to read it is needed: to be reachable is not enough.
-/

import ReactiveView.Proofs.Container.Tracking
import ReactiveView.Proofs.Tracked.Depth

namespace ReactiveView

/-! ### Deeds -/

/-- An act, or an observer attached to a value or notified by hand. -/
inductive Deed where
  | act (act : Act)
  | attach (value : Value) (observer : ObserverId) (name : String)
  | notify (observer : ObserverId) (name : String)

/-- A value is a scalar, or a handle of a node that is there. -/
def Value.IsThere (value : Value) (store : Store) : Prop :=
  ∀ ref, value.ref? = some ref → ref < store.nodes.size

namespace Workspace

/-- What one deed does. -/
def doing (workspace : Workspace) : Deed → Workspace
  | .act act => workspace.step act
  | .attach value observer name =>
    { workspace with store := (workspace.store.addObserver value observer name).2 }
  | .notify observer name => { workspace with store := workspace.store.notify observer name }

/-- The workspace after some deeds, the last one first. -/
def reached : List Deed → Workspace
  | [] => start
  | deed :: earlier => (reached earlier).doing deed

/-- The value under a name of the container at a place. -/
def value? (workspace : Workspace) (place : Nat) (name : String) : Option Value :=
  (workspace.containers place).bind (·.peek name)

end Workspace

/-- An act stores no handle of a node that is not there. -/
def Act.Proper (act : Act) (before : Workspace) : Prop :=
  match act with
  | set _ _ value => value.IsThere before.store
  | get _ name default owner => ∀ {value store},
    default.compute name owner before.store = (.ok value, store) → value.IsThere store
  | _ => True

namespace Deed

def Proper (deed : Deed) (before : Workspace) : Prop :=
  match deed with
  | .act done => done.Proper before
  | _ => True

/-- From where to where a deed reads. -/
def reads (deed : Deed) (before : Workspace) : Flow :=
  match deed with
  | .act done => done.reads before
  | _ => .still

/-- A deed puts another value in the place of the one under a name, or takes it away. -/
def Replaces (deed : Deed) (before : Workspace) (place : Nat) (name : String) : Prop :=
  match deed with
  | .act done => done.Replaces before place name
  | _ => False

end Deed

/-- In a row of deeds, the last one first, all handles that are stored are there. -/
def Proper : List Deed → Prop
  | [] => True
  | deed :: earlier => deed.Proper (Workspace.reached earlier) ∧ Proper earlier

/--
**A node read down from the value under a name** in a row of deeds, the last one first: it is the
node stored under the name at some time, or was read out of such a node later, and since then the
value under the name was not replaced.
-/
inductive ReadDown (place : Nat) (name : String) : List Deed → Ref → Prop
  | stored {history : List Deed} {value : Value} {ref : Ref}
    (stored : (Workspace.reached history).value? place name = some value)
    (handle : value.ref? = some ref) : ReadDown place name history ref
  | read {deed : Deed} {earlier : List Deed} {whole part : Ref}
    (down : ReadDown place name earlier whole)
    (reads : deed.reads (Workspace.reached earlier) whole part) :
    ReadDown place name (deed :: earlier) part
  | kept {deed : Deed} {earlier : List Deed} {ref : Ref} (down : ReadDown place name earlier ref)
    (stays : ¬ deed.Replaces (Workspace.reached earlier) place name) :
    ReadDown place name (deed :: earlier) ref

/-! ### Changes that keep what is watched -/

/-- Which nodes the observers watch that containers have issued. -/
def Watching (store : Store) (ledger : Ledger) : Watched := fun place name ref =>
  ∃ account observer, ledger place = some account ∧
    account.observers.get? name = some observer ∧ ⟨observer, name⟩ ∈ store.bindings ref

/-- **Names go on watching what they watch**, but for those that lose it. -/
structure Keeps (lost : Nat → String → Prop) (store : Store) (ledger : Ledger) (after : Store)
    (books : Ledger) : Prop where
  booked : Booked after books
  kept : ∀ {place name ref}, Watching store ledger place name ref → ¬ lost place name →
    Watching after books place name ref

/-- No name loses what it watches. -/
abbrev KeepsAll := Keeps fun _ _ => False

section

variable {lost more : Nat → String → Prop} {store after later : Store}
  {ledger books rest : Ledger} {place : Nat} {name : String} {ref : Ref} {container : Container}

theorem Keeps.trans (first : Keeps lost store ledger after books)
    (second : Keeps more after books later rest)
    {either : Nat → String → Prop} (covers : ∀ place name, lost place name ∨ more place name →
      either place name) : Keeps either store ledger later rest where
  booked := second.booked
  kept {place name _} watching stays :=
    second.kept (first.kept watching fun gone => stays (covers place name (Or.inl gone)))
      fun gone => stays (covers place name (Or.inr gone))

/-- What a name watches is not lost on the way. -/
theorem KeepsAll.trans (first : KeepsAll store ledger after books)
    (second : KeepsAll after books later rest) : KeepsAll store ledger later rest :=
  Keeps.trans first second fun _ _ gone => gone.elim id id

namespace Booked

variable (booked : Booked store ledger)
include booked

theorem keeps_refl : KeepsAll store ledger store ledger :=
  ⟨booked, fun watching _ => watching⟩

/-- Bindings that flow stay where they were. -/
theorem keeps_flow {flow : Flow} (flows : Store.Flows flow store after) :
    KeepsAll store ledger after ledger where
  booked := booked.of_same flows.observers flows.there flows.changesets
  kept := by
    rintro place name ref ⟨account, observer, found, known, member⟩ -
    exact ⟨account, observer, found, known,
      (flows.alive (booked.alive found known)).mpr (.inl member)⟩

/-- A name watches the nodes that its bindings flow to. -/
theorem watching_flow {flow : Flow} (flows : Store.Flows flow store after) {source : Ref}
    (watching : Watching store ledger place name source) (flowed : flow source ref) :
    Watching after ledger place name ref := by
  obtain ⟨account, observer, found, known, member⟩ := watching
  exact ⟨account, observer, found, known,
    (flows.alive (booked.alive found known)).mpr (.inr ⟨source, flowed, member⟩)⟩

/-- Attaching an observer, whoever does it, only adds a binding. -/
theorem keeps_attach (value : Value) (observer : ObserverId) (name : String) :
    KeepsAll store ledger (store.attach value observer name) ledger where
  booked := by
    have grows := Store.grows_inherit store value [⟨observer, name⟩]
    exact booked.of_same grows.observers
      (fun changeset => by simp only [Store.isThere, Store.attach, grows.changesets])
      (congrArg Array.size grows.changesets)
  kept := by
    rintro place asked ref ⟨account, issued, found, known, member⟩ -
    exact ⟨account, issued, found, known, Store.mem_bindings_inherit.mpr (.inl member)⟩

theorem keeps_observer (found : ledger place = some container.account) (name : String) :
    let (observer, next, after) := container.observer name store
    KeepsAll store ledger after (Function.update ledger place (some next.account)) ∧
      next.account.observers.get? name = some observer ∧ after.nodes = store.nodes ∧
      next.values = container.values := by
  unfold Container.observer
  cases known : container.observers.get? name with
  | some observer =>
    refine ⟨?_, known, rfl, rfl⟩
    rw [← found, Function.update_eq_self]
    exact booked.keeps_refl
  | none =>
    refine ⟨⟨booked.issue found name, ?_⟩, OrderedMap.get?_insert_self .., rfl, rfl⟩
    rintro at' asked ref ⟨account, observer, there, issued, member⟩ -
    by_cases same : at' = place
    · subst same
      obtain rfl : container.account = account := Option.some.inj (found.symm.trans there)
      have ne : asked ≠ name := by
        rintro rfl
        cases known.symm.trans issued
      exact ⟨_, observer, Function.update_self ..,
        (OrderedMap.get?_insert_of_ne _ ne _).trans issued, member⟩
    · exact ⟨account, observer, (Function.update_of_ne same ..).trans there, issued, member⟩

/-- **A container stores a value**: its name watches it from now on. -/
theorem keeps_watch (found : ledger place = some container.account) (name : String)
    (value : Value) :
    let (next, after) := container.watch name value store
    KeepsAll store ledger after (Function.update ledger place (some next.account)) ∧
      (∀ ref, value.ref? = some ref → ref < store.nodes.size →
        Watching after (Function.update ledger place (some next.account)) place name ref) ∧
      next.values = container.values.insert name value := by
  have issued := booked.keeps_observer found name
  unfold Container.watch
  generalize container.observer name store = answer at issued ⊢
  obtain ⟨observer, next, after⟩ := answer
  obtain ⟨keeps, known, nodes, values⟩ := issued
  refine ⟨keeps.trans (keeps.booked.keeps_attach value observer name), fun ref handle inside => ?_,
    congrArg (·.insert name value) values⟩
  refine ⟨next.account, observer, Function.update_self .., known, ?_⟩
  refine Store.mem_bindings_inherit.mpr (.inr ⟨handle, ?_, List.mem_singleton_self _⟩)
  rw [nodes]
  exact inside

/-- **Observers are retired**: only their names lose what they watch. -/
theorem keeps_silence {account next : Account} (found : ledger place = some account)
    {gone : List ObserverId} (changeset : next.changeset = account.changeset)
    (left : ∀ {asked observer}, next.observers.get? asked = some observer ↔
      account.observers.get? asked = some observer ∧ observer ∉ gone)
    (own : ∀ observer ∈ gone, ∃ asked, account.observers.get? asked = some observer) :
    Keeps (fun at' asked => at' = place ∧ ∃ observer ∈ gone,
        account.observers.get? asked = some observer)
      store ledger (gone.foldl Store.retire store)
      (Function.update ledger place (some next)) where
  booked := booked.silence found changeset left own
  kept := by
    rintro at' asked ref ⟨rest, observer, there, issued, member⟩ stays
    have bindings : (gone.foldl Store.retire store).bindings ref = store.bindings ref := by
      simp only [Store.bindings, (retire_frame store gone).1]
    rw [← bindings] at member
    by_cases same : at' = place
    · subst same
      obtain rfl : account = rest := Option.some.inj (found.symm.trans there)
      have remains : observer ∉ gone := fun retired => stays ⟨rfl, observer, retired, issued⟩
      exact ⟨next, observer, Function.update_self .., left.mpr ⟨issued, remains⟩, member⟩
    · exact ⟨rest, observer, (Function.update_of_ne same ..).trans there, issued, member⟩

theorem keeps_retire (found : ledger place = some container.account) (name : String)
    (old : Value) :
    let (next, after) := container.retire name old store
    Keeps (fun at' asked => at' = place ∧ asked = name) store ledger after
        (Function.update ledger place (some next.account)) ∧
      after.nodes.size = store.nodes.size ∧ next.values = container.values := by
  unfold Container.retire
  cases known : container.observers.get? name with
  | none =>
    refine ⟨?_, rfl, rfl⟩
    rw [← found, Function.update_eq_self]
    exact ⟨booked, fun watching _ => watching⟩
  | some observer =>
    have own (other : ObserverId) (member : other ∈ [observer]) :
        ∃ asked, container.observers.get? asked = some other :=
      ⟨name, (List.mem_singleton.mp member) ▸ known⟩
    have silenced := booked.keeps_silence found (show (⟨container.changeset,
      container.observers.erase name⟩ : Account).changeset = _ from rfl)
      (booked.get?_erase_eq_some found known) own
    have detached := silenced.booked.keeps_flow
      (Store.flows_detach (Store.isAlive_retire store observer) old name)
    refine ⟨silenced.trans detached ?_, (Store.size_detach ..).trans rfl, rfl⟩
    rintro at' asked (⟨rfl, other, retired, issued⟩ | impossible)
    · rw [List.mem_singleton.mp retired] at issued
      exact ⟨rfl, booked.distinct found issued known⟩
    · exact impossible.elim

/-- Marking names leaves what is watched alone. -/
theorem keeps_markDirty (container : Container) (names : List String) :
    KeepsAll store ledger (container.markDirty names store) ledger := by
  unfold Container.markDirty
  induction names generalizing store with
  | nil => exact booked.keeps_refl
  | cons name rest ih =>
    have marked := booked.keeps_flow (Store.flows_modifyChangeset store container.changeset
      (·.insert name))
    exact marked.trans (ih marked.booked)

/-- **A container stores another value under a name**: only the name may lose what it watched. -/
theorem keeps_set (found : ledger place = some container.account) (name : String)
    (value : Value) :
    let (next, after) := container.set name value store
    Keeps (fun at' asked => at' = place ∧ asked = name ∧ ∃ old,
          container.values.get? name = some old ∧ old.sameNode value = false)
        store ledger after (Function.update ledger place (some next.account)) ∧
      (∀ ref, value.ref? = some ref → ref < store.nodes.size →
        Watching after (Function.update ledger place (some next.account)) place name ref) ∧
      next.values = container.values.insert name value := by
  -- the observer of a value that stays is not retired
  have stored {lost : Nat → String → Prop} {before : Store} {middle : Container}
      (keeps : Keeps lost store ledger before (Function.update ledger place (some middle.account)))
      (size : before.nodes.size = store.nodes.size) (values : middle.values = container.values)
      (covers : ∀ at' asked, lost at' asked → at' = place ∧ asked = name ∧ ∃ old,
        container.values.get? name = some old ∧ old.sameNode value = false) :
      let (next, after) := middle.watch name value before
      Keeps (fun at' asked => at' = place ∧ asked = name ∧ ∃ old,
            container.values.get? name = some old ∧ old.sameNode value = false)
          store ledger (next.markDirty [name] after)
          (Function.update ledger place (some next.account)) ∧
        (∀ ref, value.ref? = some ref → ref < store.nodes.size →
          Watching (next.markDirty [name] after)
            (Function.update ledger place (some next.account)) place name ref) ∧
        next.values = container.values.insert name value := by
    have watched := keeps.booked.keeps_watch (Function.update_self ..) name value
    generalize middle.watch name value before = answer at watched ⊢
    obtain ⟨next, after⟩ := answer
    obtain ⟨watches, new, inserted⟩ := watched
    rw [Function.update_idem] at watches new
    have marked := watches.booked.keeps_markDirty next [name]
    refine ⟨keeps.trans (watches.trans marked) ?_, fun ref handle inside => ?_, ?_⟩
    · rintro at' asked (gone | impossible)
      · exact covers at' asked gone
      · exact impossible.elim
    · exact marked.kept (new ref handle (size ▸ inside)) id
    · rw [inserted, values]
  have unchanged : KeepsAll store ledger store
      (Function.update ledger place (some container.account)) := by
    rw [← found, Function.update_eq_self]
    exact booked.keeps_refl
  unfold Container.set
  cases present : container.values.get? name with
  | none =>
    rw [present] at stored
    exact stored unchanged rfl rfl fun _ _ => False.elim
  | some old =>
    rw [present] at stored
    cases same : old.sameNode value with
    | true =>
      simp only [same, if_true]
      exact stored unchanged rfl rfl fun _ _ => False.elim
    | false =>
      have retired := booked.keeps_retire found name old
      simp only [same, Bool.false_eq_true, if_false]
      generalize container.retire name old store = answer at retired ⊢
      obtain ⟨middle, before⟩ := answer
      obtain ⟨keeps, size, values⟩ := retired
      exact stored keeps size values fun at' asked gone => ⟨gone.1, gone.2, old, rfl, same⟩

/-- **A container is cleaned up**: only its own names lose what they watched. -/
theorem keeps_cleanup (found : ledger place = some container.account) :
    let (next, after) := container.cleanup store
    Keeps (fun at' _ => at' = place) store ledger after
        (Function.update ledger place (some next.account)) ∧
      next.values = OrderedMap.empty := by
  have issued {asked : String} {observer : ObserverId}
      (known : container.observers.get? asked = some observer) :
      observer ∈ container.observers.values :=
    (container.observers.mem_values_iff observer).mpr ⟨asked, known⟩
  have silenced := booked.keeps_silence found (show (⟨container.changeset, OrderedMap.empty⟩ :
      Account).changeset = _ from rfl)
    (fun {asked other} => ⟨fun none => (by cases none), fun held => absurd (issued held.1) held.2⟩)
    fun observer => (container.observers.mem_values_iff observer).mp
  have detached := silenced.booked.keeps_flow (Sound.flows_detachAll container.values.values
    fun _ => isAlive_retired store)
  rw [← Sound.retire_detachAll] at detached
  have reset := detached.booked.keeps_flow
    (Store.flows_modifyChangeset _ container.changeset fun _ => NameSet.empty)
  refine ⟨silenced.trans (detached.trans reset) ?_, rfl⟩
  rintro at' asked (⟨here, _⟩ | impossible)
  · exact here
  · exact impossible.elim

theorem keeps_dropChangeset (found : ledger place = some container.account) :
    Keeps (fun at' _ => at' = place) store ledger (store.dropChangeset container.changeset)
      (Function.update ledger place none) where
  booked := booked.drop found
  kept := by
    rintro at' asked ref ⟨account, observer, there, issued, member⟩ elsewhere
    exact ⟨account, observer, (Function.update_of_ne elsewhere ..).trans there, issued, member⟩

theorem keeps_drop (found : ledger place = some container.account) :
    Keeps (fun at' _ => at' = place) store ledger (container.drop store)
      (Function.update ledger place none) := by
  simp only [Container.drop]
  split
  · exact booked.keeps_dropChangeset found
  · have cleaned := booked.keeps_cleanup found
    generalize container.cleanup store = answer at cleaned ⊢
    have dropped := cleaned.1.booked.keeps_dropChangeset (Function.update_self ..)
    rw [Function.update_idem] at dropped
    exact cleaned.1.trans dropped fun _ _ gone => gone.elim id id

theorem keeps_new (free : ledger place = none) :
    KeepsAll store ledger store.newChangeset.2
      (Function.update ledger place (some ⟨store.changesets.size, OrderedMap.empty⟩)) where
  booked := booked.new place
  kept := by
    rintro at' asked ref ⟨account, observer, there, issued, member⟩ -
    have elsewhere : at' ≠ place := by
      rintro rfl
      cases free.symm.trans there
    exact ⟨account, observer, (Function.update_of_ne elsewhere ..).trans there, issued, member⟩

end Booked

end

/-! ### Deeds keep what is watched -/

/-- Which nodes are watched in a workspace. -/
abbrev Workspace.Watches (workspace : Workspace) : Watched :=
  Watching workspace.store workspace.ledger

/-- **What a deed leaves of what is watched**, and what comes to be watched by it. -/
structure Deed.Follows (deed : Deed) (before after : Workspace) : Prop
    extends Keeps (deed.Replaces before) before.store before.ledger after.store after.ledger where
  read : ∀ {place name whole part}, before.Watches place name whole →
    deed.reads before whole part → after.Watches place name part
  /-- A value that comes to be stored is watched from then on. -/
  stored : deed.Proper before → ∀ {place name value ref}, after.value? place name = some value →
    value.ref? = some ref → after.Watches place name ref ∨
      (before.value? place name = some value ∧ ¬ deed.Replaces before place name)

section

variable {workspace : Workspace} {deed : Deed} {place : Nat} {container : Container}

/-- A deed that only changes the store. -/
theorem Deed.follows_of_store {store : Store}
    (keeps : KeepsAll workspace.store workspace.ledger store workspace.ledger)
    (read : ∀ {place name whole part}, workspace.Watches place name whole →
      deed.reads workspace whole part → Watching store workspace.ledger place name part)
    (stays : ∀ place name, ¬ deed.Replaces workspace place name) :
    deed.Follows workspace { workspace with store := store } where
  booked := keeps.booked
  kept watches _ := keeps.kept watches id
  read := read
  stored _ {_ _ _ _} there _ := Or.inr ⟨there, stays _ _⟩

/-- A deed on a container that is not there. -/
theorem Deed.follows_of_none (booked : Booked workspace.store workspace.ledger)
    (free : workspace.containers place = none)
    (still : ∀ whole part, ¬ deed.reads workspace whole part)
    (own : ∀ at' name, deed.Replaces workspace at' name → at' = place)
    (f : Container → Store → Option Container × Store) :
    deed.Follows workspace (workspace.onContainer place f) where
  booked := by
    rw [onContainer_of_none free]
    exact booked
  kept watches _ := by
    rw [onContainer_of_none free]
    exact watches
  read _ reads := absurd reads (still _ _)
  stored _ {at' name value ref} there _ := by
    rw [onContainer_of_none free] at there
    refine Or.inr ⟨there, fun replaces => ?_⟩
    obtain rfl := own at' name replaces
    simp [Workspace.value?, free] at there

/-- A deed on a container that is there, seen from the container. -/
theorem Deed.follows_of_some (found : workspace.containers place = some container)
    {f : Container → Store → Option Container × Store}
    (keeps : Keeps (deed.Replaces workspace) workspace.store workspace.ledger
      (f container workspace.store).2 (Function.update workspace.ledger place
        ((f container workspace.store).1.map Container.account)))
    (read : ∀ {at' name whole part}, workspace.Watches at' name whole →
      deed.reads workspace whole part → Watching (f container workspace.store).2
        (Function.update workspace.ledger place
          ((f container workspace.store).1.map Container.account)) at' name part)
    (own : ∀ at' name, deed.Replaces workspace at' name → at' = place)
    (stored : deed.Proper workspace → ∀ {next name value ref},
      (f container workspace.store).1 = some next → next.values.get? name = some value →
      value.ref? = some ref → Watching (f container workspace.store).2
          (Function.update workspace.ledger place (some next.account)) place name ref ∨
        (container.values.get? name = some value ∧ ¬ deed.Replaces workspace place name)) :
    deed.Follows workspace (workspace.onContainer place f) := by
  rw [onContainer_of_some found]
  refine ⟨⟨?_, fun watches stays => ?_⟩, fun watches reads => ?_, fun proper => ?_⟩
  · rw [ledger_update]
    exact keeps.booked
  · rw [ledger_update]
    exact keeps.kept watches stays
  · rw [Workspace.Watches, ledger_update]
    exact read watches reads
  · intro at' name value ref there handle
    by_cases same : at' = place
    · subst same
      obtain ⟨next, made, peeked⟩ := Option.bind_eq_some_iff.mp there
      replace made := (Function.update_self ..).symm.trans made
      rw [Workspace.Watches, ledger_update, made]
      refine (stored proper made peeked handle).imp_right fun old => ⟨?_, old.2⟩
      simp only [Workspace.value?, found, Option.bind_some]
      exact old.1
    · refine Or.inr ⟨?_, fun replaces => same (own at' name replaces)⟩
      simpa only [Workspace.value?, Function.update_of_ne same] using there

variable (booked : Booked workspace.store workspace.ledger)
include booked

/-- A deed on a container that keeps its values. -/
theorem Deed.follows_of_kept (f : Container → Store → Option Container × Store)
    (still : ∀ whole part, ¬ deed.reads workspace whole part)
    (stays : ∀ at' name, ¬ deed.Replaces workspace at' name)
    (does : ∀ {container}, workspace.containers place = some container →
      ∃ next, (f container workspace.store).1 = some next ∧ next.values = container.values ∧
        KeepsAll workspace.store workspace.ledger (f container workspace.store).2
          (Function.update workspace.ledger place (some next.account))) :
    deed.Follows workspace (workspace.onContainer place f) := by
  cases found : workspace.containers place with
  | none => exact follows_of_none booked found still (fun _ _ gone => absurd gone (stays _ _)) f
  | some container =>
    obtain ⟨next, made, values, keeps⟩ := does found
    refine follows_of_some found ?_ (fun _ reads => absurd reads (still _ _))
      (fun _ _ gone => absurd gone (stays _ _)) ?_
    · rw [made]
      exact ⟨keeps.booked, fun watches _ => keeps.kept watches id⟩
    · intro _ other name value ref same there _
      obtain rfl : next = other := Option.some.inj (made.symm.trans same)
      exact Or.inr ⟨values ▸ there, stays _ _⟩

/-- A deed that ends the values of a container. -/
theorem Deed.follows_of_ended (f : Container → Store → Option Container × Store)
    (still : ∀ whole part, ¬ deed.reads workspace whole part)
    (own : ∀ at' name, deed.Replaces workspace at' name ↔ at' = place)
    (does : ∀ {container}, workspace.containers place = some container →
      Keeps (fun at' _ => at' = place) workspace.store workspace.ledger
          (f container workspace.store).2 (Function.update workspace.ledger place
            ((f container workspace.store).1.map Container.account)) ∧
        ∀ next, (f container workspace.store).1 = some next → next.values = OrderedMap.empty) :
    deed.Follows workspace (workspace.onContainer place f) := by
  cases found : workspace.containers place with
  | none => exact follows_of_none booked found still (fun _ _ => (own _ _).mp) f
  | some container =>
    obtain ⟨keeps, empty⟩ := does found
    refine follows_of_some found ?_ (fun _ reads => absurd reads (still _ _))
      (fun _ _ => (own _ _).mp) ?_
    · exact ⟨keeps.booked, fun watches stays =>
        keeps.kept watches fun here => stays ((own _ _).mpr here)⟩
    · intro _ next name value ref made there _
      rw [empty next made] at there
      cases there

theorem follows_new (place : Nat) :
    (Deed.act (.new place)).Follows workspace (workspace.doing (.act (.new place))) := by
  rw [Workspace.doing, Workspace.step, Workspace.newContainer]
  cases found : workspace.containers place with
  | some container =>
    exact Deed.follows_of_store booked.keeps_refl (fun _ => False.elim) fun _ _ => id
  | none =>
    dsimp only
    have free : workspace.ledger place = none := by
      simp only [Workspace.ledger, found, Option.map_none]
    have keeps := booked.keeps_new free
    refine ⟨⟨?_, fun watches _ => ?_⟩, fun _ => False.elim, fun _ => ?_⟩
    · rw [ledger_update]
      exact keeps.booked
    · rw [ledger_update]
      exact keeps.kept watches id
    · intro at' name value ref there _
      refine Or.inr ⟨?_, id⟩
      by_cases same : at' = place
      · subst same
        simp only [Workspace.value?, Function.update_self, Option.bind_some] at there
        cases there
      · simpa only [Workspace.value?, Function.update_of_ne same] using there

theorem follows_set (place : Nat) (name : String) (value : Value) :
    (Deed.act (.set place name value)).Follows workspace
      (workspace.doing (.act (.set place name value))) := by
  have own (at' : Nat) (asked : String)
      (replaces : (Deed.act (.set place name value)).Replaces workspace at' asked) : at' = place :=
    replaces.1.symm
  rw [Workspace.doing, Workspace.step]
  cases found : workspace.containers place with
  | none => exact Deed.follows_of_none booked found (fun _ _ => id) own _
  | some container =>
    have stored := booked.keeps_set (ledger_of_some found) name value
    refine Deed.follows_of_some found ?_ (fun _ => False.elim) own ?_
    · generalize container.set name value workspace.store = answer at stored ⊢
      exact ⟨stored.1.booked, fun watches stays => stored.1.kept watches fun gone =>
        stays ((replaces_set found).mpr gone)⟩
    · generalize container.set name value workspace.store = answer at stored ⊢
      obtain ⟨next, after⟩ := answer
      obtain ⟨_, watched, values⟩ := stored
      intro proper other asked held ref same there handle
      obtain rfl : next = other := Option.some.inj same
      rcases get?_insert_eq_some (values ▸ there) with ⟨rfl, rfl⟩ | ⟨other, old⟩
      · exact Or.inl (watched ref handle (proper ref handle))
      · exact Or.inr ⟨old, fun replaces => other replaces.2.1.symm⟩

theorem follows_get (place : Nat) (name : String) (default : VarDefault) (owner : Owner) :
    (Deed.act (.get place name default owner)).Follows workspace
      (workspace.doing (.act (.get place name default owner))) := by
  rw [Workspace.doing, Workspace.step]
  cases found : workspace.containers place with
  | none =>
    refine Deed.follows_of_none booked found ?_ (fun _ _ => False.elim) _
    intro whole part reads
    simp [Deed.reads, Act.reads, found, Flow.still] at reads
  | some container =>
    have here := ledger_of_some found
    have unchanged : Function.update workspace.ledger place (some container.account) =
        workspace.ledger := by rw [← here, Function.update_eq_self]
    cases stored : container.values.get? name with
    | some value =>
      have still (whole part : Ref) :
          ¬ (Deed.act (.get place name default owner)).reads workspace whole part := by
        simp [Deed.reads, Act.reads, found, stored, Flow.still]
      refine Deed.follows_of_kept booked _ still (fun _ _ => id) fun {other} there => ?_
      obtain rfl : container = other := Option.some.inj (found.symm.trans there)
      simp only [Container.get, stored]
      refine ⟨container, rfl, rfl, ?_⟩
      rw [unchanged]
      exact booked.keeps_refl
    | none =>
      have reads : (Deed.act (.get place name default owner)).reads workspace =
          default.reads owner workspace.store := by
        simp [Deed.reads, Act.reads, found, stored]
      have flows := flows_compute default name owner workspace.store
      have flowed := booked.keeps_flow flows
      cases computed : default.compute name owner workspace.store with | mk made store
      rw [computed] at flows flowed
      cases made with
      | error error =>
        refine Deed.follows_of_some found ?_ ?_ (fun _ _ => False.elim) ?_
        all_goals simp only [Container.get, stored, computed, Option.map_some, unchanged]
        · exact flowed
        · intro at' asked whole part watches flow
          exact booked.watching_flow flows watches (reads ▸ flow)
        · intro _ next asked held ref same there _
          obtain rfl : container = next := Option.some.inj same
          exact Or.inr ⟨there, id⟩
      | ok value =>
        have watching := flowed.booked.keeps_watch here name value
        refine Deed.follows_of_some found ?_ ?_ (fun _ _ => False.elim) ?_
        all_goals
          simp only [Container.get, stored, computed, Option.map_some]
          generalize container.watch name value store = answer at watching ⊢
          obtain ⟨next, after⟩ := answer
          obtain ⟨keeps, watched, values⟩ := watching
        · exact flowed.trans keeps
        · intro at' asked whole part watches flow
          exact keeps.kept (booked.watching_flow flows watches (reads ▸ flow)) id
        · intro proper other asked held ref same there handle
          obtain rfl : next = other := Option.some.inj same
          rcases get?_insert_eq_some (values ▸ there) with ⟨rfl, rfl⟩ | ⟨_, old⟩
          · exact Or.inl (watched ref handle (proper computed ref handle))
          · exact Or.inr ⟨old, id⟩

/-- **What every deed leaves of what is watched.** -/
theorem follows_doing (deed : Deed) : deed.Follows workspace (workspace.doing deed) := by
  cases deed with
  | attach value observer name =>
    refine Deed.follows_of_store ?_ (fun _ => False.elim) fun _ _ => id
    unfold Store.addObserver
    split
    · exact booked.keeps_attach value observer name
    · exact booked.keeps_refl
  | notify observer name =>
    refine Deed.follows_of_store ?_ (fun _ => False.elim) fun _ _ => id
    unfold Store.notify
    split
    · exact booked.keeps_flow (Store.flows_modifyChangeset _ _ _)
    · exact booked.keeps_refl
  | act act =>
    cases act with
    | new place => exact follows_new booked place
    | get place name default owner => exact follows_get booked place name default owner
    | set place name value => exact follows_set booked place name value
    | peek place name =>
      exact Deed.follows_of_store booked.keeps_refl (fun _ => False.elim) fun _ _ => id
    | observer place name =>
      rw [Workspace.doing, Workspace.step]
      refine Deed.follows_of_kept booked _ (fun _ _ => id) (fun _ _ => id)
        fun {container} found => ?_
      have issued := booked.keeps_observer (ledger_of_some found) name
      exact ⟨_, rfl, issued.2.2.2, issued.1⟩
    | markDirty place names =>
      rw [Workspace.doing, Workspace.step]
      refine Deed.follows_of_kept booked _ (fun _ _ => id) (fun _ _ => id)
        fun {container} found => ⟨container, rfl, rfl, ?_⟩
      rw [← ledger_of_some found, Function.update_eq_self]
      exact booked.keeps_markDirty container names
    | resetChanges place =>
      rw [Workspace.doing, Workspace.step]
      refine Deed.follows_of_kept booked _ (fun _ _ => id) (fun _ _ => id)
        fun {container} found => ⟨container, rfl, rfl, ?_⟩
      rw [← ledger_of_some found, Function.update_eq_self]
      exact booked.keeps_flow (Store.flows_modifyChangeset _ container.changeset _)
    | cleanup place =>
      rw [Workspace.doing, Workspace.step]
      refine Deed.follows_of_ended booked _ (fun _ _ => id) (fun _ _ => eq_comm)
        fun {container} found => ?_
      have cleaned := booked.keeps_cleanup (ledger_of_some found)
      exact ⟨cleaned.1, fun next same => Option.some.inj same ▸ cleaned.2⟩
    | drop place =>
      rw [Workspace.doing, Workspace.step]
      refine Deed.follows_of_ended booked _ (fun _ _ => id) (fun _ _ => eq_comm)
        fun {container} found => ⟨booked.keeps_drop (ledger_of_some found), by simp⟩
    | perform operation =>
      have flows := flows_run operation workspace.store
      exact Deed.follows_of_store (booked.keeps_flow flows)
        (fun watches reads => booked.watching_flow flows watches reads) fun _ _ => id

end

/-! ### Rows of deeds -/

theorem booked_reached (history : List Deed) :
    Booked (Workspace.reached history).store (Workspace.reached history).ledger := by
  induction history with
  | nil => exact Sound.start.toBooked
  | cons deed earlier ih => exact (follows_doing ih deed).booked

/-- **In every workspace that deeds lead to, the value under a name is watched.** -/
theorem watches_value {history : List Deed} (proper : Proper history) {place : Nat} {name : String}
    {value : Value} {ref : Ref}
    (stored : (Workspace.reached history).value? place name = some value)
    (handle : value.ref? = some ref) : (Workspace.reached history).Watches place name ref := by
  induction history with
  | nil => cases stored
  | cons deed earlier ih =>
    have follows := follows_doing (booked_reached earlier) deed
    rcases follows.stored proper.1 stored handle with new | ⟨old, stays⟩
    · exact new
    · exact follows.kept (ih proper.2 old) stays

/-- A node read down from the value under a name is watched. -/
theorem watches_of_read_down {history : List Deed} (proper : Proper history) {place : Nat}
    {name : String} {ref : Ref} (down : ReadDown place name history ref) :
    (Workspace.reached history).Watches place name ref := by
  induction down with
  | stored stored handle => exact watches_value proper stored handle
  | read _ reads ih => exact (follows_doing (booked_reached _) _).read (ih proper.2) reads
  | kept _ stays ih => exact (follows_doing (booked_reached _) _).kept (ih proper.2) stays

/--
**No write to a node read down from the value under a name is lost**, in every workspace that deeds
lead to: through however many lists, maps and records it was read down, and whatever else watches
the nodes on the way.
-/
theorem mem_changes_of_read_down (history : List Deed) (proper : Proper history) {place : Nat}
    {container : Container}
    (found : (Workspace.reached history).containers place = some container) {name : String}
    {target : Ref} (down : ReadDown place name history target) {operation : Operation}
    (writes : operation.target? (Workspace.reached history).store = some target) :
    name ∈ container.changes (operation.run (Workspace.reached history).store).2 := by
  obtain ⟨account, observer, there, issued, member⟩ := watches_of_read_down proper down
  have booked := booked_reached history
  obtain rfl : container.account = account :=
    Option.some.inj ((ledger_of_some found).symm.trans there)
  obtain ⟨content, same⟩ := Operation.exists_mutate_of_target writes
  rw [same, Container.changes, Store.mem_marked_mutate]
  exact Or.inr ⟨booked.there there, observer, member, booked.issued there issued⟩

/-- A list of lists comes to be stored under `items`, and no list is read. -/
def storedUnread : List Deed :=
  [.act (.resetChanges 0), .act (.set 0 "items" (.list 1)), .act (.new 0),
    .act (.perform (.newList [.list 0])), .act (.perform (.newList []))]

/-- The list inside is read, and the observer of `items` is attached by hand elsewhere. -/
def storedAndRead : List Deed :=
  .act (.perform (.listItem 1 0)) :: .attach (.list 0) 0 "elsewhere" :: storedUnread

theorem mem_changes_of_read_down_of_nested :
    ∃ container, (Workspace.reached storedAndRead).containers 0 = some container ∧
      "items" ∉ container.changes (Workspace.reached storedAndRead).store ∧
      "items" ∈ container.changes
        ((Operation.listPush 0 .nil).run (Workspace.reached storedAndRead).store).2 := by
  have present : (Workspace.reached storedAndRead).containers 0 = some _ := rfl
  have whole : ReadDown 0 "items" storedUnread 1 := 
    .stored (show (Workspace.reached storedUnread).value? 0 "items" = some (.list 1) from rfl) rfl
  have down : ReadDown 0 "items" storedAndRead 0 :=
    .read (.kept whole id) ⟨rfl, ⟨.list 0, List.mem_singleton_self _, rfl⟩, by decide⟩
  have proper : Proper storedAndRead := by
    refine ⟨trivial, trivial, trivial, ?_, trivial, trivial, trivial, trivial⟩
    rintro ref handle
    obtain rfl : 1 = ref := Option.some.inj handle
    decide
  exact ⟨_, present, List.not_mem_nil,
    mem_changes_of_read_down storedAndRead proper present down rfl⟩

/--
**To be reachable from the value under a name is not enough**: a list inside of a list that is
stored without being read is not watched, and a write to it marks nothing.
-/
theorem not_mem_changes_of_unread :
    ¬ ∀ (history : List Deed), Proper history → ∀ (place : Nat) (container : Container),
      (Workspace.reached history).containers place = some container →
      ∀ (name : String) (value : Value) (top target : Ref),
        (Workspace.reached history).value? place name = some value → value.ref? = some top →
        Relation.ReflTransGen (Workspace.reached history).store.Holds target top →
        ∀ operation : Operation,
          operation.target? (Workspace.reached history).store = some target →
          name ∈ container.changes (operation.run (Workspace.reached history).store).2 := by
  intro claimed
  have proper : Proper storedUnread := by
    refine ⟨trivial, ?_, trivial, trivial, trivial, trivial⟩
    rintro ref handle
    obtain rfl : 1 = ref := Option.some.inj handle
    decide
  have inside : (Workspace.reached storedUnread).store.Holds 0 1 :=
    ⟨.list 0, List.mem_singleton_self _, rfl⟩
  have marked := claimed storedUnread proper 0 _ rfl "items" (.list 1) 1 0 rfl rfl (.single inside)
    (.listPush 0 .nil) rfl
  exact absurd marked List.not_mem_nil

end ReactiveView
