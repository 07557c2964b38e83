/-
**The store: nodes, observers and changesets.**

Lists, maps and records live as nodes of one store, and handles refer to them. A node carries
bindings: pairs of an observer and a name. An observer belongs to the changeset of one container
until it is retired, and a changeset lives as long as its container. A node that is written marks
the name of each binding in the changeset of the binding's observer, if both are still there.

* `Store.mutate` — the only way in which the content of a node changes: write, mark, prune.
* `Store.inherit` — bindings pass from a node to what is read out of it, each at most once.
* `mem_foldl_addBinding` — inheriting adds bindings and takes none away.
* `content_inherit` — inheriting changes what no node holds.
-/

import ReactiveView.Data.NameSet
import ReactiveView.Value

namespace ReactiveView

/-- The place of an observer in its store. -/
abbrev ObserverId := Nat

/-- The place of a changeset in its store. -/
abbrev ChangesetId := Nat

/-- An observer and the name under which it watches a node. -/
structure Binding where
  observer : ObserverId
  name : String
deriving DecidableEq

/-- What a node holds. -/
inductive Content where
  | list (items : List Value)
  | map (entries : OrderedMap String Value)
  | record (name : String) (fields : OrderedMap String Value)

instance : Inhabited Content := ⟨.list []⟩

/-- A list, a map or a record together with the observers that watch it. -/
structure TrackedNode where
  content : Content
  bindings : List Binding

instance : Inhabited TrackedNode := ⟨⟨default, []⟩⟩

/-- All nodes, all observers and all changesets. -/
structure Store where
  nodes : Array TrackedNode
  /-- The changeset each observer marks; a retired observer marks none. -/
  observers : Array (Option ChangesetId)
  /-- The names marked in each changeset; one whose container is gone holds none. -/
  changesets : Array (Option NameSet)
  /-- Handles that an application keeps under names of its own; nothing here looks at them. -/
  kept : OrderedMap String Value

namespace Store

/-- The store before anything is made. -/
def empty : Store := ⟨#[], #[], #[], OrderedMap.empty⟩

instance : Inhabited Store := ⟨empty⟩

/-! ### Reading nodes -/

/-- What a node holds; a reference to nothing reads as an empty list. -/
def content (store : Store) (ref : Ref) : Content := (store.nodes[ref]?.getD default).content

/-- The bindings of a node. -/
def bindings (store : Store) (ref : Ref) : List Binding := (store.nodes[ref]?.getD default).bindings

/-- The items of a list. -/
def items (store : Store) (ref : Ref) : List Value :=
  match store.content ref with
  | .list items => items
  | _ => []

/-- The entries of a map. -/
def entries (store : Store) (ref : Ref) : OrderedMap String Value :=
  match store.content ref with
  | .map entries => entries
  | _ => OrderedMap.empty

/-- The type name of a record. -/
def recordName (store : Store) (ref : Ref) : String :=
  match store.content ref with
  | .record name _ => name
  | _ => ""

/-- The fields of a record. -/
def fields (store : Store) (ref : Ref) : OrderedMap String Value :=
  match store.content ref with
  | .record _ fields => fields
  | _ => OrderedMap.empty

/-! ### Observers and changesets -/

/-- Whether what an observer marks is still read by a container. -/
def isAlive (store : Store) (observer : ObserverId) : Bool :=
  match store.observers[observer]? with
  | some (some changeset) => (store.changesets[changeset]?.getD none).isSome
  | _ => false

/-- A new changeset without names. -/
def newChangeset (store : Store) : ChangesetId × Store :=
  (store.changesets.size, { store with changesets := store.changesets.push (some NameSet.empty) })

/-- A new observer that marks a changeset. -/
def newObserver (store : Store) (changeset : ChangesetId) : ObserverId × Store :=
  (store.observers.size, { store with observers := store.observers.push (some changeset) })

/-- The names marked in a changeset. -/
def marked (store : Store) (changeset : ChangesetId) : NameSet :=
  (store.changesets[changeset]?.getD none).getD NameSet.empty

/-- Changes the names of a changeset, if its container is still there. -/
def modifyChangeset (store : Store) (changeset : ChangesetId) (f : NameSet → NameSet) : Store :=
  { store with changesets := store.changesets.modify changeset (Option.map f) }

/-- Marks a name in a changeset. -/
def mark (store : Store) (changeset : ChangesetId) (name : String) : Store :=
  store.modifyChangeset changeset (·.insert name)

/-- Marks a name in the changeset of an observer, if both are still there. -/
def notify (store : Store) (observer : ObserverId) (name : String) : Store :=
  match store.observers[observer]? with
  | some (some changeset) => store.mark changeset name
  | _ => store

/-- From now on the observer marks nothing. -/
def retire (store : Store) (observer : ObserverId) : Store :=
  { store with observers := store.observers.modify observer fun _ => none }

/-- The container of a changeset is gone. -/
def dropChangeset (store : Store) (changeset : ChangesetId) : Store :=
  { store with changesets := store.changesets.modify changeset fun _ => none }

/-! ### Bindings -/

/-- A list of bindings with one more, unless it is there. -/
def addBinding (bindings : List Binding) (binding : Binding) : List Binding :=
  if binding ∈ bindings then bindings else bindings ++ [binding]

/-- Changes the bindings of a node. -/
def modifyBindings (store : Store) (ref : Ref) (f : List Binding → List Binding) : Store :=
  { store with
    nodes := store.nodes.modify ref fun node => { node with bindings := f node.bindings } }

/-- Gives a value the bindings of a list that it does not have yet; scalars have none. -/
def inherit (store : Store) (value : Value) (inherited : List Binding) : Store :=
  match value.ref? with
  | some ref => store.modifyBindings ref fun own => inherited.foldl addBinding own
  | none => store

/-- Gives each of several values the bindings of a list. -/
def inheritAll (store : Store) (values : List Value) (inherited : List Binding) : Store :=
  values.foldl (fun store value => store.inherit value inherited) store

/-- Attaches an observer to a value under a name. -/
def attach (store : Store) (value : Value) (observer : ObserverId) (name : String) : Store :=
  store.inherit value [⟨observer, name⟩]

/-- Takes one binding off a value. -/
def detach (store : Store) (value : Value) (observer : ObserverId) (name : String) : Store :=
  match value.ref? with
  | some ref => store.modifyBindings ref fun own => own.filter (· ≠ ⟨observer, name⟩)
  | none => store

/-- Takes all bindings of an observer off a value. -/
def detachObserver (store : Store) (value : Value) (observer : ObserverId) : Store :=
  match value.ref? with
  | some ref => store.modifyBindings ref fun own => own.filter (·.observer ≠ observer)
  | none => store

/-- Attaches an observer to a value under a name, and says whether that is new. -/
def addObserver (store : Store) (value : Value) (observer : ObserverId) (name : String) :
    Bool × Store :=
  match value.ref? with
  | some ref => (decide (⟨observer, name⟩ ∉ store.bindings ref), store.attach value observer name)
  | none => (false, store)

/-- Takes all bindings of an observer off a value, and says how many there were. -/
def removeObserver (store : Store) (value : Value) (observer : ObserverId) : Nat × Store :=
  match value.ref? with
  | some ref =>
    (((store.bindings ref).filter (·.observer = observer)).length,
      store.detachObserver value observer)
  | none => (0, store)

/-- Takes one binding off a value, and says whether it was there. -/
def removeBinding (store : Store) (value : Value) (observer : ObserverId) (name : String) :
    Bool × Store :=
  match value.ref? with
  | some ref => (decide (⟨observer, name⟩ ∈ store.bindings ref), store.detach value observer name)
  | none => (false, store)

/-- The bindings of a value; scalars have none. -/
def bindingsOf (store : Store) (value : Value) : List Binding :=
  match value.ref? with
  | some ref => store.bindings ref
  | none => []

/-- The names under which a value is watched. -/
def observedNames (store : Store) (value : Value) : NameSet :=
  NameSet.ofList ((store.bindingsOf value).map Binding.name)

/-! ### Making and writing nodes -/

/-- A new node with the given bindings. -/
def newNode (store : Store) (content : Content) (bindings : List Binding) : Ref × Store :=
  (store.nodes.size, { store with nodes := store.nodes.push ⟨content, bindings⟩ })

/-- A new node that nobody watches. -/
def make (store : Store) (content : Content) : Ref × Store := store.newNode content []

/-- A new node that carries every binding `origin` has. -/
def derive (store : Store) (origin : Ref) (content : Content) : Ref × Store :=
  store.newNode content (store.bindings origin)

/-- Replaces what a node holds. -/
def setContent (store : Store) (ref : Ref) (content : Content) : Store :=
  { store with nodes := store.nodes.modify ref fun node => { node with content := content } }

/-- Marks the name of each of some bindings. -/
def notifyAll (store : Store) (bindings : List Binding) : Store :=
  bindings.foldl (fun store binding => store.notify binding.observer binding.name) store

/--
Replaces what a node holds, marks the name of every binding, and takes off the bindings whose
observer marks nothing any more.
-/
def mutate (store : Store) (ref : Ref) (content : Content) : Store :=
  let written := store.setContent ref content
  let notified := written.notifyAll (written.bindings ref)
  notified.modifyBindings ref fun own => own.filter fun binding => notified.isAlive binding.observer

/-- Keeps a handle for the application. -/
def keep (store : Store) (name : String) (value : Value) : Store :=
  { store with kept := store.kept.insert name value }

/-! ### What the operations leave alone -/

theorem mem_addBinding {bindings : List Binding} {binding member : Binding} :
    member ∈ addBinding bindings binding ↔ member ∈ bindings ∨ member = binding := by
  unfold addBinding
  split
  · next present =>
    constructor
    · exact Or.inl
    · rintro (h | rfl)
      · exact h
      · exact present
  · simp

theorem mem_foldl_addBinding {inherited own : List Binding} {member : Binding} :
    member ∈ inherited.foldl addBinding own ↔ member ∈ own ∨ member ∈ inherited := by
  induction inherited generalizing own with
  | nil => simp
  | cons first rest ih =>
    rw [List.foldl_cons, ih, mem_addBinding, List.mem_cons, or_assoc]

theorem bindings_modifyBindings_self (store : Store) (ref : Ref) (f : List Binding → List Binding)
    (inside : ref < store.nodes.size) :
    (store.modifyBindings ref f).bindings ref = f (store.bindings ref) := by
  simp [modifyBindings, bindings, Array.getElem_modify, inside]

theorem bindings_modifyBindings_of_ne (store : Store) {ref other : Ref} (ne : other ≠ ref)
    (f : List Binding → List Binding) :
    (store.modifyBindings ref f).bindings other = store.bindings other := by
  simp [modifyBindings, bindings, Array.getElem?_modify, Ne.symm ne]

theorem content_modifyBindings (store : Store) (ref other : Ref)
    (f : List Binding → List Binding) :
    (store.modifyBindings ref f).content other = store.content other := by
  by_cases same : ref = other
  · by_cases inside : other < store.nodes.size <;>
      simp [modifyBindings, content, Array.getElem_modify, same, inside]
  · simp [modifyBindings, content, Array.getElem?_modify, same]

theorem content_inherit (store : Store) (value : Value) (inherited : List Binding) (ref : Ref) :
    (store.inherit value inherited).content ref = store.content ref := by
  unfold inherit
  split
  · exact content_modifyBindings ..
  · rfl

end Store

end ReactiveView
