/-
**Containers: the variables of one scope, and which of them changed.**

A container holds values under names and marks a name in its changeset when the value under it is
replaced or written to. For this it issues one observer per name, which watches the value stored
under that name. Replacing a value retires the observer of its name: whatever was read out of the
old value is silent from then on.

* `Container.get` — a variable is given its default when it is first read, and that marks nothing.
* `Container.set` — storing the node that is already there keeps its observer.
* `Container.cleanup` — takes the container's observers off its values and forgets both.
-/

import ReactiveView.Program

namespace ReactiveView

/-- The component a default value is made for. -/
structure Owner where
  id : String
  className : String
deriving DecidableEq

/-- How a variable gets its value before the first assignment. -/
inductive VarDefault where
  /-- It starts as `nil`. -/
  | absent
  | literal (value : Json)
  | factory (make : Program Empty Value)
  | withOwner (make : Owner → Program Empty Value)

namespace VarDefault

/-- A literal that would be one node for every component. -/
def isShared : VarDefault → Bool
  | literal value => value.isComposite
  | _ => false

/-- The default value of the variable `name`. -/
def compute (default : VarDefault) (name : String) (owner : Owner) (store : Store) :
    Except Error Value × Store :=
  match default with
  | absent => (.ok .nil, store)
  | literal value =>
    if value.isComposite then (.error (.invalidDefaultFactory name), store)
    else
      let (value, store) := Value.ofJson store value
      (.ok value, store)
  | factory make =>
    let (value, store) := make.runAlone store
    (.ok value, store)
  | withOwner make =>
    let (value, store) := (make owner).runAlone store
    (.ok value, store)

/-- The diagnostic text of a default. -/
def debug : VarDefault → String
  | absent => "Absent"
  | literal value => "Literal(" ++ value.text ++ ")"
  | factory _ => "Factory(..)"
  | withOwner _ => "WithOwner(..)"

end VarDefault

/-- The values stored under names, the changeset, and the observer issued for each name. -/
structure Container where
  values : OrderedMap String Value
  changeset : ChangesetId
  observers : OrderedMap String ObserverId

namespace Container

/-- A container without values. -/
def new (store : Store) : Container × Store :=
  let (changeset, store) := store.newChangeset
  (⟨OrderedMap.empty, changeset, OrderedMap.empty⟩, store)

/-- The observer issued for a name, issued now if there is none. -/
def observer (container : Container) (name : String) (store : Store) :
    ObserverId × Container × Store :=
  match container.observers.get? name with
  | some observer => (observer, container, store)
  | none =>
    let (observer, store) := store.newObserver container.changeset
    (observer, { container with observers := container.observers.insert name observer }, store)

/-- Attaches the observer of a name to a value and stores the value under the name. -/
def watch (container : Container) (name : String) (value : Value) (store : Store) :
    Container × Store :=
  let (observer, container, store) := container.observer name store
  ({ container with values := container.values.insert name value },
    store.attach value observer name)

/-- The stored value; if there is none, the default is made and stored. -/
def get (container : Container) (name : String) (default : VarDefault) (owner : Owner)
    (store : Store) : Except Error Value × Container × Store :=
  match container.values.get? name with
  | some value => (.ok value, container, store)
  | none =>
    match default.compute name owner store with
    | (.error error, store) => (.error error, container, store)
    | (.ok value, store) =>
      let (container, store) := container.watch name value store
      (.ok value, container, store)

/-- The stored value, if there is one. -/
def peek (container : Container) (name : String) : Option Value := container.values.get? name

/-- Retires the observer of a name and takes it off the value it watched. -/
def retire (container : Container) (name : String) (old : Value) (store : Store) :
    Container × Store :=
  match container.observers.get? name with
  | some observer =>
    ({ container with observers := container.observers.erase name },
      (store.retire observer).detach old observer name)
  | none => (container, store)

/-- Marks some names. -/
def markDirty (container : Container) (names : List String) (store : Store) : Store :=
  names.foldl (fun store name => store.mark container.changeset name) store

/-- Stores a value under a name and marks the name. -/
def set (container : Container) (name : String) (value : Value) (store : Store) :
    Container × Store :=
  let (container, store) :=
    match container.values.get? name with
    | some old => if old.sameNode value then (container, store) else container.retire name old store
    | none => (container, store)
  let (container, store) := container.watch name value store
  (container, container.markDirty [name] store)

/-- The marked names. -/
def changes (container : Container) (store : Store) : NameSet := store.marked container.changeset

/-- Forgets the marks. -/
def resetChanges (container : Container) (store : Store) : Store :=
  store.modifyChangeset container.changeset fun _ => NameSet.empty

/--
Takes the observers of the container off every stored value, retires them, and forgets values and
marks. Observers of other containers stay.
-/
def cleanup (container : Container) (store : Store) : Container × Store :=
  let observers := container.observers.values
  let detachAll (store : Store) (value : Value) : Store :=
    observers.foldl (fun store observer => store.detachObserver value observer) store
  let store := container.values.values.foldl detachAll store
  let store := observers.foldl (fun store observer => store.retire observer) store
  let cleared := ⟨OrderedMap.empty, container.changeset, OrderedMap.empty⟩
  (cleared, cleared.resetChanges store)

/-- Ends a container: what its observers would mark is gone. -/
def drop (container : Container) (store : Store) : Store :=
  let (container, store) :=
    if container.values.isEmpty then (container, store) else container.cleanup store
  store.dropChangeset container.changeset

/-- The diagnostic text of a container. -/
def debug (container : Container) (store : Store) : String :=
  let values := container.values.entries.map fun entry =>
    Text.quoted entry.1 ++ ": " ++ entry.2.debug store
  let names := (container.changes store).names.map Text.quoted
  "Container \x7b values: \x7b" ++ String.intercalate ", " values ++
    "\x7d, changeset: Changeset(\x7b" ++ String.intercalate ", " names ++ "\x7d) \x7d"

end Container

end ReactiveView
