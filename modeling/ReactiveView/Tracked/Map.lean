/-
**Tracked maps and records.**

A map has entries in the order in which their keys came. A record has a type name and fields that
never change their number. As with lists, reading marks nothing and passes the bindings on, and
every writing operation that succeeds marks each name once.

* `TrackedRecord.set` — a field that the record does not have is refused, and then nothing is
  marked.
-/

import ReactiveView.Error
import ReactiveView.Tracked.Tree

namespace ReactiveView

namespace TrackedMap

/-! ### Reading -/

/-- The value under a key, carrying the bindings of the map. -/
def get (map : Ref) (key : String) (store : Store) : Option Value × Store :=
  match (store.entries map).get? key with
  | some value => (some value, store.inherit value (store.bindings map))
  | none => (none, store)

/-- All entries, each value carrying the bindings of the map. -/
def iterate (map : Ref) (store : Store) : List (String × Value) × Store :=
  let entries := store.entries map
  (entries.entries, store.inheritAll entries.values (store.bindings map))

/-- A new map of the entries for which `keep` holds; all values carry the bindings of the map. -/
def select (map : Ref) (keep : String → Value → Bool) (store : Store) : Ref × Store :=
  let kept := (store.entries map).filter keep
  let (_, store) := iterate map store
  store.derive map (.map kept)

/-! ### Writing -/

/-- Replaces all entries and marks every name. -/
def write (map : Ref) (entries : OrderedMap String Value) (store : Store) : Store :=
  store.mutate map (.map entries)

/-- Writes a value under a key and gives the one that was there. -/
def insert (map : Ref) (key : String) (value : Value) (store : Store) : Option Value × Store :=
  let entries := store.entries map
  (entries.get? key, write map (entries.insert key value) store)

/-- Takes a key out and gives its value. -/
def remove (map : Ref) (key : String) (store : Store) : Option Value × Store :=
  let entries := store.entries map
  (entries.get? key, write map (entries.erase key) store)

/-- Takes all entries out. -/
def clear (map : Ref) (store : Store) : Store := write map OrderedMap.empty store

/-- Writes several entries, first to last. -/
def extend (map : Ref) (pairs : List (String × Value)) (store : Store) : Store :=
  write map ((store.entries map).insertAll pairs) store

/-- Writes the entries of another map. -/
def merge (map other : Ref) (store : Store) : Store :=
  extend map (store.entries other).entries store

/-- Takes out the entries for which `keep` does not hold. -/
def retain (map : Ref) (keep : String → Value → Bool) (store : Store) : Store :=
  write map ((store.entries map).filter keep) store

/-- Puts the entries into the order of their keys. -/
def sortKeys (map : Ref) (store : Store) : Store := write map (store.entries map).sortByKey store

end TrackedMap

namespace TrackedRecord

/-- The value of a field, carrying the bindings of the record. -/
def get (record : Ref) (field : String) (store : Store) : Option Value × Store :=
  match (store.fields record).get? field with
  | some value => (some value, store.inherit value (store.bindings record))
  | none => (none, store)

/-- Assigns a field and gives its earlier value. -/
def set (record : Ref) (field : String) (value : Value) (store : Store) :
    Except Error Value × Store :=
  let fields := store.fields record
  match fields.get? field with
  | some old =>
    (.ok old, store.mutate record (.record (store.recordName record) (fields.insert field value)))
  | none => (.error (.unknownField (store.recordName record) field), store)

/-- A new map of the fields, with the bindings of the record. -/
def toMap (record : Ref) (store : Store) : Ref × Store :=
  store.derive record (.map (store.fields record))

end TrackedRecord

end ReactiveView
