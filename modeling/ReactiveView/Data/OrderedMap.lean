/-
**Maps that remember the order in which their keys came.**

A map is the list of its entries, each key once. A key that is written again keeps its place and
takes the new value; a key that is removed leaves the others in their order.

* `get?_insert_self`, `get?_insert_of_ne` — a write is read back under its key and nowhere else.
* `keys_insert` — a new key comes last, a known key stays where it was.
* `get?_erase_self`, `get?_erase_of_ne`, `keys_erase` — a removal takes out one key, leaves the
  others and keeps their order.
-/

namespace ReactiveView

universe u v w

/-- A finite map whose entries have an order and whose keys are distinct. -/
structure OrderedMap (κ : Type u) (α : Type v) where
  entries : List (κ × α)
  nodup : (entries.map Prod.fst).Nodup

namespace OrderedMap

variable {κ : Type u} {α : Type v} {β : Type w}

/-- The map without entries. -/
def empty : OrderedMap κ α := ⟨[], List.nodup_nil⟩

instance : Inhabited (OrderedMap κ α) := ⟨empty⟩

instance : EmptyCollection (OrderedMap κ α) := ⟨empty⟩

theorem ext_entries {m other : OrderedMap κ α} (same : m.entries = other.entries) : m = other := by
  cases m
  cases other
  cases same
  rfl

/-- The keys, oldest first. -/
def keys (m : OrderedMap κ α) : List κ := m.entries.map Prod.fst

/-- The values, in the order of their keys. -/
def values (m : OrderedMap κ α) : List α := m.entries.map Prod.snd

/-- The number of keys. -/
def size (m : OrderedMap κ α) : Nat := m.entries.length

/-- A map is empty when it has no entry. -/
def isEmpty (m : OrderedMap κ α) : Bool := m.entries.isEmpty

/-- The entries for which `keep` holds, in their order. -/
def filter (m : OrderedMap κ α) (keep : κ → α → Bool) : OrderedMap κ α :=
  ⟨m.entries.filter fun entry => keep entry.1 entry.2,
    (List.filter_sublist.map Prod.fst).nodup m.nodup⟩

/-- The same keys in the same order, each value replaced by its image. -/
def mapValues (m : OrderedMap κ α) (f : α → β) : OrderedMap κ β :=
  ⟨m.entries.map fun entry => (entry.1, f entry.2), by
    simpa [List.map_map, Function.comp_def] using m.nodup⟩

variable [DecidableEq κ]

/-- The value under `key`, if there is one. -/
def get? (m : OrderedMap κ α) (key : κ) : Option α := m.entries.lookup key

/-- Whether `key` has a value. -/
def contains (m : OrderedMap κ α) (key : κ) : Bool := (m.get? key).isSome

/-- Whether two maps have the same keys, in any order, and values that `eqv` takes for equal. -/
def isEqv (m other : OrderedMap κ α) (eqv : α → α → Bool) : Bool :=
  m.size == other.size && m.entries.all fun entry => (other.get? entry.1).any (eqv entry.2)

/-- Writes into a list of entries: over the entry of `key`, or after all others. -/
def put (key : κ) (value : α) : List (κ × α) → List (κ × α)
  | [] => [(key, value)]
  | (known, old) :: rest =>
    if known = key then (known, value) :: rest else (known, old) :: put key value rest

theorem map_fst_put (key : κ) (value : α) (entries : List (κ × α)) :
    (put key value entries).map Prod.fst =
      if key ∈ entries.map Prod.fst then entries.map Prod.fst
      else entries.map Prod.fst ++ [key] := by
  induction entries with
  | nil => simp [put]
  | cons entry rest ih =>
    obtain ⟨known, old⟩ := entry
    by_cases same : known = key
    · simp [put, same]
    · have other : ¬ key = known := fun eq => same eq.symm
      simp only [put, same, if_false, List.map_cons, ih, List.mem_cons, other, false_or]
      split <;> simp

theorem nodup_put (key : κ) (value : α) (entries : List (κ × α))
    (distinct : (entries.map Prod.fst).Nodup) : ((put key value entries).map Prod.fst).Nodup := by
  rw [map_fst_put]
  split
  · exact distinct
  · next absent =>
    rw [List.nodup_append]
    refine ⟨distinct, by simp, ?_⟩
    intro known member last isLast same
    rw [List.mem_singleton] at isLast
    exact absent (isLast ▸ same ▸ member)

/-- Writes `value` under `key`; a key that is already there keeps its place. -/
def insert (m : OrderedMap κ α) (key : κ) (value : α) : OrderedMap κ α :=
  ⟨put key value m.entries, nodup_put key value m.entries m.nodup⟩

/-- Takes `key` out and keeps the order of the others. -/
def erase (m : OrderedMap κ α) (key : κ) : OrderedMap κ α := m.filter fun known _ => known ≠ key

/-- Writes every pair of a list, first to last. -/
def insertAll (m : OrderedMap κ α) (pairs : List (κ × α)) : OrderedMap κ α :=
  pairs.foldl (fun sofar pair => sofar.insert pair.1 pair.2) m

/-- The map of some pairs: a repeated key has the place of its first pair, the value of its last. -/
def ofList (pairs : List (κ × α)) : OrderedMap κ α := empty.insertAll pairs

/-! ### Reading what was written -/

theorem lookup_put_self (key : κ) (value : α) (entries : List (κ × α)) :
    (put key value entries).lookup key = some value := by
  induction entries with
  | nil => simp [put]
  | cons entry rest ih =>
    obtain ⟨known, old⟩ := entry
    by_cases same : known = key
    · simp [put, same]
    · have other : (key == known) = false := by simpa using fun eq => same eq.symm
      simp [put, same, List.lookup_cons, other, ih]

theorem lookup_put_of_ne {key asked : κ} (ne : asked ≠ key) (value : α) (entries : List (κ × α)) :
    (put key value entries).lookup asked = entries.lookup asked := by
  have other : (asked == key) = false := by simpa using ne
  induction entries with
  | nil => simp [put, List.lookup_cons, other]
  | cons entry rest ih =>
    obtain ⟨known, old⟩ := entry
    by_cases same : known = key
    · subst same
      simp [put, List.lookup_cons, other]
    · simp only [put, same, if_false, List.lookup_cons, ih]

@[simp] theorem get?_insert_self (m : OrderedMap κ α) (key : κ) (value : α) :
    (m.insert key value).get? key = some value := lookup_put_self key value m.entries

theorem get?_insert_of_ne (m : OrderedMap κ α) {key asked : κ} (ne : asked ≠ key) (value : α) :
    (m.insert key value).get? asked = m.get? asked := lookup_put_of_ne ne value m.entries

theorem keys_insert (m : OrderedMap κ α) (key : κ) (value : α) :
    (m.insert key value).keys = if key ∈ m.keys then m.keys else m.keys ++ [key] :=
  map_fst_put key value m.entries

theorem keys_erase (m : OrderedMap κ α) (key : κ) :
    (m.erase key).keys = m.keys.filter (· ≠ key) := by
  simp [keys, erase, filter, List.filter_map, Function.comp_def]

theorem mem_keys_iff (m : OrderedMap κ α) (key : κ) : key ∈ m.keys ↔ (m.get? key).isSome := by
  simp only [keys, get?]
  induction m.entries with
  | nil => simp
  | cons entry rest ih =>
    obtain ⟨known, value⟩ := entry
    by_cases same : key = known
    · simp [same]
    · have other : (key == known) = false := by simpa using same
      simp only [List.map_cons, List.mem_cons, same, false_or, List.lookup_cons, other]
      exact ih

@[simp] theorem get?_erase_self (m : OrderedMap κ α) (key : κ) : (m.erase key).get? key = none := by
  have absent : key ∉ (m.erase key).keys := by simp [keys_erase]
  rw [mem_keys_iff] at absent
  simpa using absent

theorem get?_erase_of_ne (m : OrderedMap κ α) {key asked : κ} (ne : asked ≠ key) :
    (m.erase key).get? asked = m.get? asked := by
  simp only [get?, erase, filter]
  induction m.entries with
  | nil => rfl
  | cons entry rest ih =>
    obtain ⟨known, value⟩ := entry
    by_cases same : known = key
    · subst same
      have other : (asked == known) = false := by simpa using ne
      rw [List.lookup_cons, other, List.filter_cons_of_neg (by simp), ih]
    · simp only [List.filter_cons, ne_eq, same, not_false_eq_true, decide_true, if_true,
        List.lookup_cons, ih]

/-- The values are what the keys have. -/
theorem mem_values_iff (m : OrderedMap κ α) (value : α) :
    value ∈ m.values ↔ ∃ key, m.get? key = some value := by
  simp only [values, get?, List.lookup_eq_some_iff, List.mem_map]
  constructor
  · rintro ⟨⟨key, value⟩, member, rfl⟩
    obtain ⟨before, after, split⟩ := List.append_of_mem member
    have distinct := m.nodup
    rw [split, List.map_append, List.map_cons, List.nodup_append] at distinct
    refine ⟨key, before, after, split, fun entry earlier => ?_⟩
    simpa using (distinct.2.2 entry.1 (List.mem_map_of_mem earlier) key List.mem_cons_self).symm
  · rintro ⟨key, before, after, split, _⟩
    exact ⟨(key, value), by simp [split], rfl⟩

/-- What all values weigh together. -/
def weigh (m : OrderedMap κ α) (weight : α → Nat) : Nat :=
  m.values.foldr (fun value total => weight value + total) 0

/-- What a key contributes to the weight of all values is lost when it is removed. -/
theorem weigh_erase {m : OrderedMap κ α} {key : κ} {value : α}
    (found : m.get? key = some value) (weight : α → Nat) :
    (m.erase key).weigh weight + weight value = m.weigh weight := by
  obtain ⟨entries, nodup⟩ := m
  simp only [get?, weigh, values, erase, filter] at found ⊢
  induction entries with
  | nil => cases found
  | cons entry rest ih =>
    obtain ⟨known, first⟩ := entry
    rw [List.map_cons, List.nodup_cons] at nodup
    by_cases same : key = known
    · subst same
      have others : rest.filter (fun entry => decide (entry.1 ≠ key)) = rest := by
        rw [List.filter_eq_self]
        intro entry member
        have ne : entry.1 ≠ key := fun eq => nodup.1 (List.mem_map.mpr ⟨entry, member, eq⟩)
        exact decide_eq_true ne
      rw [List.lookup_cons, beq_self_eq_true] at found
      cases found
      rw [List.filter_cons_of_neg (by simp), others]
      simp only [List.map_cons, List.foldr_cons]
      omega
    · have other : (key == known) = false := by simpa using same
      rw [List.lookup_cons, other] at found
      have kept := ih nodup.2 found
      rw [List.filter_cons_of_pos (by simpa using Ne.symm same)]
      simp only [List.map_cons, List.foldr_cons]
      omega

/-- The entries sorted by their keys. -/
def sortByKey (m : OrderedMap String α) : OrderedMap String α :=
  ⟨m.entries.mergeSort fun left right => decide (left.1 ≤ right.1),
    ((List.mergeSort_perm m.entries _).map Prod.fst).nodup_iff.mpr m.nodup⟩

end OrderedMap

end ReactiveView
