/-
**Finite sets of names, always listed in ascending order.**

Names are compared code point by code point, so the order is that of their UTF-8 bytes. The sorted
list is the set: two sets with the same members are equal.

* `mem_insert`, `mem_union`, `mem_ofList` — membership after each operation.
* `sorted` — every set lists its names strictly ascending, hence without repetition.
-/

namespace ReactiveView

/-- A set of names, held as a strictly ascending list. -/
structure NameSet where
  names : List String
  sorted : names.Pairwise (· < ·)
deriving DecidableEq

namespace NameSet

/-- The set without members. -/
def empty : NameSet := ⟨[], List.Pairwise.nil⟩

instance : Inhabited NameSet := ⟨empty⟩

instance : EmptyCollection NameSet := ⟨empty⟩

instance : Membership String NameSet := ⟨fun set name => name ∈ set.names⟩

instance (name : String) (set : NameSet) : Decidable (name ∈ set) :=
  inferInstanceAs (Decidable (name ∈ set.names))

/-- Whether `name` is a member. -/
def contains (set : NameSet) (name : String) : Bool := decide (name ∈ set)

/-- Whether the set has no member. -/
def isEmpty (set : NameSet) : Bool := set.names.isEmpty

/-- The number of members. -/
def size (set : NameSet) : Nat := set.names.length

/-- Puts a name into an ascending list, unless it is there. -/
def place (name : String) : List String → List String
  | [] => [name]
  | first :: rest =>
    if name = first then first :: rest
    else if name < first then name :: first :: rest
    else first :: place name rest

theorem mem_place (name member : String) (names : List String) :
    member ∈ place name names ↔ member = name ∨ member ∈ names := by
  induction names with
  | nil => simp [place]
  | cons first rest ih =>
    by_cases same : name = first
    · subst same
      simp [place]
    · by_cases before : name < first
      · simp [place, same, before]
      · simp only [place, same, before, if_false, List.mem_cons, ih]
        constructor
        · rintro (h | h | h) <;> simp [h]
        · rintro (h | h | h) <;> simp [h]

theorem place_sorted (name : String) (names : List String)
    (ascending : names.Pairwise (· < ·)) : (place name names).Pairwise (· < ·) := by
  induction names with
  | nil => simp [place]
  | cons first rest ih =>
    rw [List.pairwise_cons] at ascending
    by_cases same : name = first
    · simpa [place, same] using ascending
    · by_cases before : name < first
      · simp only [place, same, before, if_true, if_false, List.pairwise_cons, List.mem_cons]
        refine ⟨?_, ascending⟩
        rintro other (rfl | member)
        · exact before
        · exact String.lt_trans before (ascending.1 other member)
      · simp only [place, same, before, if_false, List.pairwise_cons]
        refine ⟨?_, ih ascending.2⟩
        intro other member
        rcases (mem_place name other rest).mp member with rfl | member
        · have most : first ≤ other := String.not_lt.mp before
          by_cases least : other ≤ first
          · exact absurd (String.le_antisymm least most) same
          · exact String.not_le.mp least
        · exact ascending.1 other member

/-- The set with `name` added. -/
def insert (set : NameSet) (name : String) : NameSet :=
  ⟨place name set.names, place_sorted name set.names set.sorted⟩

/-- The set with every name of a list added. -/
def insertAll (set : NameSet) (names : List String) : NameSet := names.foldl insert set

/-- The members of either set. -/
def union (set other : NameSet) : NameSet := set.insertAll other.names

/-- The set of the names of a list. -/
def ofList (names : List String) : NameSet := empty.insertAll names

/-- The set with `name` taken out. -/
def erase (set : NameSet) (name : String) : NameSet :=
  ⟨set.names.filter (· ≠ name), set.sorted.filter _⟩

/-- The members of `set` that are not in `other`. -/
def diff (set other : NameSet) : NameSet :=
  ⟨set.names.filter (· ∉ other), set.sorted.filter _⟩

/-- Whether one of `names` is a member. -/
def intersects (set : NameSet) (names : List String) : Bool := names.any set.contains

/-! ### Membership -/

@[simp] theorem mem_insert {set : NameSet} {name member : String} :
    member ∈ set.insert name ↔ member = name ∨ member ∈ set := mem_place name member set.names

@[simp] theorem not_mem_empty {member : String} : ¬ member ∈ empty := List.not_mem_nil

@[simp] theorem mem_insertAll {set : NameSet} {names : List String} {member : String} :
    member ∈ set.insertAll names ↔ member ∈ names ∨ member ∈ set := by
  induction names generalizing set with
  | nil => simp [insertAll]
  | cons name rest ih =>
    have step : set.insertAll (name :: rest) = (set.insert name).insertAll rest := rfl
    rw [step, ih, mem_insert, List.mem_cons]
    constructor
    · rintro (h | h | h) <;> simp [h]
    · rintro ((h | h) | h) <;> simp [h]

@[simp] theorem mem_union {set other : NameSet} {member : String} :
    member ∈ set.union other ↔ member ∈ other ∨ member ∈ set := mem_insertAll

@[simp] theorem mem_ofList {names : List String} {member : String} :
    member ∈ ofList names ↔ member ∈ names := by
  simp [ofList]

@[simp] theorem mem_diff {set other : NameSet} {member : String} :
    member ∈ set.diff other ↔ member ∈ set ∧ member ∉ other := by
  change member ∈ set.names.filter _ ↔ _
  rw [List.mem_filter, decide_eq_true_iff]
  exact Iff.rfl

@[simp] theorem contains_iff {set : NameSet} {name : String} :
    set.contains name = true ↔ name ∈ set := decide_eq_true_iff

end NameSet

end ReactiveView
