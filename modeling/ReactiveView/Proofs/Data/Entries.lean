/-
**Entries of ordered maps.**

What a map holds under a key is one of its entries, and the others are what is left when the key is taken
out, in their order. What is written twice under a key is what was written last.

* `OrderedMap.mem_entries_iff` — the value of an entry is the one under its key.
* `OrderedMap.mem_of_get?_ofList` — what is under a key of a map made of pairs is one of them.
* `OrderedMap.insert_insert`, `OrderedMap.erase_insert` — what was there before does not matter.
* `OrderedMap.ofList_entries`, `OrderedMap.keys_ofList`, `OrderedMap.get?_ofList` — the map of some pairs.
* `OrderedMap.insert_comm` — under two keys that are there it may be written in either order.
* `OrderedMap.perm_values` — what stands under a key, and what stands under the others.
-/

import Mathlib.Data.List.Induction
import Mathlib.Data.List.Perm.Basic
import ReactiveView.Data.OrderedMap

namespace ReactiveView.OrderedMap

variable {κ α : Type} [DecidableEq κ] {m : OrderedMap κ α} {key : κ} {value : α}

theorem put_put (key : κ) (value last : α) (entries : List (κ × α)) :
    put key last (put key value entries) = put key last entries := by
  induction entries with
  | nil => simp [put]
  | cons entry rest ih =>
    obtain ⟨known, old⟩ := entry
    by_cases same : known = key
    · simp [put, same]
    · simp [put, same, ih]

/-- What is written twice under a key is what was written last. -/
theorem insert_insert (m : OrderedMap κ α) (key : κ) (value last : α) :
    (m.insert key value).insert key last = m.insert key last :=
  ext_entries (put_put key value last m.entries)

/-- The value of an entry is the one under its key. -/
theorem mem_entries_iff : (key, value) ∈ m.entries ↔ m.get? key = some value := by
  obtain ⟨entries, distinct⟩ := m
  simp only [get?]
  induction entries with
  | nil => simp
  | cons entry rest ih =>
    obtain ⟨known, held⟩ := entry
    rw [List.map_cons, List.nodup_cons] at distinct
    rw [List.mem_cons, List.lookup_cons, ih distinct.2]
    by_cases same : key = known
    · subst same
      have absent : rest.lookup key ≠ some value := fun found => distinct.1
        (List.mem_map.mpr ⟨(key, value), (ih distinct.2).mpr found, rfl⟩)
      simp [absent, eq_comm]
    · have other : (key == known) = false := by simpa using same
      simp [same, other]

theorem mem_of_get?_insertAll {pairs : List (κ × α)}
    (found : (m.insertAll pairs).get? key = some value) :
    (key, value) ∈ pairs ∨ m.get? key = some value := by
  induction pairs generalizing m with
  | nil => exact Or.inr found
  | cons pair rest ih =>
    obtain ⟨known, first⟩ := pair
    rcases ih found with later | earlier
    · exact Or.inl (List.mem_cons_of_mem _ later)
    · by_cases same : key = known
      · subst same
        rw [get?_insert_self] at earlier
        cases earlier
        exact Or.inl List.mem_cons_self
      · rw [get?_insert_of_ne _ same] at earlier
        exact Or.inr earlier

/-- What is under a key was given under it. -/
theorem mem_of_get?_ofList {pairs : List (κ × α)}
    (found : (ofList pairs).get? key = some value) : (key, value) ∈ pairs :=
  (mem_of_get?_insertAll found).resolve_right nofun

/-- What was written under a key does not matter once the key is taken out. -/
theorem erase_insert (m : OrderedMap κ α) (key : κ) (value : α) :
    (m.insert key value).erase key = m.erase key := by
  refine ext_entries ?_
  simp only [insert, erase, filter]
  induction m.entries with
  | nil => simp [put]
  | cons entry rest ih =>
    unfold put
    split
    · next same => simp [same]
    · next ne => rw [List.filter_cons, List.filter_cons, ih]

theorem erase_of_absent (absent : m.get? key = none) : m.erase key = m := by
  refine ext_entries (List.filter_eq_self.mpr fun entry member => decide_eq_true fun same => ?_)
  have held : key ∈ m.keys := List.mem_map.mpr ⟨entry, member, same⟩
  rw [mem_keys_iff, absent] at held
  cases held

/-- **What stands under a key, and what stands under the others.** -/
theorem perm_values (found : m.get? key = some value) :
    m.values.Perm (value :: (m.erase key).values) := by
  obtain ⟨entries, nodup⟩ := m
  simp only [get?, values, erase, filter] at found ⊢
  induction entries with
  | nil => cases found
  | cons entry rest ih =>
    obtain ⟨known, first⟩ := entry
    rw [List.map_cons, List.nodup_cons] at nodup
    by_cases same : key = known
    · subst same
      have others : rest.filter (fun entry => decide (entry.1 ≠ key)) = rest := by
        rw [List.filter_eq_self]
        intro entry member
        have ne : entry.1 ≠ key := fun eq => nodup.1 (List.mem_map.mpr ⟨entry, member, eq⟩)
        exact decide_eq_true ne
      rw [List.lookup_cons, beq_self_eq_true] at found
      cases found
      rw [List.filter_cons_of_neg (by simp), others]
      exact .refl _
    · have other : (key == known) = false := by simpa using same
      rw [List.lookup_cons, other] at found
      rw [List.filter_cons_of_pos (by simpa using Ne.symm same)]
      exact ((ih nodup.2 found).cons first).trans (List.Perm.swap ..)

/-- **The entries of two maps with the same keys** in the same order, one by one. -/
theorem forall₂_entries {β : Type} {relation : α → β → Prop} {left : OrderedMap κ α}
    {right : OrderedMap κ β} (keys : right.keys = left.keys)
    (related : ∀ key, Option.Rel relation (left.get? key) (right.get? key)) :
    List.Forall₂ (fun one two => one.1 = two.1 ∧ relation one.2 two.2) left.entries
      right.entries := by
  have all : List.Forall₂ Eq (left.entries.map Prod.fst) (right.entries.map Prod.fst) := by
    rw [List.forall₂_eq_eq_eq]
    exact keys.symm
  have firsts := List.forall₂_map_right_iff.mp (List.forall₂_map_left_iff.mp all)
  rw [List.forall₂_iff_zip] at firsts ⊢
  refine ⟨firsts.1, fun {one two} member => ?_⟩
  have same := firsts.2 member
  obtain ⟨here, there⟩ := List.of_mem_zip member
  obtain ⟨key, value⟩ := one
  obtain ⟨known, other⟩ := two
  obtain rfl : key = known := same
  have place := related key
  rw [mem_entries_iff.mp here, mem_entries_iff.mp there] at place
  cases place with
  | some place => exact ⟨rfl, place⟩

/-- What is written under two keys that are there may be written in either order. -/
theorem insert_comm {one two : κ} (distinct : one ≠ two) (here : one ∈ m.keys) (there : two ∈ m.keys)
    (first second : α) :
    (m.insert one first).insert two second = (m.insert two second).insert one first := by
  have puts (list : List (κ × α)) (here : one ∈ list.map Prod.fst) (there : two ∈ list.map Prod.fst) :
      put two second (put one first list) = put one first (put two second list) := by
    induction list with
    | nil => cases here
    | cons entry rest ih =>
      obtain ⟨known, old⟩ := entry
      rw [List.map_cons, List.mem_cons] at here there
      by_cases isOne : known = one
      · subst isOne
        simp [put, distinct]
      · by_cases isTwo : known = two
        · subst isTwo
          simp [put, isOne]
        · simp only [put, isOne, isTwo, if_false]
          rw [ih (here.resolve_left (Ne.symm isOne)) (there.resolve_left (Ne.symm isTwo))]
  exact ext_entries (puts m.entries here there)

/-! ### The map of some pairs -/

theorem put_of_notMem {entries : List (κ × α)} (absent : key ∉ entries.map Prod.fst) (value : α) :
    put key value entries = entries ++ [(key, value)] := by
  induction entries with
  | nil => rfl
  | cons entry rest ih =>
    obtain ⟨known, old⟩ := entry
    rw [List.map_cons, List.mem_cons, not_or] at absent
    rw [put, if_neg (Ne.symm absent.1), ih absent.2]
    rfl

theorem insertAll_append (m : OrderedMap κ α) (pairs more : List (κ × α)) :
    m.insertAll (pairs ++ more) = (m.insertAll pairs).insertAll more :=
  List.foldl_append

/-- Pairs under keys of their own come behind what is there. -/
theorem entries_insertAll {pairs : List (κ × α)}
    (distinct : (m.entries.map Prod.fst ++ pairs.map Prod.fst).Nodup) :
    (m.insertAll pairs).entries = m.entries ++ pairs := by
  induction pairs generalizing m with
  | nil => exact (List.append_nil _).symm
  | cons pair rest ih =>
    have absent : pair.1 ∉ m.entries.map Prod.fst := fun member =>
      (List.nodup_append.mp distinct).2.2 pair.1 member pair.1 List.mem_cons_self rfl
    have written : (m.insert pair.1 pair.2).entries = m.entries ++ [pair] :=
      put_of_notMem absent pair.2
    have later : ((m.insert pair.1 pair.2).insertAll rest).entries =
        (m.insert pair.1 pair.2).entries ++ rest := by
      refine ih ?_
      rw [written, List.map_append, List.append_assoc]
      exact distinct
    rw [written, List.append_assoc] at later
    exact later

/-- Pairs under distinct keys are the entries of their map. -/
theorem entries_ofList {pairs : List (κ × α)} (distinct : (pairs.map Prod.fst).Nodup) :
    (ofList pairs).entries = pairs :=
  entries_insertAll (m := empty) distinct

/-- **A map is the one of its entries.** -/
theorem ofList_entries (m : OrderedMap κ α) : ofList m.entries = m :=
  ext_entries (entries_ofList m.nodup)

theorem ofList_append_singleton (pairs : List (κ × α)) (pair : κ × α) :
    ofList (pairs ++ [pair]) = (ofList pairs).insert pair.1 pair.2 :=
  insertAll_append _ pairs [pair]

/-- **Each key is there once, at the place of its first pair.** -/
theorem keys_ofList (pairs : List (κ × α)) : (ofList pairs).keys = (pairs.map Prod.fst).eraseDups := by
  induction pairs using List.reverseRecOn with
  | nil => rfl
  | append_singleton pairs pair ih =>
    rw [ofList_append_singleton, keys_insert, ih, List.map_append, List.eraseDups_append,
      List.map_singleton]
    by_cases known : pair.1 ∈ pairs.map Prod.fst
    · rw [if_pos (List.mem_eraseDups.mpr known)]
      simp [List.removeAll, known]
    · rw [if_neg fun member => known (List.mem_eraseDups.mp member)]
      simp [List.removeAll, known, List.eraseDups_cons]

/-- **Under each key is the value of its last pair.** -/
theorem get?_ofList (pairs : List (κ × α)) (key : κ) :
    (ofList pairs).get? key = pairs.reverse.lookup key := by
  induction pairs using List.reverseRecOn with
  | nil => rfl
  | append_singleton pairs pair ih =>
    rw [ofList_append_singleton, List.reverse_append, List.reverse_singleton, List.singleton_append,
      List.lookup_cons]
    by_cases same : key = pair.1
    · subst same
      rw [get?_insert_self, beq_self_eq_true]
    · rw [get?_insert_of_ne _ same, ih, beq_eq_false_iff_ne.mpr same]

end ReactiveView.OrderedMap
