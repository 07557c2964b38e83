/-
**The fields of a record are found under their names**, wherever they stand in its object.

* `RowMeans` — members with what they mean.
* `exists_namedMembers?` — the names of members that mean something are understood.
* `Written.fields?_eq_some_iff` — the fields of an object, each under its name, and in a strict record nothing
  else.
-/

import ReactiveView.Json.Fields
import ReactiveView.Proofs.Json.Meaning

namespace ReactiveView.Json

/-- A list is computed from another just if each of its elements is. -/
theorem mapM_eq_some_iff {α β : Type} {f : α → Option β} {list : List α} {results : List β} :
    list.mapM f = some results ↔ List.Forall₂ (fun one result => f one = some result) list results := by
  induction list generalizing results with
  | nil =>
    rw [List.mapM_nil, List.forall₂_nil_left_iff]
    exact ⟨fun same => (Option.some.inj same).symm, fun same => same ▸ rfl⟩
  | cons one list ih =>
    rw [List.mapM_cons, List.forall₂_cons_left_iff]
    simp only [Option.bind_eq_bind, Option.bind_eq_some_iff, Option.pure_def, Option.some.injEq, ih]
    constructor
    · rintro ⟨result, first, others, rest, rfl⟩
      exact ⟨result, others, first, rest, rfl⟩
    · rintro ⟨result, others, first, rest, rfl⟩
      exact ⟨result, first, others, rest, rfl⟩

/-- What is related to a list one by one has something related to each of its elements. -/
theorem exists_of_forall₂_of_mem {α β : Type} {relation : α → β → Prop} {list : List α} {others : List β}
    (related : List.Forall₂ relation list others) {other : β} (member : other ∈ others) :
    ∃ one ∈ list, relation one other := by
  induction related with
  | nil => cases member
  | cons first _ ih =>
    rcases List.mem_cons.mp member with rfl | later
    · exact ⟨_, List.mem_cons_self, first⟩
    · obtain ⟨one, inside, related⟩ := ih later
      exact ⟨one, List.mem_cons_of_mem _ inside, related⟩

/-! ### Members that mean something -/

/-- Members, with their names understood, mean pairs of names and values. -/
def RowMeans (row : List (String × Written)) (pairs : List (String × Json)) : Prop :=
  List.Forall₂ (fun written pair => written.1 = pair.1 ∧ written.2.Means pair.2) row pairs

/-- The names of members that mean something are understood. -/
theorem exists_namedMembers? : ∀ {members : List (List Piece × Written)} {pairs : List (String × Json)},
    Written.MembersMean members pairs →
      ∃ row, (Written.object members).namedMembers? = some row ∧ RowMeans row pairs
  | _, _, .nil => ⟨[], rfl, .nil⟩
  | _, _, @Written.MembersMean.cons pieces name item value members pairs named first rest => by
    obtain ⟨row, understood, means⟩ := exists_namedMembers? rest
    refine ⟨(name, item) :: row, ?_, .cons ⟨rfl, first⟩ means⟩
    rw [Written.namedMembers?, mapM_eq_some_iff] at understood ⊢
    refine .cons ?_ understood
    rw [named]
    rfl

theorem RowMeans.keys_eq {row : List (String × Written)} {pairs : List (String × Json)}
    (means : RowMeans row pairs) : row.map Prod.fst = pairs.map Prod.fst := by
  rw [← List.forall₂_eq_eq_eq, List.forall₂_map_left_iff, List.forall₂_map_right_iff]
  exact means.imp fun _ _ both => both.1

/-- Something is written for each of the pairs. -/
theorem RowMeans.exists_of_mem {row : List (String × Written)} {pairs : List (String × Json)}
    (means : RowMeans row pairs) {name : String} {value : Json} (member : (name, value) ∈ pairs) :
    ∃ written, (name, written) ∈ row ∧ written.Means value := by
  obtain ⟨⟨_, written⟩, inside, rfl, means⟩ := exists_of_forall₂_of_mem means member
  exact ⟨written, inside, means⟩

namespace Written

/-- What means a string is read as the string. -/
theorem text?_of_means {written : Written} {value : String} (means : written.Means (.string value)) :
    written.text? = some value := by
  cases means with
  | string means => exact means

theorem optionalText?_of_means {written : Written} {value : String} (means : written.Means (.string value)) :
    written.optionalText? = some (some value) := by
  have text := text?_of_means means
  cases means with
  | string _ =>
    rw [optionalText?, text]
    · rfl
    · exact nofun

/-! ### Fields -/

theorem under_of_notMem {name : String} {row : List (String × Written)}
    (absent : name ∉ row.map Prod.fst) : under name row = [] := by
  rw [under, List.map_eq_nil_iff, List.filter_eq_nil_iff]
  rintro member inside same
  exact absent (List.mem_map.mpr ⟨member, inside, eq_of_beq same⟩)

theorem under_of_mem {name : String} {written : Written} {row : List (String × Written)}
    (distinct : (row.map Prod.fst).Nodup) (member : (name, written) ∈ row) :
    under name row = [written] := by
  induction row with
  | nil => cases member
  | cons first row ih =>
    rw [List.map_cons, List.nodup_cons] at distinct
    rcases List.mem_cons.mp member with rfl | later
    · have none := under_of_notMem distinct.1
      rw [under, List.map_eq_nil_iff] at none
      rw [under, List.filter_cons_of_pos (by exact beq_self_eq_true name), none]
      rfl
    · have other : first.1 ≠ name := fun same =>
        distinct.1 (List.mem_map.mpr ⟨_, later, same.symm⟩)
      rw [under, List.filter_cons_of_neg (by simpa using other)]
      exact ih distinct.2 later

/-- Nothing stands under a name that is not there. -/
theorem atMostOne?_of_notMem {name : String} {row : List (String × Written)}
    (absent : name ∉ row.map Prod.fst) : atMostOne? (under name row) = some none := by
  rw [under_of_notMem absent]
  rfl

/-- What stands under a name that is there once is found. -/
theorem atMostOne?_of_mem {name : String} {written : Written} {row : List (String × Written)}
    (distinct : (row.map Prod.fst).Nodup) (member : (name, written) ∈ row) :
    atMostOne? (under name row) = some (some written) := by
  rw [under_of_mem distinct member]
  rfl

/-- What stands under a name is what is found there, if there are not several. -/
theorem eq_of_atMostOne? {name : String} {written : Written} {row : List (String × Written)}
    {field : Option Written} (found : atMostOne? (under name row) = some field)
    (member : (name, written) ∈ row) : field = some written := by
  have inside : written ∈ under name row :=
    List.mem_map.mpr ⟨_, List.mem_filter.mpr ⟨member, beq_self_eq_true name⟩, rfl⟩
  match under name row, found, inside with
  | [one], found, inside =>
    rw [List.mem_singleton.mp inside]
    exact (Option.some.inj found).symm

/-- **The fields of an object**: what stands under each name, at most once; a strict record has no others. -/
theorem fields?_eq_some_iff {strict : Bool} {names : List String} {written : Written}
    {row : List (String × Written)} {fields : List (Option Written)}
    (named : written.namedMembers? = some row) : written.fields? strict names = some fields ↔
      (strict = true → ∀ member ∈ row, member.1 ∈ names) ∧
        List.Forall₂ (fun name field => atMostOne? (under name row) = some field) names fields := by
  have noList : ∀ items, written ≠ .array items := by
    rintro items rfl
    cases named
  have known : (strict && row.any fun member => !names.contains member.1) = false ↔
      (strict = true → ∀ member ∈ row, member.1 ∈ names) := by
    cases strict <;> simp
  rw [fields?, named, ← known, ← mapM_eq_some_iff]
  · simp only [Option.bind_eq_bind, Option.bind_some]
    cases strict && row.any fun member => !names.contains member.1 with
    | true => simp
    | false => simp
  · exact noList

end Written

end ReactiveView.Json
