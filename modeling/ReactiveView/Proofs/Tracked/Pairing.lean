/-
**Values that look the same from two stores.**

Two runs that do the same make the same nodes, but not at the same places of their stores. A
pairing says which handles of one store stand for which handles of the other. Paired handles hold
paired contents, the pairing is one to one (a value equals itself, whatever it holds), and what
hangs on a paired handle is finite.

* `Value.text_eq_of_paired` — paired values have one text.
* `Value.same_eq_of_paired` — two values are equal exactly if those paired with them are.
-/

import Mathlib.Data.List.Forall2
import Mathlib.Order.Basic
import ReactiveView.Proofs.Tracked.Depth

namespace ReactiveView

/-- Which handles of one store stand for which handles of another. -/
abbrev Pairing := Ref → Ref → Prop

/-! ### Paired values and contents -/

/-- Equal scalars, or handles of one kind that stand for each other. -/
inductive Value.Paired (pairing : Pairing) : Value → Value → Prop
  | scalar {value : Value} (plain : value.ref? = none) : Paired pairing value value
  | list {left right : Ref} (paired : pairing left right) : Paired pairing (.list left) (.list right)
  | map {left right : Ref} (paired : pairing left right) : Paired pairing (.map left) (.map right)
  | record {left right : Ref} (paired : pairing left right) :
    Paired pairing (.record left) (.record right)

/-- Two entries with one key and paired values. -/
def EntryPaired (pairing : Pairing) (left right : String × Value) : Prop :=
  left.1 = right.1 ∧ left.2.Paired pairing right.2

/-- Two maps with the same keys in the same order and paired values. -/
def OrderedMap.Paired (pairing : Pairing) (left right : OrderedMap String Value) : Prop :=
  List.Forall₂ (EntryPaired pairing) left.entries right.entries

/-- Contents of one kind whose values are paired. -/
inductive Content.Paired (pairing : Pairing) : Content → Content → Prop
  | list {left right : List Value} (items : List.Forall₂ (Value.Paired pairing) left right) :
    Paired pairing (.list left) (.list right)
  | map {left right : OrderedMap String Value} (entries : left.Paired pairing right) :
    Paired pairing (.map left) (.map right)
  | record (name : String) {left right : OrderedMap String Value}
    (fields : left.Paired pairing right) :
    Paired pairing (.record name left) (.record name right)

theorem Value.Paired.mono {pairing larger : Pairing} (grows : pairing ≤ larger) {left right : Value}
    (paired : left.Paired pairing right) : left.Paired larger right := by
  cases paired with
  | scalar plain => exact .scalar plain
  | list paired => exact .list (grows _ _ paired)
  | map paired => exact .map (grows _ _ paired)
  | record paired => exact .record (grows _ _ paired)

theorem OrderedMap.Paired.mono {pairing larger : Pairing} (grows : pairing ≤ larger)
    {left right : OrderedMap String Value} (paired : left.Paired pairing right) :
    left.Paired larger right :=
  List.Forall₂.imp (fun _ _ entry => ⟨entry.1, entry.2.mono grows⟩) paired

theorem Content.Paired.mono {pairing larger : Pairing} (grows : pairing ≤ larger)
    {left right : Content} (paired : left.Paired pairing right) : left.Paired larger right := by
  cases paired with
  | list items => exact .list (items.imp fun _ _ item => item.mono grows)
  | map entries => exact .map (OrderedMap.Paired.mono grows entries)
  | record name fields => exact .record name (OrderedMap.Paired.mono grows fields)

/-! ### Paired stores -/

/-- **Stores whose paired handles stand for each other.** -/
structure Store.Paired (pairing : Pairing) (left right : Store) : Prop where
  /-- One handle is paired with one handle only. -/
  one : ∀ {first second : Ref}, pairing first second → ∀ {other another : Ref},
    pairing other another → (first = other ↔ second = another)
  content : ∀ {first second : Ref}, pairing first second →
    (left.content first).Paired pairing (right.content second)
  finiteLeft : ∀ {first second : Ref}, pairing first second → left.Finite first
  finiteRight : ∀ {first second : Ref}, pairing first second → right.Finite second

namespace Store.Paired

/-- Where nothing is paired any two stores are. -/
theorem nothing (left right : Store) : Store.Paired (fun _ _ => False) left right where
  one pair := pair.elim
  content pair := pair.elim
  finiteLeft pair := pair.elim
  finiteRight pair := pair.elim

variable {pairing : Pairing} {left right : Store} (paired : Store.Paired pairing left right)
include paired

theorem items {first second : Ref} (refs : pairing first second) :
    List.Forall₂ (Value.Paired pairing) (left.items first) (right.items second) := by
  have contents := paired.content refs
  unfold Store.items
  generalize left.content first = held, right.content second = other at contents ⊢
  cases contents with
  | list items => exact items
  | map _ => exact .nil
  | record _ _ => exact .nil

theorem entries {first second : Ref} (refs : pairing first second) :
    (left.entries first).Paired pairing (right.entries second) := by
  have contents := paired.content refs
  unfold Store.entries
  generalize left.content first = held, right.content second = other at contents ⊢
  cases contents with
  | map entries => exact entries
  | list _ => exact List.Forall₂.nil
  | record _ _ => exact List.Forall₂.nil

theorem fields {first second : Ref} (refs : pairing first second) :
    (left.fields first).Paired pairing (right.fields second) := by
  have contents := paired.content refs
  unfold Store.fields
  generalize left.content first = held, right.content second = other at contents ⊢
  cases contents with
  | record _ fields => exact fields
  | list _ => exact List.Forall₂.nil
  | map _ => exact List.Forall₂.nil

theorem recordName {first second : Ref} (refs : pairing first second) :
    left.recordName first = right.recordName second := by
  have contents := paired.content refs
  unfold Store.recordName
  generalize left.content first = held, right.content second = other at contents ⊢
  cases contents <;> rfl

end Store.Paired

/-! ### Paired lists -/

section Lists

variable {α β γ : Type} {relation : α → β → Prop}

theorem map_eq_of_forall₂ {left : List α} {right : List β} (all : List.Forall₂ relation left right)
    {f : α → γ} {g : β → γ} (same : ∀ first second, relation first second → f first = g second) :
    left.map f = right.map g := by
  induction all with
  | nil => rfl
  | cons here _ ih => rw [List.map_cons, List.map_cons, same _ _ here, ih]

theorem all_eq_of_forall₂ {left : List α} {right : List β} (all : List.Forall₂ relation left right)
    {f : α → Bool} {g : β → Bool}
    (same : ∀ first second, relation first second → f first = g second) :
    left.all f = right.all g := by
  induction all with
  | nil => rfl
  | cons here _ ih => rw [List.all_cons, List.all_cons, same _ _ here, ih]

theorem isEqv_eq_of_forall₂ {left other : List α} {right another : List β}
    (all : List.Forall₂ relation left right) (others : List.Forall₂ relation other another)
    {f : α → α → Bool} {g : β → β → Bool}
    (same : ∀ first second against opposite, relation first second → relation against opposite →
      f first against = g second opposite) :
    left.isEqv other f = right.isEqv another g := by
  induction all generalizing other another with
  | nil => cases others <;> rfl
  | cons here _ ih =>
    cases others with
    | nil => rfl
    | cons there rest => simp only [List.isEqv, same _ _ _ _ here there, ih rest]

end Lists

theorem lookup_of_forall₂ {pairing : Pairing} {left right : List (String × Value)}
    (all : List.Forall₂ (EntryPaired pairing) left right) (key : String) :
    Option.Rel (Value.Paired pairing) (left.lookup key) (right.lookup key) := by
  induction all with
  | nil => exact .none
  | cons entry _ ih =>
    rw [List.lookup_cons, List.lookup_cons, entry.1]
    split
    · exact .some entry.2
    · exact ih

namespace OrderedMap.Paired

variable {pairing : Pairing} {left right : OrderedMap String Value}
  (paired : left.Paired pairing right)
include paired

theorem keys : left.keys = right.keys := map_eq_of_forall₂ paired fun _ _ entry => entry.1

theorem values : List.Forall₂ (Value.Paired pairing) left.values right.values :=
  List.forall₂_map_left_iff.mpr (List.forall₂_map_right_iff.mpr (paired.imp fun _ _ entry => entry.2))

theorem size : left.size = right.size := paired.length_eq

theorem get? (key : String) : Option.Rel (Value.Paired pairing) (left.get? key) (right.get? key) :=
  lookup_of_forall₂ paired key

theorem isEqv_eq {against opposite : OrderedMap String Value}
    (others : against.Paired pairing opposite)
    {f g : Value → Value → Bool} (same : ∀ {first second other another : Value},
      first.Paired pairing second → other.Paired pairing another → f first other = g second another) :
    left.isEqv against f = right.isEqv opposite g := by
  unfold OrderedMap.isEqv
  rw [paired.size, others.size, all_eq_of_forall₂ paired]
  intro entry opposed here
  have found := others.get? opposed.1
  rw [here.1]
  generalize against.get? opposed.1 = value, opposite.get? opposed.1 = other at found ⊢
  cases found with
  | none => rfl
  | some found => exact same here.2 found

end OrderedMap.Paired

/-! ### What shows of a value -/

section Shown

variable {pairing : Pairing} {left right : Store} (paired : Store.Paired pairing left right)
include paired

theorem Store.unfold_eq_of_paired (depth : Nat) {first second : Value}
    (values : first.Paired pairing second) :
    left.unfold depth first = right.unfold depth second := by
  induction depth generalizing first second with
  | zero =>
    cases values with
    | scalar plain => cases first <;> cases plain <;> rfl
    | list _ => rfl
    | map _ => rfl
    | record refs => simp only [Store.unfold, paired.recordName refs]
  | succ depth ih =>
    have entries (first second : String × Value) (entry : EntryPaired pairing first second) :
        (first.1, left.unfold depth first.2) = (second.1, right.unfold depth second.2) := by
      rw [entry.1, ih entry.2]
    cases values with
    | scalar plain => cases first <;> cases plain <;> rfl
    | list refs =>
      simp only [Store.unfold]
      rw [map_eq_of_forall₂ (paired.items refs) fun _ _ item => ih item]
    | map refs =>
      simp only [Store.unfold]
      rw [map_eq_of_forall₂ (paired.entries refs) entries]
    | record refs =>
      simp only [Store.unfold]
      rw [map_eq_of_forall₂ (paired.fields refs) entries, paired.recordName refs]

/-- A paired value is nested no deeper than its store has nodes. -/
theorem Value.Paired.shallowLeft {first second : Value} (values : first.Paired pairing second) :
    first.Shallow left left.nodes.size := by
  intro ref found
  cases values with
  | scalar plain => rw [plain] at found; cases found
  | list refs | map refs | record refs =>
    cases found
    exact Store.shallow_of_finite (paired.finiteLeft refs)

theorem Value.Paired.shallowRight {first second : Value} (values : first.Paired pairing second) :
    second.Shallow right right.nodes.size := by
  intro ref found
  cases values with
  | scalar plain => rw [plain] at found; cases found
  | list refs | map refs | record refs =>
    cases found
    exact Store.shallow_of_finite (paired.finiteRight refs)

theorem Store.tree_eq_of_paired {first second : Value} (values : first.Paired pairing second) :
    left.tree first = right.tree second := by
  let deep := max left.nodes.size right.nodes.size
  calc left.tree first = left.unfold deep first :=
        (unfold_of_shallow (values.shallowLeft paired) (le_max_left ..)).symm
    _ = right.unfold deep second := unfold_eq_of_paired paired deep values
    _ = right.tree second := unfold_of_shallow (values.shallowRight paired) (le_max_right ..)

/-- **Paired values have one text.** -/
theorem Value.text_eq_of_paired {first second : Value} (values : first.Paired pairing second) :
    first.text left = second.text right := by
  have json : first.json left = second.json right := by
    unfold Value.json
    rw [Store.tree_eq_of_paired paired values]
  cases values with
  | scalar plain => cases first <;> cases plain <;> rfl
  | list _ => simp only [Value.text, Value.display, json]
  | map _ => simp only [Value.text, Value.display, json]
  | record _ => simp only [Value.text, Value.display, json]

/-- One of two paired handles is another one exactly if the other one is. -/
theorem Store.Paired.beq_eq {first second other another : Ref} (refs : pairing first second)
    (others : pairing other another) : (first == other) = (second == another) := by
  rw [Bool.eq_iff_iff, beq_iff_eq, beq_iff_eq]
  exact paired.one refs others

omit paired in
/-- A scalar is compared without a look at any store. -/
theorem Value.sameWithin_of_plain (depth : Nat) {value against opposite : Value}
    (plain : value.ref? = none) (others : against.Paired pairing opposite) :
    sameWithin left depth value against = sameWithin right depth value opposite := by
  cases others with
  | scalar scalar =>
    cases value <;> cases plain <;> cases against <;> cases depth <;> rfl
  | list _ | map _ | record _ => cases value <;> cases plain <;> cases depth <;> rfl

theorem Value.sameWithin_eq_of_paired (depth : Nat) {first second against opposite : Value}
    (values : first.Paired pairing second) (others : against.Paired pairing opposite) :
    sameWithin left depth first against = sameWithin right depth second opposite := by
  induction depth generalizing first second against opposite with
  | zero =>
    cases values with
    | scalar plain => exact sameWithin_of_plain _ plain others
    | list _ | map _ | record _ =>
      cases others with
      | scalar plain => cases against <;> cases plain <;> rfl
      | _ => rfl
  | succ depth ih =>
    cases values with
    | scalar plain => exact sameWithin_of_plain _ plain others
    | list refs =>
      cases others with
      | scalar plain => cases against <;> cases plain <;> rfl
      | list opposed =>
        simp only [sameWithin]
        rw [paired.beq_eq refs opposed, isEqv_eq_of_forall₂ (paired.items refs)
          (paired.items opposed) fun _ _ _ _ here there => ih here there]
      | _ => rfl
    | map refs =>
      cases others with
      | scalar plain => cases against <;> cases plain <;> rfl
      | map opposed =>
        simp only [sameWithin]
        rw [paired.beq_eq refs opposed, (paired.entries refs).isEqv_eq (paired.entries opposed) ih]
      | _ => rfl
    | record refs =>
      cases others with
      | scalar plain => cases against <;> cases plain <;> rfl
      | record opposed =>
        simp only [sameWithin]
        rw [paired.beq_eq refs opposed, paired.recordName refs, paired.recordName opposed,
          (paired.fields refs).isEqv_eq (paired.fields opposed) ih]
      | _ => rfl

/-- **Two values are equal exactly if those paired with them are.** -/
theorem Value.same_eq_of_paired {first second against opposite : Value}
    (values : first.Paired pairing second) (others : against.Paired pairing opposite) :
    first.same left against = second.same right opposite := by
  let deep := max left.nodes.size right.nodes.size
  calc first.same left against = sameWithin left deep first against :=
        (sameWithin_of_shallow (values.shallowLeft paired) (le_max_left ..) against).symm
    _ = sameWithin right deep second opposite := sameWithin_eq_of_paired paired deep values others
    _ = second.same right opposite :=
        sameWithin_of_shallow (values.shallowRight paired) (le_max_right ..) opposite

end Shown

end ReactiveView
