/-
**Plain data and its JSON.**

What is built of `nil`, truth values, integers, texts, lists and maps is shown by one JSON value, wherever its
nodes lie and however often one of them occurs in it. The JSON does not tell nodes apart that hold the same. So
a value that is made from it equals the first one, and all of its nodes are new.

* `Value.IsPlain` — the values that JSON shows completely.
* `Value.IsPlain.of_finite` — they are all that do not contain themselves and are of such kinds.
* `Value.Shows` — a value, where its nodes lie, and the JSON value that shows it.
* `Value.Shows.json_eq` — the JSON of a value is the one that shows it.
* `Value.Shows.same` — values that one JSON value shows are equal.
* `Value.shows_ofJson` — a value made from JSON is shown by it, and its nodes are new.
* `Value.json_there_and_back` — from JSON to values and back, and from values to JSON and back.
-/

import ReactiveView.Proofs.Component.Determined
import ReactiveView.Proofs.Json.Fields
import ReactiveView.Proofs.Json.Printing
import ReactiveView.Proofs.Tracked.Lasting

namespace ReactiveView

/-- Two maps with the same entries, one by one, are equal if their values are. -/
theorem OrderedMap.isEqv_of_forall₂ {κ α : Type} [DecidableEq κ] {left right : OrderedMap κ α}
    {eqv : α → α → Bool}
    (all : List.Forall₂ (fun one two => one.1 = two.1 ∧ eqv one.2 two.2 = true) left.entries right.entries) :
    left.isEqv right eqv = true := by
  rw [isEqv, Bool.and_eq_true, beq_iff_eq, List.all_eq_true]
  refine ⟨all.length_eq, fun entry member => ?_⟩
  obtain ⟨⟨name, value⟩, there, rfl, same⟩ := Json.exists_of_forall₂_of_mem all.flip member
  rw [mem_entries_iff.mp there]
  exact same

/-- A node is finite if all that it holds is. -/
theorem Store.finite_of_parts {store : Store} {ref : Ref} (inside : ref < store.nodes.size)
    (parts : ∀ value ∈ (store.content ref).values, value.Finite store) : store.Finite ref :=
  .intro inside fun part ⟨value, member, handle⟩ => parts value member part handle

namespace Value

variable {store : Store} {among place : Ref → Prop}

/-! ### Plain data -/

/-- **Plain data**: what JSON shows completely. It is built up from scalars, so nothing in it contains
itself, but one node may occur in it any number of times. -/
inductive IsPlain (store : Store) : Value → Prop
  | nil : IsPlain store .nil
  | bool (value : Bool) : IsPlain store (.bool value)
  | int (number : Int64) : IsPlain store (.int number)
  | str (value : String) : IsPlain store (.str value)
  | list {ref : Ref} {items : List Value} (inside : ref < store.nodes.size)
    (content : store.content ref = .list items) (parts : ∀ item ∈ items, IsPlain store item) :
    IsPlain store (.list ref)
  | map {ref : Ref} {entries : OrderedMap String Value} (inside : ref < store.nodes.size)
    (content : store.content ref = .map entries) (parts : ∀ value ∈ entries.values, IsPlain store value) :
    IsPlain store (.map ref)

/-- What a value is by itself: no floating-point number and no record, and the handle of a list or a map
refers to one. -/
def IsData (store : Store) : Value → Prop
  | .float _ | .record _ => False
  | .list ref => ∃ items, store.content ref = .list items
  | .map ref => ∃ entries, store.content ref = .map entries
  | _ => True

/-- A scalar of one of the four kinds is plain. -/
theorem IsData.isPlain {value : Value} (isData : value.IsData store) (scalar : value.ref? = none) :
    value.IsPlain store := by
  cases value with
  | nil => exact .nil
  | bool value => exact .bool value
  | int number => exact .int number
  | str value => exact .str value
  | float _ => exact isData.elim
  | list _ | map _ | record _ => cases scalar

/-- A list or a map is plain if what it holds is. -/
theorem IsData.isPlain_of_parts {value : Value} {ref : Ref} (isData : value.IsData store)
    (handle : value.ref? = some ref) (inside : ref < store.nodes.size)
    (parts : ∀ part ∈ (store.content ref).values, part.IsPlain store) : value.IsPlain store := by
  cases value with
  | list _ =>
    cases handle
    obtain ⟨items, content⟩ := isData
    rw [content] at parts
    exact .list inside content parts
  | map _ =>
    cases handle
    obtain ⟨entries, content⟩ := isData
    rw [content] at parts
    exact .map inside content parts
  | record _ => exact isData.elim
  | _ => cases handle

/-- **A value is plain if it does not contain itself** and nothing on it is of another kind. -/
theorem IsPlain.of_finite {value : Value} (finite : value.Finite store) (isData : value.IsData store)
    (below : ∀ ref, store.Within ref value → ∀ part ∈ (store.content ref).values, part.IsData store) :
    value.IsPlain store := by
  cases handle : value.ref? with
  | none => exact isData.isPlain handle
  | some ref =>
    -- by induction on what hangs on the node, for every handle of it
    induction finite ref handle generalizing value with
    | @intro ref inside _ ih =>
      refine isData.isPlain_of_parts handle inside fun part member => ?_
      have partIsData := below ref ⟨ref, handle, .refl⟩ part member
      cases deeper : part.ref? with
      | none => exact partIsData.isPlain deeper
      | some next =>
        have held : store.Holds next ref := ⟨part, member, deeper⟩
        have partFinite : part.Finite store := fun other same => by
          obtain rfl := Option.some.inj (deeper.symm.trans same)
          exact (finite ref handle).part held
        refine ih next held partFinite partIsData (fun target ⟨_, same, within⟩ => ?_) deeper
        obtain rfl := Option.some.inj (deeper.symm.trans same)
        exact below target ⟨ref, handle, within.tail held⟩

/-! ### Values and the JSON that shows them -/

mutual

/-- **A value that a JSON value shows**, all of whose nodes are there and lie among the given ones. -/
inductive Shows (store : Store) (among : Ref → Prop) : Value → Json → Prop
  | nil : Shows store among .nil .null
  | bool (value : Bool) : Shows store among (.bool value) (.bool value)
  | int (number : Int64) : Shows store among (.int number) (.int number.toInt)
  | str (value : String) : Shows store among (.str value) (.string value)
  | list {ref : Ref} {items : List Value} {shown : List Json} (inside : ref < store.nodes.size)
    (lies : among ref) (content : store.content ref = .list items)
    (parts : ItemsShow store among items shown) : Shows store among (.list ref) (.array shown)
  | map {ref : Ref} {entries : OrderedMap String Value} {shown : List (String × Json)}
    (inside : ref < store.nodes.size) (lies : among ref) (content : store.content ref = .map entries)
    (parts : EntriesShow store among entries.entries shown) : Shows store among (.map ref) (.object shown)

/-- The items of a list are shown by those of an array. -/
inductive ItemsShow (store : Store) (among : Ref → Prop) : List Value → List Json → Prop
  | nil : ItemsShow store among [] []
  | cons {item : Value} {items : List Value} {first : Json} {shown : List Json}
    (here : Shows store among item first) (rest : ItemsShow store among items shown) :
    ItemsShow store among (item :: items) (first :: shown)

/-- The entries of a map are shown by the members of an object, in their order. -/
inductive EntriesShow (store : Store) (among : Ref → Prop) :
    List (String × Value) → List (String × Json) → Prop
  | nil : EntriesShow store among [] []
  | cons {value : Value} {entries : List (String × Value)} {first : Json} {shown : List (String × Json)}
    (name : String) (here : Shows store among value first) (rest : EntriesShow store among entries shown) :
    EntriesShow store among ((name, value) :: entries) ((name, first) :: shown)

end

theorem EntriesShow.keys_eq {entries : List (String × Value)} {shown : List (String × Json)} :
    EntriesShow store among entries shown → entries.map Prod.fst = shown.map Prod.fst
  | .nil => rfl
  | .cons name _ rest => congrArg (name :: ·) rest.keys_eq

mutual

/-- A value is shown by the same while nothing is written to. -/
theorem Shows.extend {after : Store} {value : Value} {json : Json} (lasts : store.Extends after) :
    Shows store among value json → Shows after among value json
  | .nil => .nil
  | .bool value => .bool value
  | .int number => .int number
  | .str value => .str value
  | .list inside lies content parts =>
    .list (inside.trans_le lasts.size) lies ((lasts.content _ inside).trans content) (parts.extend lasts)
  | .map inside lies content parts =>
    .map (inside.trans_le lasts.size) lies ((lasts.content _ inside).trans content) (parts.extend lasts)

theorem ItemsShow.extend {after : Store} {items : List Value} {shown : List Json}
    (lasts : store.Extends after) : ItemsShow store among items shown → ItemsShow after among items shown
  | .nil => .nil
  | .cons here rest => .cons (here.extend lasts) (rest.extend lasts)

theorem EntriesShow.extend {after : Store} {entries : List (String × Value)} {shown : List (String × Json)}
    (lasts : store.Extends after) :
    EntriesShow store among entries shown → EntriesShow after among entries shown
  | .nil => .nil
  | .cons name here rest => .cons name (here.extend lasts) (rest.extend lasts)

end

/-! ### Where the nodes lie -/

theorem ItemsShow.exists_of_mem {items : List Value} {shown : List Json} {item : Value} :
    ItemsShow store among items shown → item ∈ items → ∃ json, Shows store among item json
  | .cons here rest, member => by
    rcases List.mem_cons.mp member with rfl | later
    · exact ⟨_, here⟩
    · exact rest.exists_of_mem later

theorem EntriesShow.exists_of_mem {entries : List (String × Value)} {shown : List (String × Json)}
    {value : Value} :
    EntriesShow store among entries shown → value ∈ entries.map Prod.snd → ∃ json, Shows store among value json
  | .cons _ here rest, member => by
    rcases List.mem_cons.mp member with rfl | later
    · exact ⟨_, here⟩
    · exact rest.exists_of_mem later

/-- What a shown value holds is shown, too. -/
theorem Shows.node {value : Value} {json : Json} {ref : Ref} (shows : Shows store among value json)
    (handle : value.ref? = some ref) :
    among ref ∧ ∀ part ∈ (store.content ref).values, ∃ json, Shows store among part json := by
  cases shows with
  | list _ lies content parts =>
    cases handle
    rw [content]
    exact ⟨lies, fun part member => parts.exists_of_mem member⟩
  | map _ lies content parts =>
    cases handle
    rw [content]
    exact ⟨lies, fun part member => parts.exists_of_mem member⟩
  | _ => cases handle

/-- **All nodes of a shown value lie where they should.** -/
theorem Shows.among_of_within {value : Value} {json : Json} {target : Ref}
    (shows : Shows store among value json) (within : store.Within target value) : among target := by
  obtain ⟨top, handle, below⟩ := within
  have reached : ∃ value json, value.ref? = some target ∧ Shows store among value json := by
    induction below using Relation.ReflTransGen.head_induction_on with
    | refl => exact ⟨value, json, handle, shows⟩
    | head held _ ih =>
      obtain ⟨whole, _, handle, shows⟩ := ih
      obtain ⟨part, member, inner⟩ := held
      obtain ⟨shown, shows⟩ := (shows.node handle).2 part member
      exact ⟨part, shown, inner, shows⟩
  obtain ⟨_, _, handle, shows⟩ := reached
  exact (shows.node handle).1

mutual

/-- A shown value does not contain itself. -/
theorem Shows.finite {value : Value} {json : Json} :
    Shows store among value json → value.Finite store
  | .nil | .bool _ | .int _ | .str _ => nofun
  | .list inside _ content parts => fun ref handle => by
    cases handle
    refine Store.finite_of_parts inside ?_
    rw [content]
    exact parts.finite
  | .map inside _ content parts => fun ref handle => by
    cases handle
    refine Store.finite_of_parts inside ?_
    rw [content]
    exact parts.finite

theorem ItemsShow.finite {items : List Value} {shown : List Json} :
    ItemsShow store among items shown → ∀ item ∈ items, item.Finite store
  | .nil => List.forall_mem_nil _
  | .cons here rest => List.forall_mem_cons.mpr ⟨here.finite, rest.finite⟩

theorem EntriesShow.finite {entries : List (String × Value)} {shown : List (String × Json)} :
    EntriesShow store among entries shown → ∀ value ∈ entries.map Prod.snd, value.Finite store
  | .nil => List.forall_mem_nil _
  | .cons _ here rest => List.forall_mem_cons.mpr ⟨here.finite, rest.finite⟩

end

/-! ### The JSON of a value -/

mutual

/-- A value unfolded as deep as the JSON value nests that shows it. -/
theorem Shows.json_unfold {value : Value} {json : Json} {depth : Nat} :
    Shows store among value json → json.depth ≤ depth → (store.unfold depth value).json = json
  | .nil, _ | .bool _, _ | .int _, _ | .str _, _ => by cases depth <;> rfl
  | .list _ _ content parts, deep => by
    obtain ⟨depth, rfl⟩ := Nat.exists_eq_succ_of_ne_zero (Nat.ne_zero_of_lt deep)
    rw [Store.unfold, Tree.json, Store.items, content,
      parts.json_unfold (Nat.le_of_succ_le_succ deep)]
  | .map _ _ content parts, deep => by
    obtain ⟨depth, rfl⟩ := Nat.exists_eq_succ_of_ne_zero (Nat.ne_zero_of_lt deep)
    rw [Store.unfold, Tree.json, Store.entries, content,
      parts.json_unfold (Nat.le_of_succ_le_succ deep)]

theorem ItemsShow.json_unfold {items : List Value} {shown : List Json} {depth : Nat} :
    ItemsShow store among items shown → Json.itemsDepth shown ≤ depth →
      Tree.jsonItems (items.map (store.unfold depth)) = shown
  | .nil, _ => rfl
  | .cons here rest, deep => by
    rw [Json.itemsDepth, Nat.max_le] at deep
    rw [List.map_cons, Tree.jsonItems, here.json_unfold deep.1, rest.json_unfold deep.2]

theorem EntriesShow.json_unfold {entries : List (String × Value)} {shown : List (String × Json)}
    {depth : Nat} : EntriesShow store among entries shown → Json.membersDepth shown ≤ depth →
      Tree.jsonEntries (entries.map fun entry => (entry.1, store.unfold depth entry.2)) = shown
  | .nil, _ => rfl
  | .cons _ here rest, deep => by
    rw [Json.membersDepth, Nat.max_le] at deep
    rw [List.map_cons, Tree.jsonEntries, here.json_unfold deep.1, rest.json_unfold deep.2]

end

/-- **The JSON of a value is the one that shows it.** -/
theorem Shows.json_eq {value : Value} {json : Json} (shows : Shows store among value json) :
    value.json store = json := by
  have shallow : value.Shallow store store.nodes.size := fun ref handle =>
    Store.shallow_of_finite (shows.finite ref handle)
  have deeper := Store.unfold_of_shallow shallow (Nat.le_max_left store.nodes.size json.depth)
  rw [Value.json, Store.tree, ← deeper]
  exact shows.json_unfold (Nat.le_max_right _ _)

/-! ### Equality -/

mutual

/-- Two values that one JSON value shows do not differ at any depth. -/
theorem Shows.sameWithin {value other : Value} {json : Json} (depth : Nat) :
    Shows store among value json → Shows store place other json →
      Value.sameWithin store depth value other = true
  | .nil, .nil => by cases depth <;> rfl
  | .bool value, .bool _ => by cases depth <;> exact beq_self_eq_true value
  | .int number, other => by
    -- the number of the JSON value is a computed one, so the two derivations cannot be matched at once
    generalize shown : Json.int number.toInt = json at other
    cases other with
    | int same =>
      obtain rfl := Int64.toInt_inj.mp (Json.int.inj shown)
      cases depth <;> exact beq_self_eq_true number
    | _ => cases shown
  | .str value, .str _ => by cases depth <;> exact beq_self_eq_true value
  | .list _ _ content parts, .list _ _ against others => by
    cases depth with
    | zero => rfl
    | succ depth =>
      rw [Value.sameWithin, Store.items, Store.items, content, against, parts.isEqv depth others,
        Bool.or_true]
  | .map _ _ content parts, .map _ _ against others => by
    cases depth with
    | zero => rfl
    | succ depth =>
      rw [Value.sameWithin, Store.entries, Store.entries, content, against,
        OrderedMap.isEqv_of_forall₂ (parts.forall₂ depth others), Bool.or_true]

theorem ItemsShow.isEqv {items others : List Value} {shown : List Json} (depth : Nat) :
    ItemsShow store among items shown → ItemsShow store place others shown →
      items.isEqv others (Value.sameWithin store depth) = true
  | .nil, .nil => rfl
  | .cons here rest, .cons there others => by
    rw [List.isEqv, here.sameWithin depth there, rest.isEqv depth others, Bool.and_self]

theorem EntriesShow.forall₂ {entries others : List (String × Value)} {shown : List (String × Json)}
    (depth : Nat) : EntriesShow store among entries shown → EntriesShow store place others shown →
      List.Forall₂ (fun one two => one.1 = two.1 ∧ Value.sameWithin store depth one.2 two.2 = true)
        entries others
  | .nil, .nil => .nil
  | .cons _ here rest, .cons _ there others =>
    .cons ⟨rfl, here.sameWithin depth there⟩ (rest.forall₂ depth others)

end

/-- **Values that one JSON value shows are equal**, wherever their nodes lie. -/
theorem Shows.same {value other : Value} {json : Json} (shows : Shows store among value json)
    (shown : Shows store place other json) : value.same store other = true :=
  shows.sameWithin _ shown

/-! ### Plain data is shown -/

/-- Shown items are those of an array. -/
theorem exists_itemsShow {items : List Value}
    (all : ∀ item ∈ items, ∃ json : Json, json.IsPlain ∧ Shows store among item json) :
    ∃ shown, Json.ItemsPlain shown ∧ ItemsShow store among items shown := by
  induction items with
  | nil => exact ⟨[], trivial, .nil⟩
  | cons item items ih =>
    obtain ⟨⟨first, plain, here⟩, others⟩ := List.forall_mem_cons.mp all
    obtain ⟨shown, plains, rest⟩ := ih others
    exact ⟨first :: shown, ⟨plain, plains⟩, .cons here rest⟩

/-- Shown entries are the members of an object. -/
theorem exists_entriesShow {entries : List (String × Value)}
    (all : ∀ value ∈ entries.map Prod.snd, ∃ json : Json, json.IsPlain ∧ Shows store among value json) :
    ∃ shown, Json.MembersPlain shown ∧ EntriesShow store among entries shown := by
  induction entries with
  | nil => exact ⟨[], trivial, .nil⟩
  | cons entry entries ih =>
    obtain ⟨⟨first, plain, here⟩, others⟩ := List.forall_mem_cons.mp all
    obtain ⟨shown, plains, rest⟩ := ih others
    exact ⟨(entry.1, first) :: shown, ⟨plain, plains⟩, .cons entry.1 here rest⟩

/-- **Plain data is shown by a JSON value.** -/
theorem IsPlain.exists_shows {value : Value} (plain : value.IsPlain store) :
    ∃ json : Json, json.IsPlain ∧ Shows store (· < store.nodes.size) value json := by
  induction plain with
  | nil => exact ⟨.null, trivial, .nil⟩
  | bool value => exact ⟨.bool value, trivial, .bool value⟩
  | int number => exact ⟨.int number.toInt, Integer.fits_toInt number, .int number⟩
  | str value => exact ⟨.string value, trivial, .str value⟩
  | list inside content _ ih =>
    obtain ⟨shown, plain, parts⟩ := exists_itemsShow ih
    exact ⟨.array shown, plain, .list inside inside content parts⟩
  | @map _ entries inside content _ ih =>
    obtain ⟨shown, plain, parts⟩ := exists_entriesShow ih
    exact ⟨.object shown, ⟨plain, parts.keys_eq ▸ entries.nodup⟩, .map inside inside content parts⟩

/-! ### Values made from JSON -/

/-- A whole number that fits is shown as it is. -/
theorem shows_ofWhole {number : Int} (fits : Integer.fits number = true) :
    Shows store among (ofWhole number) (.int number) := by
  have shows : Shows store among (.int (Int64.ofInt number)) (.int (Int64.ofInt number).toInt) := .int _
  rw [Integer.toInt_of_fits fits] at shows
  rw [ofWhole, Integer.ofWhole?, if_pos fits]
  exact shows

/-- A new list is shown by an array if its items are. -/
theorem ItemsShow.newList {items : List Value} {shown : List Json} (parts : ItemsShow store among items shown)
    (lies : among store.nodes.size) :
    Shows (store.newList items).2 among (store.newList items).1 (.array shown) := by
  have made := store.grows_newNode (.list items) []
  have inside : store.nodes.size < (store.newNode (.list items) []).2.nodes.size := by simp
  exact .list inside lies (Store.content_newNode_self ..) (parts.extend made.extends)

/-- A new map is shown by an object if its entries are, under names of their own. -/
theorem EntriesShow.newMap {entries : List (String × Value)} {shown : List (String × Json)}
    (parts : EntriesShow store among entries shown) (distinct : (shown.map Prod.fst).Nodup)
    (lies : among store.nodes.size) :
    Shows (store.newMap (OrderedMap.ofList entries)).2 among (store.newMap (OrderedMap.ofList entries)).1
      (.object shown) := by
  have made := store.grows_newNode (.map (OrderedMap.ofList entries)) []
  have inside : store.nodes.size <
      (store.newNode (.map (OrderedMap.ofList entries)) []).2.nodes.size := by simp
  rw [← parts.keys_eq] at distinct
  refine .map inside lies (Store.content_newNode_self ..) ?_
  rw [OrderedMap.entries_ofList distinct]
  exact parts.extend made.extends

mutual

/-- **A value made from JSON is shown by it, and its nodes are new.** -/
theorem shows_ofJson {base : Nat} (store : Store) (old : base ≤ store.nodes.size) :
    ∀ json : Json, json.IsPlain → Shows (ofJson store json).2 (base ≤ ·) (ofJson store json).1 json
  | .null, _ => .nil
  | .bool value, _ => .bool value
  | .int _, fits => shows_ofWhole fits
  | .string value, _ => .str value
  | .array items, plain =>
    (itemsShow_ofJson store old items plain).newList (old.trans (store.reads_ofJsonItems items).size)
  | .object members, plain =>
    (entriesShow_ofJson store old members plain.1).newMap plain.2
      (old.trans (store.reads_ofJsonMembers members).size)

theorem itemsShow_ofJson {base : Nat} (store : Store) (old : base ≤ store.nodes.size) :
    ∀ items : List Json, Json.ItemsPlain items →
      ItemsShow (ofJsonItems store items).2 (base ≤ ·) (ofJsonItems store items).1 items
  | [], _ => .nil
  | item :: rest, plain =>
    .cons ((shows_ofJson store old item plain.1).extend (Store.reads_ofJsonItems _ rest).extends)
      (itemsShow_ofJson _ (old.trans (store.reads_ofJson item).size) rest plain.2)

theorem entriesShow_ofJson {base : Nat} (store : Store) (old : base ≤ store.nodes.size) :
    ∀ members : List (String × Json), Json.MembersPlain members →
      EntriesShow (ofJsonMembers store members).2 (base ≤ ·) (ofJsonMembers store members).1 members
  | [], _ => .nil
  | (name, member) :: rest, plain =>
    .cons name ((shows_ofJson store old member plain.1).extend (Store.reads_ofJsonMembers _ rest).extends)
      (entriesShow_ofJson _ (old.trans (store.reads_ofJson member).size) rest plain.2)

end

/--
**From JSON to a value and back, and from a value to JSON and back.** The value made from a JSON value, however
deep it nests, has that JSON, with the members of each object in their order. What is made from the JSON of
plain data equals it and shares no node with it, however its own nodes are shared.
-/
theorem json_there_and_back (store : Store) :
    (∀ json : Json, json.IsPlain →
      let (made, after) := ofJson store json
      made.json after = json) ∧
    ∀ value : Value, value.IsPlain store →
      let (made, after) := ofJson store (value.json store)
      made.same after value = true ∧ value.same after made = true ∧
        ∀ ref, ¬ (after.Within ref made ∧ after.Within ref value) := by
  refine ⟨fun json plain => (shows_ofJson store le_rfl json plain).json_eq, fun value plain => ?_⟩
  obtain ⟨json, plain, shown⟩ := plain.exists_shows
  have new := shows_ofJson store le_rfl json plain
  have before := shown.extend (store.reads_ofJson json).extends
  rw [shown.json_eq]
  refine ⟨new.same before, before.same new, fun ref ⟨later, earlier⟩ => ?_⟩
  exact absurd (before.among_of_within earlier) (new.among_of_within later).not_gt

/-- A map with a list under two names, and the list holds one integer. -/
def oneListTwice : Store where
  nodes := #[⟨.list [.int 1], []⟩, ⟨.map ⟨[("b", .list 0), ("a", .list 0)], by decide⟩, []⟩]
  observers := #[]
  changesets := #[]
  kept := OrderedMap.empty

theorem isPlain_oneListTwice : (map 1).IsPlain oneListTwice := by
  have list : (list 0).IsPlain oneListTwice :=
    .list (by decide) rfl (List.forall_mem_singleton.mpr (.int 1))
  exact .map (by decide) rfl
    (List.forall_mem_cons.mpr ⟨list, List.forall_mem_singleton.mpr list⟩)

theorem json_there_and_back_of_oneListTwice :
    let json := Json.object [("b", .array [.int 2, .array []]), ("a", .null)]
    let (made, after) := ofJson oneListTwice json
    let (again, later) := ofJson oneListTwice ((map 1).json oneListTwice)
    json.IsPlain ∧ made.json after = json ∧ (map 1).IsPlain oneListTwice ∧
      again.same later (map 1) = true ∧ ∀ ref, ¬ (later.Within ref again ∧ later.Within ref (map 1)) := by
  have plain : (Json.object [("b", .array [.int 2, .array []]), ("a", .null)]).IsPlain :=
    ⟨⟨⟨show Integer.fits 2 = true by decide, trivial, trivial⟩, trivial, trivial⟩, by decide⟩
  obtain ⟨back, there⟩ := json_there_and_back oneListTwice
  obtain ⟨same, _, apart⟩ := there (map 1) isPlain_oneListTwice
  exact ⟨plain, back _ plain, isPlain_oneListTwice, same, apart⟩

end Value

end ReactiveView
