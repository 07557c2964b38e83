/-
**Texts that operators and methods give.**

Operators check the size of a text that they make. Most methods give no text that is longer than what they
are called on, or than what is in the store. The others make new texts, and check nothing.

* `Modest` — a result that is no text longer than the limit.
* `Brief` — an outcome that keeps the limit in the store, and in its value where that is asked for.
* `brief_binary`, `brief_readIndex` — operators and indexes keep the limit.
* `brief_callMethod`, `brief_readField` — so do methods that make no new text.
-/

import Mathlib.Data.String.Basic
import ReactiveView.Proofs.Render.Noting
import ReactiveView.Proofs.Tracked.Sizes

namespace ReactiveView

/-! ### Parts of texts -/

namespace Text

theorem trim_sublist (text : List Char) : (trim text).Sublist text := by
  have front := trimEnd_prefix (trimStart text)
  exact front.sublist.trans (List.dropWhile_suffix _).sublist

/-- A piece of a text has only characters of it, in their order. -/
theorem piecesFrom_sublist {separator piece front text : List Char} {skip : Nat}
    (member : piece ∈ piecesFrom separator skip front text) :
    piece.Sublist (front.reverse ++ text) := by
  induction text generalizing skip front with
  | nil =>
    obtain rfl := List.mem_singleton.mp member
    simp
  | cons c rest ih =>
    have later : (front.reverse ++ rest).Sublist (front.reverse ++ c :: rest) :=
      (List.sublist_cons_self c rest).append_left _
    unfold piecesFrom at member
    split at member
    · exact (ih member).trans later
    · split at member
      · rcases List.mem_cons.mp member with rfl | next
        · exact List.sublist_append_left _ _
        · exact ((ih next).trans (List.sublist_append_right front.reverse rest)).trans later
      · simpa using ih member

theorem split_sublist {separator piece text : List Char} (member : piece ∈ split separator text) :
    piece.Sublist text := by
  unfold split at member
  split at member
  · simp only [List.cons_append, List.mem_cons, List.mem_append, List.mem_map, List.not_mem_nil,
      or_false] at member
    rcases member with rfl | ⟨c, inside, rfl⟩ | rfl
    · exact List.nil_sublist text
    · exact List.singleton_sublist.mpr inside
    · exact List.nil_sublist text
  · exact piecesFrom_sublist member

end Text

namespace Render

variable {α : Type} {limit : Nat} {plain : Prop}

theorem short_of_sublist {part : List Char} {text : String} (within : part.Sublist text.toList)
    (short : text.utf8ByteSize ≤ limit) : (Value.str (String.ofList part)).Short limit := by
  have smaller := String.utf8Len_le_of_sublist within
  rw [String.utf8Len_toList, ← String.utf8ByteSize_ofList] at smaller
  exact smaller.trans short

/-- A character of a text, as a text. -/
theorem short_textItem {text : String} (fits : text.utf8ByteSize ≤ limit) (index : Int) :
    (textItem text index).Short limit := by
  unfold textItem
  dsimp only
  generalize (if index < 0 then (text.toList.length : Int) + index else index) = place
  split
  · trivial
  · refine Value.short_getD fun value there => ?_
    obtain ⟨c, inside, rfl⟩ := Option.map_eq_some_iff.mp there
    exact short_of_sublist (List.singleton_sublist.mpr (List.mem_of_getElem? inside)) fits

/-! ### Results -/

/-- A result that is no text longer than the limit. -/
structure Modest (limit : Nat) (result : Except Error Value) : Prop where
  short : ∀ value, result = .ok value → value.Short limit

namespace Modest

theorem ok {value : Value} (short : value.Short limit) : Modest limit (.ok value) :=
  ⟨fun _ same => Except.ok.inj same ▸ short⟩

theorem error (error : Error) : Modest limit (.error error) := ⟨fun _ => nofun⟩

theorem bind {result : Except Error α} {next : α → Except Error Value}
    (after : ∀ value, Modest limit (next value)) : Modest limit (result >>= next) := by
  cases result with
  | error error => exact .error error
  | ok value => exact after value

end Modest

theorem modest_exactInt (number : Int) : Modest limit (exactInt number) := by
  unfold exactInt
  split
  · exact .ok trivial
  · exact .error _

theorem modest_integers (op : Arithmetic) (left right : Int) :
    Modest limit (integers op left right) := by
  cases op with
  | add | sub | mul => exact modest_exactInt _
  | div =>
    simp only [integers]
    split
    · exact .error _
    · exact modest_exactInt _
  | rem =>
    simp only [integers]
    split
    · exact .error _
    · split
      · exact modest_exactInt _
      · exact .error _

/-- Arithmetic gives numbers. -/
theorem modest_arithmetic (op : Arithmetic) (left right : Value) :
    Modest limit (arithmetic op left right) := by
  unfold arithmetic
  split
  · exact modest_integers ..
  · split
    · exact .ok trivial
    · exact .error _

theorem modest_joined (left right : String) : Modest limit (joined limit left right) := by
  unfold joined
  dsimp only
  split
  · exact .error _
  · next within => exact .ok (Nat.le_of_not_gt within)

theorem utf8ByteSize_replicate (text : String) (count : Nat) :
    (String.join (List.replicate count text)).utf8ByteSize = text.utf8ByteSize * count := by
  induction count with
  | zero => rfl
  | succ count ih =>
    rw [List.replicate_succ, String.join_cons, String.utf8ByteSize_append, ih, Nat.mul_succ,
      Nat.add_comm]

theorem modest_product (left right : Value) : Modest limit (product limit left right) := by
  unfold product
  split
  · unfold repeated
    split
    · exact .ok (Nat.zero_le limit)
    · split
      · exact .error _
      · next within => exact .ok ((utf8ByteSize_replicate ..).trans_le (Nat.le_of_not_gt within))
  · exact modest_arithmetic ..

theorem modest_unary (op : UnaryOp) (value : Value) : Modest limit (unary op value) := by
  unfold unary
  split
  · exact .ok trivial
  · exact modest_exactInt _
  · exact .ok trivial
  · exact .error _

/-! ### Outcomes -/

/-- **An outcome that keeps the limit**: no text in the store is longer, and the value is no longer text
where that is asked for. -/
structure Brief (limit : Nat) (plain : Prop) (outcome : Outcome) : Prop where
  store : outcome.2.Short limit
  value : plain → Modest limit outcome.1

variable {store : Store}

theorem Brief.imp {weaker : Prop} {outcome : Outcome} (brief : Brief limit plain outcome)
    (implies : weaker → plain) : Brief limit weaker outcome :=
  ⟨brief.store, fun asked => brief.value (implies asked)⟩

theorem brief_orNil {found : Option Value × Store} (obtains : Obtains limit found) :
    Brief limit plain (orNil found) :=
  ⟨obtains.store, fun _ => .ok (Value.short_getD obtains.value)⟩

section

variable (short : store.Short limit)

include short

theorem brief_ok {value : Value} (fits : plain → value.Short limit) :
    Brief limit plain (.ok value, store) := ⟨short, fun asked => .ok (fits asked)⟩

theorem brief_error (error : Error) : Brief limit plain (.error error, store) :=
  ⟨short, fun _ => .error error⟩

theorem brief_unchanged {result : Except Error Value} (modest : plain → Modest limit result) :
    Brief limit plain (unchanged store result) := ⟨short, modest⟩

theorem brief_newList {values : List Value} (each : ∀ value ∈ values, value.Short limit) :
    Brief limit plain (.ok (store.newList values).1, (store.newList values).2) :=
  ⟨short.newList each, fun _ => .ok trivial⟩

theorem brief_textList {texts : List String} (each : ∀ text ∈ texts, text.utf8ByteSize ≤ limit) :
    Brief limit plain (textList store texts) := by
  refine brief_newList short fun value member => ?_
  obtain ⟨text, inside, rfl⟩ := List.mem_map.mp member
  exact each text inside

/-! ### Operators -/

theorem brief_sum (left right : Value) : Brief limit plain (sum limit left right store) := by
  unfold sum
  split
  · exact ⟨short, fun _ => modest_joined ..⟩
  · exact ⟨short, fun _ => modest_joined ..⟩
  · next first second =>
    have once := short.inheritAll (store.items first) (store.bindings first)
    refine brief_newList (once.inheritAll _ _) ?_
    exact List.forall_mem_append.mpr ⟨short.items first, once.items second⟩
  · next first second =>
    have once := short.inheritAll (store.entries first).values (store.bindings first)
    refine ⟨(once.inheritAll _ _).newMap (OrderedMap.short_ofList ?_), fun _ => .ok trivial⟩
    exact List.forall_mem_append.mpr
      ⟨fun _ member => short.entries first member, fun _ member => once.entries second member⟩
  · exact ⟨short, fun _ => modest_arithmetic ..⟩

/-- **An operator keeps the limit.** -/
theorem brief_binary (op : BinaryOp) {left right : Value} (first : left.Short limit)
    (second : right.Short limit) : Brief limit plain (binary op limit left right store) := by
  cases op with
  | eq | ne => exact brief_ok short fun _ => trivial
  | and | or =>
    simp only [binary]
    split <;> exact brief_ok short fun _ => ‹_›
  | comparison op =>
    simp only [binary]
    split
    · exact brief_ok short fun _ => trivial
    · exact brief_error short _
  | arithmetic op =>
    cases op with
    | add => exact brief_sum short left right
    | mul => exact ⟨short, fun _ => modest_product ..⟩
    | sub | div | rem => exact ⟨short, fun _ => modest_arithmetic ..⟩

end

/-! ### Methods that make new texts -/

/-- A method of every value that makes a new text. -/
def CommonMethod.builds : CommonMethod → Bool
  | text | typeName => true
  | isNil => false

/-- A method of a list that makes a new text. -/
def ListMethod.builds : ListMethod → Bool
  | join => true
  | _ => false

/-- A method of a text that makes a new text, which may be longer. -/
def TextMethod.builds : TextMethod → Bool
  | upper | lower | capitalize | replace => true
  | _ => false

/-- A method of a number that makes a new text. -/
def NumberMethod.builds : NumberMethod → Bool
  | format => true
  | _ => false

/-- In a table in which all methods that make texts have the names of such, no other name has one. -/
theorem builds_of_lookup {μ : Type} {builds : μ → Bool} {methods : List (String × μ)}
    (table : ∀ entry ∈ methods, entry.1 ∉ textBuilders → builds entry.2 = false) {name : String}
    {method : μ} (found : methods.lookup name = some method) (other : name ∉ textBuilders) :
    builds method = false := by
  obtain ⟨front, back, rfl, _⟩ := List.lookup_eq_some_iff.mp found
  exact table (name, method) (List.mem_append_right _ List.mem_cons_self) other

section

variable (short : store.Short limit)

include short

theorem brief_commonMethod (method : CommonMethod) (receiver : Value) :
    Brief limit (method.builds = false) (.ok (method.call receiver store), store) := by
  cases method with
  | text | typeName => exact brief_ok short fun plain => absurd plain (by decide)
  | isNil => exact brief_ok short fun _ => trivial

theorem brief_listMethod (method : ListMethod) (list : Ref) (name : String) (arguments : List Value) :
    Brief limit (method.builds = false) (method.call list name arguments store) := by
  have derived {items : List Value} (each : ∀ value ∈ items, value.Short limit) :
      Brief limit (method.builds = false)
        (.ok (.list (TrackedList.derive list items store).1), (TrackedList.derive list items store).2) :=
    ⟨short.derive list (show Content.Short limit (.list items) from each), fun _ => .ok trivial⟩
  have items := short.items list
  cases method with
  | length | isEmpty => exact brief_ok short fun _ => trivial
  | first => exact brief_orNil (TrackedList.obtains_get short list 0)
  | last => exact brief_orNil (TrackedList.obtains_last short list)
  | item =>
    simp only [ListMethod.call]
    split
    · exact brief_orNil (TrackedList.obtains_item short list _)
    · exact brief_error short _
  | contains => exact brief_unchanged short fun _ => .bind fun _ => .ok trivial
  | position =>
    refine brief_unchanged short fun _ => .bind fun value => .ok ?_
    cases TrackedList.position list value store <;> trivial
  | join => exact brief_ok short fun plain => absurd plain (by decide)
  | slice =>
    simp only [ListMethod.call]
    split
    · exact derived fun value member => items value (List.mem_of_mem_take (List.mem_of_mem_drop member))
    · exact brief_error short _
  | reversed => exact derived fun value member => items value (List.mem_reverse.mp member)
  | sorted => exact derived fun value member => items value (TrackedList.mem_of_mem_sortItems member)
  | compact =>
    have shown := short.inheritAll (store.items list) (store.bindings list)
    exact ⟨shown.derive list (show Content.Short limit (.list _) from
      fun value member => items value (List.mem_of_mem_filter member)), fun _ => .ok trivial⟩

theorem brief_mapMethod (method : MapMethod) (map : Ref) (name : String) (arguments : List Value) :
    Brief limit plain (method.call map name arguments store) := by
  cases method with
  | length | isEmpty => exact brief_ok short fun _ => trivial
  | get =>
    simp only [MapMethod.call]
    split
    · exact brief_orNil (TrackedMap.obtains_get short map _)
    · exact brief_error short _
  | hasKey => exact brief_unchanged short fun _ => .bind fun _ => .ok trivial
  | keys => exact brief_textList short fun key member => (short.entries map).key member
  | values =>
    refine brief_newList (short.inheritAll _ _) fun value member => ?_
    exact (short.entries map).value member

theorem brief_recordMethod (method : RecordMethod) (record : Ref) :
    Brief limit plain (method.call record store) := by
  cases method with
  | typeName => exact brief_ok short fun _ => short.recordName record
  | toMap =>
    exact ⟨short.derive record (show Content.Short limit (.map _) from short.fields record),
      fun _ => .ok trivial⟩
  | fields => exact brief_textList short fun key member => (short.fields record).key member

theorem brief_textMethod (method : TextMethod) {text : String} (fits : text.utf8ByteSize ≤ limit)
    (name : String) (arguments : List Value) :
    Brief limit (method.builds = false) (method.call text name arguments store) := by
  cases method with
  | length | isEmpty => exact brief_ok short fun _ => trivial
  | upper | lower | capitalize => exact brief_ok short fun plain => absurd plain (by decide)
  | trim => exact brief_ok short fun _ => short_of_sublist (Text.trim_sublist _) fits
  | contains | startsWith | endsWith =>
    exact brief_unchanged short fun _ => .bind fun _ => .ok trivial
  | split =>
    simp only [TextMethod.call]
    split
    · refine brief_textList short fun piece member => ?_
      obtain ⟨chars, inside, rfl⟩ := List.mem_map.mp member
      exact short_of_sublist (Text.split_sublist inside) fits
    · exact brief_error short _
  | replace => exact brief_unchanged short fun plain => absurd plain (by decide)

theorem brief_callInt (method : NumberMethod) (number : Int64) (name : String)
    (arguments : List Value) :
    Brief limit (method.builds = false) (method.callInt number name arguments, store) := by
  cases method with
  | absolute | round | floor | ceil => exact brief_ok short fun _ => trivial
  | format => exact ⟨short, fun plain => absurd plain (by decide)⟩

theorem brief_callFloat (method : NumberMethod) (number : Float) (name : String)
    (arguments : List Value) :
    Brief limit (method.builds = false) (method.callFloat number name arguments, store) := by
  cases method with
  | absolute | round | floor | ceil => exact brief_ok short fun _ => trivial
  | format => exact ⟨short, fun plain => absurd plain (by decide)⟩

theorem brief_method {receiver : Value} (fits : receiver.Short limit) {name : String} {method : Method}
    (found : methodOf? receiver name = some method) (arguments : List Value) :
    Brief limit (name ∉ textBuilders) (method.call receiver name arguments store) := by
  unfold methodOf? at found
  split at found
  · next common there =>
    cases found
    exact (brief_commonMethod short common receiver).imp (builds_of_lookup (by decide) there)
  · cases receiver with
    | nil =>
      obtain ⟨method, _, rfl⟩ := Option.map_eq_some_iff.mp found
      cases method <;> exact brief_ok short fun _ => trivial
    | bool _ => cases found
    | int number =>
      obtain ⟨method, there, rfl⟩ := Option.map_eq_some_iff.mp found
      exact (brief_callInt short method number name arguments).imp (builds_of_lookup (by decide) there)
    | float number =>
      obtain ⟨method, there, rfl⟩ := Option.map_eq_some_iff.mp found
      exact (brief_callFloat short method number name arguments).imp
        (builds_of_lookup (by decide) there)
    | str text =>
      obtain ⟨method, there, rfl⟩ := Option.map_eq_some_iff.mp found
      exact (brief_textMethod short method fits name arguments).imp
        (builds_of_lookup (by decide) there)
    | list list =>
      obtain ⟨method, there, rfl⟩ := Option.map_eq_some_iff.mp found
      exact (brief_listMethod short method list name arguments).imp
        (builds_of_lookup (by decide) there)
    | map map =>
      obtain ⟨method, _, rfl⟩ := Option.map_eq_some_iff.mp found
      exact brief_mapMethod short method map name arguments
    | record record =>
      obtain ⟨method, _, rfl⟩ := Option.map_eq_some_iff.mp found
      exact brief_recordMethod short method record

/-- **A method that is not called by the name of one that makes texts keeps the limit.** -/
theorem brief_callMethod {receiver : Value} (fits : receiver.Short limit) (name : String)
    (arguments : List Value) :
    Brief limit (name ∉ textBuilders) (callMethod receiver name arguments store) := by
  unfold callMethod
  split
  · exact brief_error short _
  · split
    · next method found => exact brief_method short fits found arguments
    · exact brief_error short _

/-! ### Looking into a value -/

/-- **So does a field**, which may be a method. -/
theorem brief_readField {target : Value} (fits : target.Short limit) (name : String) :
    Brief limit (name ∉ textBuilders) (readField target name store) := by
  cases target with
  | nil => exact brief_ok short fun _ => trivial
  | map map =>
    simp only [readField]
    have got := TrackedMap.obtains_get short map name
    generalize TrackedMap.get map name store = found at got ⊢
    obtain ⟨_ | value, once⟩ := found
    · have called := brief_callMethod got.store fits name []
      simp only
      generalize callMethod (.map map) name [] once = result at called ⊢
      obtain ⟨_ | value, twice⟩ := result
      · exact brief_ok called.store fun _ => trivial
      · exact called
    · exact brief_ok got.store fun _ => got.value value rfl
  | record record =>
    simp only [readField]
    have got := TrackedRecord.obtains_get short record name
    generalize TrackedRecord.get record name store = found at got ⊢
    obtain ⟨_ | value, once⟩ := found
    · have called := brief_callMethod got.store fits name []
      simp only
      generalize callMethod (.record record) name [] once = result at called ⊢
      obtain ⟨_ | value, twice⟩ := result
      · exact brief_error called.store _
      · exact called
    · exact brief_ok got.store fun _ => got.value value rfl
  | _ => exact brief_callMethod short fits name []

/-- **Looking up an index keeps the limit.** -/
theorem brief_readIndex {target : Value} (fits : target.Short limit) (index : Value) :
    Brief limit plain (readIndex target index store) := by
  unfold readIndex
  split
  · exact brief_ok short fun _ => trivial
  · exact brief_orNil (TrackedList.obtains_item short _ _)
  · exact brief_orNil (TrackedMap.obtains_get short _ _)
  · exact brief_orNil (TrackedRecord.obtains_get short _ _)
  · exact brief_ok short fun _ => short_textItem fits _
  · exact brief_error short _

end

end Render

end ReactiveView
