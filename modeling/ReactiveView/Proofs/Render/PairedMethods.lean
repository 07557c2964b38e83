/-
**Operators and methods side by side.**

An operator or a method that gets paired values gives paired values, or refuses both times with
one and the same error. What it reads stays as it was, and what it makes is paired anew.

* `readField_alike`, `readIndex_alike`, `callMethod_alike` — looking into a value.
* `binary_alike` — operators of two operands.
-/

import ReactiveView.Proofs.Render.Lockstep
import ReactiveView.Proofs.Tracked.PairedReading

namespace ReactiveView.Render

/-- Two outcomes that leave the stores side by side: corresponding results, or the same error. -/
def ReadAlike {α β : Type} (pairing : Pairing) (left right : Store)
    (relation : Pairing → α → β → Prop) (first : Except Error α × Store)
    (second : Except Error β × Store) : Prop :=
  ∃ larger, Store.Advance pairing left right larger first.2 second.2 ∧
    AlikeResult (relation larger) first.1 second.1

section

variable {pairing : Pairing} {left right : Store} (paired : Store.Paired pairing left right)
include paired

theorem ReadAlike.still {first second : Except Error Value}
    (alike : AlikeResult (Value.Paired pairing) first second) :
    ReadAlike pairing left right Value.Paired (first, left) (second, right) :=
  ⟨pairing, .refl paired, alike⟩

omit paired in
theorem ReadAlike.orNil {first second : Option Value × Store}
    (found : Option.Rel (Value.Paired pairing) first.1 second.1 ∧
      Store.Advance pairing left right pairing first.2 second.2) :
    ReadAlike pairing left right Value.Paired (orNil first) (orNil second) := by
  refine ⟨pairing, found.2, .ok ?_⟩
  obtain ⟨value, store⟩ := first
  obtain ⟨other, another⟩ := second
  cases found.1 with
  | none => exact .scalar rfl
  | some values => exact values

omit paired in
theorem ReadAlike.made {first second : Value × Store}
    (made : ∃ larger, Store.Advance pairing left right larger first.2 second.2 ∧
      first.1.Paired larger second.1) :
    ReadAlike pairing left right Value.Paired (given first) (given second) := by
  obtain ⟨larger, advance, values⟩ := made
  exact ⟨larger, advance, .ok values⟩

/-! ### Operators -/

/-- The results that no store is needed to understand. -/
def Plain (result : Except Error Value) : Prop := ∀ value, result = .ok value → value.ref? = none

omit paired in
theorem alike_of_plain {first second : Except Error Value} (same : first = second)
    (plain : Plain first) : AlikeResult (Value.Paired pairing) first second := by
  subst same
  cases first with
  | ok value => exact .ok (.scalar (plain value rfl))
  | error error => exact .error error

end

theorem plain_ok {value : Value} (plain : value.ref? = none) : Plain (.ok value) := by
  rintro _ ⟨⟩
  exact plain

theorem plain_error (error : Error) : Plain (.error error) := nofun

theorem plain_bind {α : Type} (result : Except Error α) {next : α → Except Error Value}
    (plain : ∀ value, Plain (next value)) : Plain (result >>= next) := by
  cases result with
  | ok value => exact plain value
  | error error => exact plain_error error

theorem plain_exactInt (number : Int) : Plain (exactInt number) := by
  unfold exactInt
  split
  · exact plain_ok rfl
  · exact plain_error _

theorem plain_arithmetic (op : Arithmetic) (left right : Value) :
    Plain (arithmetic op left right) := by
  unfold arithmetic
  split
  · cases op <;> simp only [integers, divisionByZero] <;> (repeat' split) <;>
      first | exact plain_exactInt _ | exact plain_error _
  · split
    · exact plain_ok rfl
    · exact plain_error _

theorem plain_joined (limit : Nat) (left right : String) : Plain (joined limit left right) := by
  unfold joined
  simp only
  split
  · exact plain_error _
  · exact plain_ok rfl

theorem plain_product (limit : Nat) (left right : Value) : Plain (product limit left right) := by
  unfold product
  split
  · unfold repeated
    repeat' split
    · exact plain_ok rfl
    · exact plain_error _
    · exact plain_ok rfl
  · exact plain_arithmetic _ _ _

theorem plain_unary (op : UnaryOp) (value : Value) : Plain (unary op value) := by
  unfold unary
  split
  · exact plain_ok rfl
  · exact plain_exactInt _
  · exact plain_ok rfl
  · exact plain_error _

section

variable {pairing : Pairing} {first second other opposed : Value}

theorem arithmetic_eq_of_paired (values : first.Paired pairing second)
    (others : other.Paired pairing opposed) (op : Arithmetic) :
    arithmetic op first other = arithmetic op second opposed := by
  cases values <;> cases others with
  | scalar _ => rfl
  | _ => first | rfl | (cases first <;> rfl)

theorem product_eq_of_paired (values : first.Paired pairing second)
    (others : other.Paired pairing opposed) (limit : Nat) :
    product limit first other = product limit second opposed := by
  cases values <;> cases others with
  | scalar _ => rfl
  | _ => first | rfl | (cases first <;> rfl)

theorem mismatch_eq_of_paired (values : first.Paired pairing second)
    (others : other.Paired pairing opposed) (op : BinaryOp) :
    mismatch op first other = mismatch op second opposed := by
  rw [mismatch, mismatch, values.typeName, others.typeName]

end

section

variable {pairing : Pairing} {left right : Store} (paired : Store.Paired pairing left right)
include paired

theorem sum_alike {first second other opposed : Value} (values : first.Paired pairing second)
    (others : other.Paired pairing opposed) (limit : Nat) :
    ReadAlike pairing left right Value.Paired (sum limit first other left)
      (sum limit second opposed right) := by
  have numbers : ReadAlike pairing left right Value.Paired (arithmetic .add first other, left)
      (arithmetic .add second opposed, right) :=
    .still paired
      (alike_of_plain (arithmetic_eq_of_paired values others .add) (plain_arithmetic _ _ _))
  have front (text : String) : ReadAlike pairing left right Value.Paired
      (joined limit text (other.text left), left) (joined limit text (opposed.text right), right) :=
    .still paired
      (alike_of_plain (by rw [Value.text_eq_of_paired paired others]) (plain_joined _ _ _))
  have back (text : String) : ReadAlike pairing left right Value.Paired
      (joined limit (first.text left) text, left) (joined limit (second.text right) text, right) :=
    .still paired
      (alike_of_plain (by rw [Value.text_eq_of_paired paired values]) (plain_joined _ _ _))
  cases values with
  | scalar plain =>
    cases first with
    | str text => exact front text
    | list _ | map _ | record _ => cases plain
    | _ =>
      cases others with
      | scalar _ => cases other <;> first | exact numbers | exact back _
      | _ => exact numbers
  | list refs =>
    cases others with
    | scalar plain => cases other <;> first | exact numbers | exact back _ | cases plain
    | list opposite =>
      obtain ⟨front, once⟩ := TrackedList.iterate_paired paired refs
      obtain ⟨back, twice⟩ := TrackedList.iterate_paired once.paired opposite
      obtain ⟨larger, made, lists⟩ := Store.newList_paired twice.paired (List.rel_append front back)
      exact ⟨larger, (once.trans twice).trans made, .ok lists⟩
    | _ => exact numbers
  | map refs =>
    cases others with
    | scalar plain => cases other <;> first | exact numbers | exact back _ | cases plain
    | map opposite =>
      obtain ⟨front, once⟩ := TrackedMap.iterate_paired paired refs
      obtain ⟨back, twice⟩ := TrackedMap.iterate_paired once.paired opposite
      have entries := OrderedMap.Paired.ofList (List.rel_append front back)
      obtain ⟨larger, made, maps⟩ := Store.newMap_paired twice.paired entries
      exact ⟨larger, (once.trans twice).trans made, .ok maps⟩
    | _ => exact numbers
  | record refs =>
    cases others with
    | scalar _ => cases other <;> first | exact numbers | exact back _
    | _ => exact numbers

/-- **An operator on paired values.** -/
theorem binary_alike {first second other opposed : Value} (values : first.Paired pairing second)
    (others : other.Paired pairing opposed) (op : BinaryOp) (limit : Nat) :
    ReadAlike pairing left right Value.Paired (binary op limit first other left)
      (binary op limit second opposed right) := by
  cases op with
  | eq =>
    refine .still paired (alike_of_plain ?_ (plain_ok rfl))
    rw [Value.same_eq_of_paired paired values others]
  | ne =>
    refine .still paired (alike_of_plain ?_ (plain_ok rfl))
    rw [Value.same_eq_of_paired paired values others]
  | comparison op =>
    simp only [binary, values.compare others, mismatch_eq_of_paired values others]
    split
    · exact .still paired (.ok (.scalar rfl))
    · exact .still paired (.error _)
  | arithmetic op =>
    cases op with
    | add => exact sum_alike paired values others limit
    | mul =>
      exact .still paired
        (alike_of_plain (product_eq_of_paired values others limit) (plain_product _ _ _))
    | _ =>
      exact .still paired
        (alike_of_plain (arithmetic_eq_of_paired values others _) (plain_arithmetic _ _ _))
  | and =>
    simp only [binary, values.isTruthy]
    split
    · exact .still paired (.ok others)
    · exact .still paired (.ok values)
  | or =>
    simp only [binary, values.isTruthy]
    split
    · exact .still paired (.ok values)
    · exact .still paired (.ok others)

/-! ### Arguments -/

section

variable {arguments others : List Value}
  (alike : List.Forall₂ (Value.Paired pairing) arguments others)
include alike

omit paired in
theorem argument_alike (index : Nat) (name : String) :
    AlikeResult (Value.Paired pairing) (argument arguments index name)
      (argument others index name) := by
  have found := getElem?_of_forall₂ alike index
  unfold argument
  generalize arguments[index]? = value, others[index]? = other at found ⊢
  cases found with
  | none => exact .error _
  | some values => exact .ok values

omit paired in
theorem intArgument_eq (index : Nat) (name : String) :
    intArgument arguments index name = intArgument others index name := by
  have found := argument_alike alike index name
  unfold intArgument
  generalize argument arguments index name = value, argument others index name = other at found ⊢
  cases found with
  | ok values => simp only [bind, Except.bind, integer, values.asInt?]
  | error error => rfl

theorem textArgument_eq (index : Nat) (name : String) :
    textArgument arguments index name left = textArgument others index name right := by
  have found := argument_alike alike index name
  unfold textArgument
  generalize argument arguments index name = value, argument others index name = other at found ⊢
  cases found with
  | ok values => simp only [bind, Except.bind, Value.text_eq_of_paired paired values]
  | error error => rfl

omit paired in
theorem sliceBounds_eq (name : String) : sliceBounds arguments name = sliceBounds others name := by
  have found := getElem?_of_forall₂ alike 1
  unfold sliceBounds
  rw [intArgument_eq alike]
  generalize arguments[1]? = value, others[1]? = other at found ⊢
  cases found with
  | none => rfl
  | some values => simp only [integer, values.asInt?]

/-! ### Methods -/

theorem listMethod_alike {first second : Ref} (refs : pairing first second) (method : ListMethod)
    (name : String) :
    ReadAlike pairing left right Value.Paired (method.call first name arguments left)
      (method.call second name others right) := by
  have derived {made other : Ref × Store}
      (derived : ∃ larger, Store.Advance pairing left right larger made.2 other.2 ∧
        larger made.1 other.1) :
      ReadAlike pairing left right Value.Paired (.ok (.list made.1), made.2)
        (.ok (.list other.1), other.2) := by
    obtain ⟨larger, advance, lists⟩ := derived
    exact ⟨larger, advance, .ok (.list lists)⟩
  cases method with
  | length =>
    refine .still paired (alike_of_plain ?_ (plain_ok rfl))
    rw [(paired.items refs).length_eq]
  | isEmpty =>
    refine .still paired (alike_of_plain ?_ (plain_ok rfl))
    rw [isEmpty_eq_of_forall₂ (paired.items refs)]
  | first => exact .orNil (TrackedList.get_paired paired refs 0)
  | last => exact .orNil (TrackedList.last_paired paired refs)
  | item =>
    simp only [ListMethod.call, intArgument_eq alike]
    split
    · exact .orNil (TrackedList.item_paired paired refs _)
    · exact .still paired (.error _)
  | contains =>
    have found := argument_alike alike 0 name
    simp only [ListMethod.call, unchanged]
    generalize argument arguments 0 name = value, argument others 0 name = other at found ⊢
    cases found with
    | ok values =>
      refine .still paired (alike_of_plain ?_ (plain_ok rfl))
      exact congrArg (fun place : Option Nat => Except.ok (Value.bool place.isSome))
        (TrackedList.position_eq_of_paired paired refs values)
    | error error => exact .still paired (.error error)
  | position =>
    have found := argument_alike alike 0 name
    simp only [ListMethod.call, unchanged]
    generalize argument arguments 0 name = value, argument others 0 name = other at found ⊢
    cases found with
    | ok values =>
      refine .still paired (.ok ?_)
      simp only [TrackedList.position_eq_of_paired paired refs values]
      cases TrackedList.position second _ right <;> exact .scalar rfl
    | error error => exact .still paired (.error error)
  | join =>
    refine .still paired (alike_of_plain ?_ (plain_ok rfl))
    have separator : (arguments.head?.getD .nil).Paired pairing (others.head?.getD .nil) := by
      cases alike with
      | nil => exact .scalar rfl
      | cons here _ => exact here
    rw [Value.text_eq_of_paired paired separator, TrackedList.join_eq_of_paired paired refs]
  | slice =>
    simp only [ListMethod.call, sliceBounds_eq alike]
    split
    · refine derived (TrackedList.derive_paired paired ?_)
      rw [(paired.items refs).length_eq]
      exact List.forall₂_drop _ (List.forall₂_take _ (paired.items refs))
    · exact .still paired (.error _)
  | reversed =>
    exact derived (TrackedList.derive_paired paired (List.rel_reverse (paired.items refs)))
  | sorted =>
    exact derived (TrackedList.derive_paired paired
      (TrackedList.sortItems_paired (paired.items refs)))
  | compact =>
    obtain ⟨items, once⟩ := TrackedList.iterate_paired paired refs
    have kept (item other : Value) (same : item.Paired pairing other) :
        (!item.isNil) = !other.isNil := by rw [same.isNil]
    obtain ⟨larger, made, lists⟩ := TrackedList.derive_paired once.paired
      (filter_of_forall₂ items kept)
    exact derived ⟨larger, once.trans made, lists⟩

omit alike in
theorem textList_alike {texts others : List String} (same : texts = others) :
    ReadAlike pairing left right Value.Paired (textList left texts) (textList right others) := by
  subst same
  refine .made (Store.newList_paired paired ?_)
  exact List.forall₂_map_left_iff.mpr (List.forall₂_map_right_iff.mpr
    (List.forall₂_same.mpr fun text _ => .scalar rfl))

theorem mapMethod_alike {first second : Ref} (refs : pairing first second) (method : MapMethod)
    (name : String) :
    ReadAlike pairing left right Value.Paired (method.call first name arguments left)
      (method.call second name others right) := by
  have entries := paired.entries refs
  cases method with
  | length =>
    refine .still paired (alike_of_plain ?_ (plain_ok rfl))
    rw [OrderedMap.Paired.size entries]
  | isEmpty =>
    refine .still paired (alike_of_plain ?_ (plain_ok rfl))
    simp only [OrderedMap.isEmpty, isEmpty_eq_of_forall₂ entries]
  | get =>
    simp only [MapMethod.call, textArgument_eq paired alike]
    split
    · exact .orNil (TrackedMap.get_paired paired refs _)
    · exact .still paired (.error _)
  | hasKey =>
    simp only [MapMethod.call, unchanged, textArgument_eq paired alike]
    refine .still paired (alike_of_plain ?_ (plain_bind _ fun _ => plain_ok rfl))
    congr 1
    funext key
    have found := OrderedMap.Paired.get? entries (String.ofList key)
    unfold OrderedMap.contains
    generalize (left.entries first).get? (String.ofList key) = value,
      (right.entries second).get? (String.ofList key) = other at found ⊢
    cases found <;> rfl
  | keys => exact textList_alike paired (OrderedMap.Paired.keys entries)
  | values =>
    obtain ⟨pairs, once⟩ := TrackedMap.iterate_paired paired refs
    have values := List.forall₂_map_left_iff.mpr (List.forall₂_map_right_iff.mpr
      (pairs.imp fun _ _ entry => entry.2))
    obtain ⟨larger, made, lists⟩ := Store.newList_paired once.paired values
    exact ⟨larger, once.trans made, .ok lists⟩

omit alike in
theorem recordMethod_alike {first second : Ref} (refs : pairing first second)
    (method : RecordMethod) :
    ReadAlike pairing left right Value.Paired (method.call first left)
      (method.call second right) := by
  cases method with
  | typeName =>
    refine .still paired (alike_of_plain ?_ (plain_ok rfl))
    rw [paired.recordName refs]
  | toMap =>
    obtain ⟨larger, made, maps⟩ := TrackedRecord.toMap_paired paired refs
    exact ⟨larger, made, .ok (.map maps)⟩
  | fields => exact textList_alike paired (OrderedMap.Paired.keys (paired.fields refs))

theorem textMethod_alike (text : String) (method : TextMethod) (name : String) :
    ReadAlike pairing left right Value.Paired (method.call text name arguments left)
      (method.call text name others right) := by
  cases method with
  | length | isEmpty | upper | lower | trim | capitalize => exact .still paired (.ok (.scalar rfl))
  | contains | startsWith | endsWith =>
    simp only [TextMethod.call, unchanged, textArgument_eq paired alike]
    exact .still paired (alike_of_plain rfl (plain_bind _ fun _ => plain_ok rfl))
  | split =>
    simp only [TextMethod.call, textArgument_eq paired alike]
    split
    · exact textList_alike paired rfl
    · exact .still paired (.error _)
  | replace =>
    simp only [TextMethod.call, unchanged, textArgument_eq paired alike]
    exact .still paired
      (alike_of_plain rfl (plain_bind _ fun _ => plain_bind _ fun _ => plain_ok rfl))

omit paired in
theorem callInt_alike (number : Int64) (method : NumberMethod) (name : String) :
    AlikeResult (Value.Paired pairing) (method.callInt number name arguments)
      (method.callInt number name others) := by
  cases method with
  | format =>
    simp only [NumberMethod.callInt, placesArgument, intArgument_eq alike]
    exact alike_of_plain rfl (plain_bind _ fun _ => plain_ok rfl)
  | _ => exact .ok (.scalar rfl)

omit paired in
theorem callFloat_alike (number : Float) (method : NumberMethod) (name : String) :
    AlikeResult (Value.Paired pairing) (method.callFloat number name arguments)
      (method.callFloat number name others) := by
  cases method with
  | format =>
    simp only [NumberMethod.callFloat, placesArgument, intArgument_eq alike]
    exact alike_of_plain rfl (plain_bind _ fun _ => plain_ok rfl)
  | _ => exact .ok (.scalar rfl)

/-- **A method of paired receivers.** -/
theorem callMethod_alike {first second : Value} (values : first.Paired pairing second)
    (name : String) :
    ReadAlike pairing left right Value.Paired (callMethod first name arguments left)
      (callMethod second name others right) := by
  unfold callMethod
  split
  · exact .still paired (.error _)
  unfold methodOf?
  cases commonMethods.lookup name with
  | some method =>
    refine .still paired (alike_of_plain ?_ (plain_ok (by cases method <;> rfl)))
    cases method with
    | text => simp only [CommonMethod.call, Value.text_eq_of_paired paired values]
    | typeName => simp only [CommonMethod.call, values.typeName]
    | isNil => simp only [CommonMethod.call, values.isNil]
  | none =>
    rw [values.typeName]
    cases values with
    | scalar plain =>
      cases first with
      | nil =>
        cases nilMethods.lookup name with
        | some method => exact .still paired (.ok (.scalar (by cases method <;> rfl)))
        | none => exact .still paired (.error _)
      | bool _ => exact .still paired (.error _)
      | int number =>
        cases numberMethods.lookup name with
        | some method => exact .still paired (callInt_alike alike number method name)
        | none => exact .still paired (.error _)
      | float number =>
        cases numberMethods.lookup name with
        | some method => exact .still paired (callFloat_alike alike number method name)
        | none => exact .still paired (.error _)
      | str text =>
        cases textMethods.lookup name with
        | some method => exact textMethod_alike paired alike text method name
        | none => exact .still paired (.error _)
      | list _ | map _ | record _ => cases plain
    | list refs =>
      cases listMethods.lookup name with
      | some method => exact listMethod_alike paired alike refs method name
      | none => exact .still paired (.error _)
    | map refs =>
      cases mapMethods.lookup name with
      | some method => exact mapMethod_alike paired alike refs method name
      | none => exact .still paired (.error _)
    | record refs =>
      cases recordMethods.lookup name with
      | some method => exact recordMethod_alike paired refs method
      | none => exact .still paired (.error _)

end

/-! ### Looking into a value -/

/-- **A field of paired values.** -/
theorem readField_alike {first second : Value} (values : first.Paired pairing second)
    (name : String) :
    ReadAlike pairing left right Value.Paired (readField first name left)
      (readField second name right) := by
  have called {leftAfter rightAfter : Store} (paired : Store.Paired pairing leftAfter rightAfter) :=
    callMethod_alike paired List.Forall₂.nil values name
  cases values with
  | scalar plain =>
    cases first with
    | nil => exact .still paired (.ok (.scalar rfl))
    | list _ | map _ | record _ => cases plain
    | _ => exact called paired
  | list refs => exact called paired
  | @map ref opposed refs =>
    obtain ⟨found, once⟩ := TrackedMap.get_paired paired refs name
    simp only [readField]
    generalize TrackedMap.get ref name left = got, TrackedMap.get opposed name right = given
      at found once ⊢
    obtain ⟨value, leftOnce⟩ := got
    obtain ⟨other, rightOnce⟩ := given
    cases found with
    | some values => exact ⟨pairing, once, .ok values⟩
    | none =>
      obtain ⟨larger, twice, results⟩ := called once.paired
      simp only
      generalize callMethod (.map ref) name [] leftOnce = result,
        callMethod (.map opposed) name [] rightOnce = another at twice results ⊢
      obtain ⟨result, leftTwice⟩ := result
      obtain ⟨another, rightTwice⟩ := another
      cases results with
      | ok values => exact ⟨larger, once.trans twice, .ok values⟩
      | error error => exact ⟨larger, once.trans twice, .ok (.scalar rfl)⟩
  | @record ref opposed refs =>
    obtain ⟨found, once⟩ := TrackedRecord.get_paired paired refs name
    simp only [readField]
    generalize TrackedRecord.get ref name left = got, TrackedRecord.get opposed name right = given
      at found once ⊢
    obtain ⟨value, leftOnce⟩ := got
    obtain ⟨other, rightOnce⟩ := given
    cases found with
    | some values => exact ⟨pairing, once, .ok values⟩
    | none =>
      obtain ⟨larger, twice, results⟩ := called once.paired
      simp only
      generalize callMethod (.record ref) name [] leftOnce = result,
        callMethod (.record opposed) name [] rightOnce = another at twice results ⊢
      obtain ⟨result, leftTwice⟩ := result
      obtain ⟨another, rightTwice⟩ := another
      cases results with
      | ok values => exact ⟨larger, once.trans twice, .ok values⟩
      | error error =>
        simp only [twice.paired.recordName (twice.enlarges _ _ refs)]
        exact ⟨larger, once.trans twice, .error _⟩

/-- **What paired values hold at paired indexes.** -/
theorem readIndex_alike {first second place opposed : Value} (values : first.Paired pairing second)
    (places : place.Paired pairing opposed) :
    ReadAlike pairing left right Value.Paired (readIndex first place left)
      (readIndex second opposed right) := by
  have refused : ReadAlike pairing left right Value.Paired
      (.error (.eval ("cannot index " ++ first.typeName ++ " with " ++ place.typeName)), left)
      (.error (.eval ("cannot index " ++ second.typeName ++ " with " ++ opposed.typeName)),
        right) := by
    rw [values.typeName, places.typeName]
    exact .still paired (.error _)
  cases values with
  | scalar plain =>
    cases first with
    | nil => exact .still paired (.ok (.scalar rfl))
    | list _ | map _ | record _ => cases plain
    | str text =>
      cases places with
      | scalar _ =>
        cases place with
        | int number =>
          refine .still paired (alike_of_plain rfl (plain_ok ?_))
          simp only [textItem]
          generalize (if number.toInt < 0 then _ else number.toInt) = index
          split
          · rfl
          · cases text.toList[index.toNat]? <;> rfl
        | _ => exact refused
      | _ => exact refused
    | _ => cases places <;> exact refused
  | list refs =>
    cases places with
    | scalar _ =>
      cases place with
      | int number => exact .orNil (TrackedList.item_paired paired refs _)
      | _ => exact refused
    | _ => exact refused
  | map refs =>
    simp only [readIndex, Value.text_eq_of_paired paired places]
    exact .orNil (TrackedMap.get_paired paired refs _)
  | record refs =>
    simp only [readIndex, Value.text_eq_of_paired paired places]
    exact .orNil (TrackedRecord.get_paired paired refs _)

end

end ReactiveView.Render
