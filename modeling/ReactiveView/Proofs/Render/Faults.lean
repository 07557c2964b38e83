/-
**Where the error of a rendering comes from.**

A rendering fails in one of its parts. The error is one of the template itself, as of an operator whose
operands have the wrong types, or it is the answer to a question: a variable, a helper or a child that
the template has asked for on its way could not be given.

* `Error.isInnate` — the errors of the template itself.
* `innate_binary`, `innate_callMethod` — operators and methods have no others.
* `Scope.Raises` — an error that may come up on the way.
* `Eval.raising` — the errors of all steps of a template come up on the way.
* `raises_of_render` — so does the error of a rendering.
* `Scope.Raises.allowed` — what every move keeps rules out errors.
-/

import ReactiveView.Proofs.Render.Mirror
import ReactiveView.Proofs.Render.Steps

namespace ReactiveView

variable {σ α β : Type}

/-- Whether an error is one of an expression itself, whatever surrounds it. -/
def Error.isInnate : Error → Bool
  | .eval _ | .undefinedVariable _ | .unknownField _ _ => true
  | _ => false

namespace Render

/-! ### Operators and methods -/

/-- A result whose error, if it is one, is innate. -/
structure Innate (result : Except Error α) : Prop where
  isInnate : ∀ error, result = .error error → error.isInnate = true

namespace Innate

theorem ok (value : α) : Innate (.ok value : Except Error α) := ⟨fun _ => nofun⟩

theorem eval (reason : String) : Innate (.error (.eval reason) : Except Error α) := by
  refine ⟨?_⟩
  rintro _ ⟨⟩
  rfl

/-- An error that one result has passes on to another one. -/
theorem error {error : Error} (innate : Innate (.error error : Except Error α)) :
    Innate (.error error : Except Error β) := by
  refine ⟨?_⟩
  rintro _ ⟨⟩
  exact innate.isInnate error rfl

theorem bind {result : Except Error α} (innate : Innate result) {next : α → Except Error β}
    (after : ∀ value, Innate (next value)) : Innate (result >>= next) := by
  cases result with
  | error error => exact innate.error
  | ok value => exact after value

end Innate

theorem innate_exactInt (number : Int) : Innate (exactInt number) := by
  unfold exactInt
  split
  · exact .ok _
  · exact .eval _

theorem innate_integers (op : Arithmetic) (left right : Int) : Innate (integers op left right) := by
  cases op with
  | add | sub | mul => exact innate_exactInt _
  | div =>
    change Innate (if right = 0 then divisionByZero else exactInt (left / right))
    split
    · exact .eval _
    · exact innate_exactInt _
  | rem =>
    change Innate (if right = 0 then divisionByZero
      else if Integer.fits (left / right) then exactInt (left % right)
      else .error (.eval "integer overflow"))
    split
    · exact .eval _
    · split
      · exact innate_exactInt _
      · exact .eval _

theorem innate_arithmetic (op : Arithmetic) (left right : Value) :
    Innate (arithmetic op left right) := by
  unfold arithmetic
  split
  · exact innate_integers ..
  · split
    · exact .ok _
    · exact .eval _

theorem innate_joined (limit : Nat) (left right : String) : Innate (joined limit left right) := by
  unfold joined
  dsimp only
  split
  · exact .eval _
  · exact .ok _

theorem innate_sum (limit : Nat) (left right : Value) (store : Store) :
    Innate (sum limit left right store).1 := by
  unfold sum
  split
  · exact innate_joined ..
  · exact innate_joined ..
  · exact .ok _
  · exact .ok _
  · exact innate_arithmetic ..

theorem innate_product (limit : Nat) (left right : Value) : Innate (product limit left right) := by
  unfold product
  split
  · unfold repeated
    split
    · exact .ok _
    · split
      · exact .eval _
      · exact .ok _
  · exact innate_arithmetic ..

theorem innate_binary (op : BinaryOp) (limit : Nat) (left right : Value) (store : Store) :
    Innate (binary op limit left right store).1 := by
  cases op with
  | eq | ne | and | or => exact .ok _
  | comparison op =>
    simp only [binary]
    split
    · exact .ok _
    · exact .eval _
  | arithmetic op =>
    cases op with
    | add => exact innate_sum ..
    | mul => exact innate_product ..
    | sub | div | rem => exact innate_arithmetic ..

theorem innate_unary (op : UnaryOp) (value : Value) : Innate (unary op value) := by
  unfold unary
  split
  · exact .ok _
  · exact innate_exactInt _
  · exact .ok _
  · exact .eval _

theorem innate_argument (arguments : List Value) (index : Nat) (name : String) :
    Innate (argument arguments index name) := by
  unfold argument
  split
  · exact .ok _
  · exact .eval _

theorem innate_integer (value : Value) (name : String) : Innate (integer value name) := by
  unfold integer
  split
  · exact .ok _
  · exact .eval _

theorem innate_intArgument (arguments : List Value) (index : Nat) (name : String) :
    Innate (intArgument arguments index name) :=
  (innate_argument ..).bind fun _ => innate_integer ..

theorem innate_sliceBounds (arguments : List Value) (name : String) :
    Innate (sliceBounds arguments name) := by
  refine (innate_intArgument ..).bind fun start => ?_
  split
  · exact (innate_integer ..).bind fun _ => .ok _
  · exact .ok _

theorem innate_textArgument (arguments : List Value) (index : Nat) (name : String) (store : Store) :
    Innate (textArgument arguments index name store) := (innate_argument ..).bind fun _ => .ok _

theorem innate_listMethod (method : ListMethod) (list : Ref) (name : String) (arguments : List Value)
    (store : Store) : Innate (method.call list name arguments store).1 := by
  cases method with
  | length | isEmpty | first | last | join | reversed | sorted | compact => exact .ok _
  | contains | position => exact (innate_argument ..).bind fun _ => .ok _
  | item =>
    have index := innate_intArgument arguments 0 name
    unfold ListMethod.call
    generalize intArgument arguments 0 name = answer at index ⊢
    cases answer with
    | ok index => exact .ok _
    | error error => exact index.error
  | slice =>
    have bounds := innate_sliceBounds arguments name
    unfold ListMethod.call
    generalize sliceBounds arguments name = answer at bounds ⊢
    cases answer with
    | ok bounds => exact .ok _
    | error error => exact bounds.error

theorem innate_mapMethod (method : MapMethod) (map : Ref) (name : String) (arguments : List Value)
    (store : Store) : Innate (method.call map name arguments store).1 := by
  cases method with
  | length | isEmpty | keys | values => exact .ok _
  | hasKey => exact (innate_textArgument arguments 0 name store).bind fun _ => .ok _
  | get =>
    have key := innate_textArgument arguments 0 name store
    unfold MapMethod.call
    generalize textArgument arguments 0 name store = answer at key ⊢
    cases answer with
    | ok key => exact .ok _
    | error error => exact key.error

theorem innate_recordMethod (method : RecordMethod) (record : Ref) (store : Store) :
    Innate (method.call record store).1 := by
  cases method <;> exact .ok _

theorem innate_textMethod (method : TextMethod) (text : String) (name : String)
    (arguments : List Value) (store : Store) :
    Innate (method.call text name arguments store).1 := by
  have first := innate_textArgument arguments 0 name store
  cases method with
  | length | isEmpty | upper | lower | trim | capitalize => exact .ok _
  | contains | startsWith | endsWith => exact first.bind fun _ => .ok _
  | replace =>
    exact first.bind fun _ => (innate_textArgument arguments 1 name store).bind fun _ => .ok _
  | split =>
    unfold TextMethod.call
    generalize textArgument arguments 0 name store = answer at first ⊢
    cases answer with
    | ok separator => exact .ok _
    | error error => exact first.error

theorem innate_placesArgument (arguments : List Value) (name : String) :
    Innate (placesArgument arguments name) := (innate_intArgument arguments 0 name).bind fun _ => .ok _

theorem innate_callInt (method : NumberMethod) (number : Int64) (name : String)
    (arguments : List Value) : Innate (method.callInt number name arguments) := by
  cases method with
  | absolute | round | floor | ceil => exact .ok _
  | format => exact (innate_placesArgument arguments name).bind fun _ => .ok _

theorem innate_callFloat (method : NumberMethod) (number : Float) (name : String)
    (arguments : List Value) : Innate (method.callFloat number name arguments) := by
  cases method with
  | absolute | round | floor | ceil => exact .ok _
  | format => exact (innate_placesArgument arguments name).bind fun _ => .ok _

/-- **The errors of a method are innate.** -/
theorem innate_callMethod (receiver : Value) (name : String) (arguments : List Value) (store : Store) :
    Innate (callMethod receiver name arguments store).1 := by
  unfold callMethod
  split
  · exact .eval _
  · cases methodOf? receiver name with
    | none => exact .eval _
    | some method =>
      cases method with
      | common method => exact .ok _
      | ofNil method => exact .ok _
      | ofList list method => exact innate_listMethod ..
      | ofMap map method => exact innate_mapMethod ..
      | ofRecord record method => exact innate_recordMethod ..
      | ofText text method => exact innate_textMethod ..
      | ofInt number method => exact innate_callInt ..
      | ofFloat number method => exact innate_callFloat ..

theorem innate_readField (target : Value) (name : String) (store : Store) :
    Innate (readField target name store).1 := by
  cases target with
  | nil => exact .ok _
  | map map =>
    simp only [readField]
    split
    · exact .ok _
    · split <;> exact .ok _
  | record record =>
    simp only [readField]
    split
    · exact .ok _
    · split
      · exact .ok _
      · refine ⟨?_⟩
        rintro _ ⟨⟩
        rfl
  | _ => exact innate_callMethod ..

theorem innate_readIndex (target index : Value) (store : Store) :
    Innate (readIndex target index store).1 := by
  unfold readIndex
  split
  · exact .ok _
  · exact .ok _
  · exact .ok _
  · exact .ok _
  · exact .ok _
  · exact .eval _

theorem innate_foundOr (config : Config) (name : String) (found : Option Value) :
    Innate (Lockstep.foundOr config name found) := by
  unfold Lockstep.foundOr
  split
  · exact .ok _
  · split
    · refine ⟨?_⟩
      rintro _ ⟨⟩
      rfl
    · exact .ok _

end Render

/-! ### Questions -/

/-- **An error that may come up from here on**: it is innate, or it is the answer to a question; and
perhaps it names the part in which it arose. -/
inductive Scope.Raises (scope : Scope σ) (start : σ × Store) : Error → Prop
  | innate {error : Error} (innate : error.isInnate = true) : Raises scope start error
  | lookup {error : Error} {name : String} {world : σ} {store : Store}
    (moved : Relation.ReflTransGen scope.Move start (world, store))
    (failed : (scope.lookup name world store).1 = .error error) : Raises scope start error
  | call {error : Error} {name : String} {arguments : List Value} {world : σ} {store : Store}
    (moved : Relation.ReflTransGen scope.Move start (world, store))
    (failed : (scope.call name arguments world store).1 = .error error) : Raises scope start error
  | child {error : Error} {className id : String} {world : σ} {store : Store}
    (moved : Relation.ReflTransGen scope.Move start (world, store))
    (failed : (scope.renderChild className id world store).1 = .error error) :
    Raises scope start error
  | inPart {error : Error} (index : Nat) (source : String) (raises : Raises scope start error) :
    Raises scope start (.render index source error)

/-- What may come up later may come up from here on. -/
theorem Scope.Raises.of_moved {scope : Scope σ} {start middle : σ × Store} {error : Error}
    (raises : scope.Raises middle error) (moved : Relation.ReflTransGen scope.Move start middle) :
    scope.Raises start error := by
  induction raises with
  | innate innate => exact .innate innate
  | lookup further failed => exact .lookup (moved.trans further) failed
  | call further failed => exact .call (moved.trans further) failed
  | child further failed => exact .child (moved.trans further) failed
  | inPart index source _ ih => exact ih.inPart index source

namespace Render

/-- A step that goes on by moves, and whose error may come up on the way. -/
structure Eval.Raising (scope : Scope σ) (run : Eval σ α) : Prop where
  moved : ∀ pass, Relation.ReflTransGen scope.Move pass.around (run pass).2.around
  raises : ∀ pass error, (run pass).1 = .error error → scope.Raises pass.around error

namespace Eval.Raising

variable {scope : Scope σ} {config : Config} {run : Eval σ α}

theorem bind (raising : Raising scope run) {next : α → Eval σ β}
    (after : ∀ value, Raising scope (next value)) : Raising scope (run >>= next) := by
  have split (pass : Pass σ) : Relation.ReflTransGen scope.Move pass.around
        ((run >>= next) pass).2.around ∧
      ∀ error, ((run >>= next) pass).1 = .error error → scope.Raises pass.around error := by
    have moved := raising.moved pass
    have raises := raising.raises pass
    rw [bind_apply]
    generalize run pass = reached at moved raises ⊢
    obtain ⟨error | value, middle⟩ := reached
    · exact ⟨moved, fun other failed => raises other (Except.error.inj failed ▸ rfl)⟩
    · exact ⟨moved.trans ((after value).moved middle), fun error failed =>
        ((after value).raises middle error failed).of_moved moved⟩
  exact ⟨fun pass => (split pass).1, fun pass => (split pass).2⟩

/-- A step whose errors are innate. -/
theorem of_innate (moved : ∀ pass, Relation.ReflTransGen scope.Move pass.around (run pass).2.around)
    (innate : ∀ pass, Innate (run pass).1) : Raising scope run :=
  ⟨moved, fun pass error failed => .innate ((innate pass).isInnate error failed)⟩

/-- A step that leaves its surroundings alone. -/
theorem still (around : ∀ pass, (run pass).2.around = pass.around)
    (innate : ∀ pass, Innate (run pass).1) : Raising scope run :=
  .of_innate (fun pass => (around pass).symm ▸ .refl) innate

theorem onStore {f : Store → Outcome} (peruses : ∀ store : Store, store.Peruses (f store).2)
    (innate : ∀ store, Innate (f store).1) : Raising scope (Eval.onStore f) :=
  .of_innate (fun pass => .single (.grow pass.world (peruses pass.store).toGrows))
    fun pass => innate pass.store

/-- A name that the locals may know is looked up. -/
theorem answerFor (scope : Scope σ) (name : String) (known : Option Value) :
    Raising scope (Eval.asking (Render.answerFor scope name known)) := by
  cases known with
  | some value => exact .still (fun _ => rfl) fun _ => .ok _
  | none =>
    exact ⟨fun pass => .single (.lookup name pass.world pass.store),
      fun _ _ failed => .lookup .refl failed⟩

/-- A helper is called. -/
theorem call (scope : Scope σ) (name : String) (arguments : List Value) :
    Raising scope (Eval.asking (scope.call name arguments)) :=
  ⟨fun pass => .single (.call name arguments pass.world pass.store),
    fun _ _ failed => .call .refl failed⟩

/-- A child is rendered. -/
theorem renderChild (scope : Scope σ) (className id : String) :
    Raising scope (Eval.asking (scope.renderChild className id)) :=
  ⟨fun pass => .single (.child className id pass.world pass.store),
    fun _ _ failed => .child .refl failed⟩

theorem lookup (scope : Scope σ) (config : Config) (name : String) :
    Raising scope (Eval.lookup scope config name) := by
  have found (known : Option Value) : Raising scope
      (Eval.asking (Render.answerFor scope name known) >>= fun found =>
        Eval.settled (Lockstep.foundOr config name found)) :=
    bind (answerFor scope name known) fun found =>
      .still (fun _ => rfl) fun _ => innate_foundOr config name found
  constructor
  · intro pass
    rw [Lockstep.lookup_apply]
    exact (found (findLocal pass.frames name)).moved pass
  · intro pass error failed
    rw [Lockstep.lookup_apply] at failed
    exact (found (findLocal pass.frames name)).raises pass error failed

theorem child (scope : Scope σ) (className id : String) :
    Raising scope (Eval.child scope className id) := by
  have asked : Raising scope (Eval.asking (scope.renderChild className id) >>= fun child => do
      modify fun pass =>
        { pass with direct := pass.direct ++ [id], rendered := pass.rendered ++ child.rendered }
      return child.html) :=
    bind (renderChild scope className id) fun child => .still (fun _ => rfl) fun _ => .ok _
  constructor
  · intro pass
    rw [child_apply]
    split
    · exact asked.moved pass
    · exact .refl
  · intro pass error failed
    rw [child_apply] at failed
    split at failed
    · exact asked.raises pass error failed
    · cases failed

theorem helper (scope : Scope σ) (name : String) (arguments : List Value) :
    Raising scope (Eval.helper scope name arguments) := by
  refine (call scope name arguments).bind fun found => ?_
  cases found with
  | some value => exact .still (fun _ => rfl) fun _ => .ok _
  | none => exact .still (fun _ => rfl) fun _ => .eval _

theorem push (config : Config) (piece : Piece) : Raising scope (Eval.push config piece) := by
  refine .still (fun pass => ?_) fun pass => ?_ <;> rw [push_apply] <;> split
  · rfl
  · rfl
  · exact .eval _
  · exact .ok _

theorem pairs (config : Config) (iterable : Value) : Raising scope (Eval.pairs config iterable) := by
  cases iterable with
  | nil | int => exact .still (fun _ => rfl) fun _ => .ok _
  | list list =>
    exact .of_innate (fun pass => .single (.grow pass.world
      (TrackedList.peruses_iterate list pass.store).toGrows)) fun _ => .ok _
  | map map =>
    exact .of_innate (fun pass => .single (.grow pass.world
      (TrackedMap.peruses_iterate map pass.store).toGrows)) fun _ => .ok _
  | _ => exact .still (fun _ => rfl) fun _ => .eval _

theorem count (config : Config) : Raising scope (Eval.count config) := by
  refine .still (fun pass => ?_) fun pass => ?_ <;> rw [count_apply] <;> split
  · rfl
  · rfl
  · exact .eval _
  · exact .ok _

/-- A part fails as what runs in it, and is named. -/
theorem inPart (raising : Raising scope run) (index : Nat) (source : String) :
    Raising scope (Render.inPart index source run) := by
  have split (pass : Pass σ) : Relation.ReflTransGen scope.Move pass.around
        (Render.inPart index source run pass).2.around ∧
      ∀ error, (Render.inPart index source run pass).1 = .error error →
        scope.Raises pass.around error := by
    have moved := raising.moved pass
    have raises := raising.raises pass
    unfold Render.inPart
    generalize run pass = reached at moved raises ⊢
    obtain ⟨error | value, middle⟩ := reached
    · refine ⟨moved, ?_⟩
      rintro _ ⟨⟩
      exact .inPart index source (raises error rfl)
    · exact ⟨moved, fun _ => nofun⟩
  exact ⟨fun pass => (split pass).1, fun pass => (split pass).2⟩

end Eval.Raising

/-- **All steps of a template go on by moves**, and their errors come up on the way. -/
theorem Eval.raising (scope : Scope σ) (config : Config) :
    Eval.Law scope config fun run => Eval.Raising scope run where
  pure _ := .still (fun _ => rfl) fun _ => .ok _
  bind raising after := raising.bind after
  refuse _ := .still (fun _ => rfl) fun _ => .eval _
  textOf _ := .still (fun _ => rfl) fun _ => .ok _
  newList values := .of_innate (fun pass => .single (.grow pass.world
    (Store.peruses_newList pass.store values).toGrows)) fun _ => .ok _
  field target name := .onStore (peruses_readField target name) (innate_readField target name)
  index target index := .onStore (peruses_readIndex target index) (innate_readIndex target index)
  method receiver name arguments :=
    .onStore (peruses_callMethod receiver name arguments) (innate_callMethod receiver name arguments)
  unary op value := .still (fun _ => rfl) fun _ => innate_unary op value
  binary op left right := .onStore (peruses_binary op _ left right) (innate_binary op _ left right)
  lookup name := .lookup scope config name
  child className id := .child scope className id
  helper name arguments := .helper scope name arguments
  push piece := .push config piece
  pairs iterable := .pairs config iterable
  count := .count config
  enter _ := .still (fun _ => rfl) fun _ => .ok _
  leave := .still (fun _ => rfl) fun _ => .ok _
  bindLocal name value := by
    refine .still (fun pass => ?_) fun pass => ?_ <;> rw [Eval.bind_eq]
    · rfl
    · exact .ok _
  start _ := .still (fun _ => rfl) fun _ => .ok _
  finish := .still (fun _ => rfl) fun _ => .ok _
  inPart index source _ raising := raising.inPart index source

/-- **The error of a rendering comes up on the way.** -/
theorem raises_of_render {template : Template} {dirty : Dirty} {view after : ClientView}
    {scope : Scope σ} {config : Config} {world reached : σ} {store stored : Store} {error : Error}
    (ran : render template dirty view scope config world store =
      (.error error, after, reached, stored)) : scope.Raises (world, store) error := by
  have raises := ((Eval.raising scope config).runParts (isDense template dirty view) dirty 0
    NameSet.empty template.parts).raises (Pass.start world store)
  simp only [render, ExceptT.run] at ran
  generalize runParts scope config (isDense template dirty view) dirty 0 NameSet.empty template.parts
    (Pass.start world store) = outcome at raises ran
  obtain ⟨other | ⟨slots, children⟩, pass⟩ := outcome
  · cases ran
    exact raises _ rfl
  · cases ran

end Render

/-- **What every move keeps rules out errors**: none comes up that no answer can be. -/
theorem Scope.Raises.allowed {scope : Scope σ} {motive : σ × Store → Prop} {start : σ × Store}
    {error : Error} (raises : scope.Raises start error) (allowed : Error → Prop)
    (moves : ∀ {before after}, scope.Move before after → motive before → motive after)
    (innate : ∀ error : Error, error.isInnate = true → allowed error)
    (inPart : ∀ index source error, allowed error → allowed (.render index source error))
    (lookup : ∀ {world store}, motive (world, store) → ∀ name error,
      (scope.lookup name world store).1 = .error error → allowed error)
    (call : ∀ {world store}, motive (world, store) → ∀ name arguments error,
      (scope.call name arguments world store).1 = .error error → allowed error)
    (child : ∀ {world store}, motive (world, store) → ∀ className id error,
      (scope.renderChild className id world store).1 = .error error → allowed error)
    (holds : motive start) : allowed error := by
  have reached {after : σ × Store} (moved : Relation.ReflTransGen scope.Move start after) :
      motive after := by
    induction moved with
    | refl => exact holds
    | tail _ move ih => exact moves move ih
  induction raises with
  | innate own => exact innate _ own
  | lookup moved failed => exact lookup (reached moved) _ _ failed
  | call moved failed => exact call (reached moved) _ _ _ failed
  | child moved failed => exact child (reached moved) _ _ _ failed
  | inPart index source _ ih => exact inPart index source _ ih

end ReactiveView
