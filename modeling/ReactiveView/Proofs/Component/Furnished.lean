/-
**Classes that are furnished.**

A class that is built has no default that would be one node for every component, so every default can
be made. If it has a template, too, a component of it always has one to be rendered with: it starts with
one, and its code can only choose among them.

* `ComponentDef.Furnished` — a class that is built and has a template, like its children.
* `Faultless` — a result that is no fault of what a class declares.
* `Built.isOk_read` — a variable can be read exactly if it is declared.
* `ComponentDef.Reliable`, `Built.reliable` — so actions and helpers can rely on what is declared.
* `Instance.Furnished` — a component of such a class, whose variant is one of its templates.
-/

import ReactiveView.Proofs.Component.Built
import ReactiveView.Proofs.Container.Accounts
import ReactiveView.Proofs.Data.Entries
import ReactiveView.Session.World

namespace ReactiveView

variable {α β : Type}

/-! ### Results -/

/-- **A result that is no fault of what a class declares**: it is not the error of a template that is
unknown, nor that of a default that is faulty. -/
structure Faultless (result : Except Error α) : Prop where
  kinds : ∀ error, result = .error error →
    error.kind ≠ .unknownTemplate ∧ error.kind ≠ .invalidDefaultFactory

namespace Faultless

theorem ok (value : α) : Faultless (.ok value : Except Error α) := ⟨fun _ => nofun⟩

theorem of_kind {error : Error}
    (kind : error.kind ≠ .unknownTemplate ∧ error.kind ≠ .invalidDefaultFactory) :
    Faultless (.error error : Except Error α) := by
  refine ⟨?_⟩
  rintro _ ⟨⟩
  exact kind

theorem of_isOk {result : Except Error α} (ok : result.isOk = true) : Faultless result := by
  cases result with
  | ok value => exact .ok value
  | error error => cases ok

/-- An error that one result has passes on to another one. -/
theorem error {error : Error} (faultless : Faultless (.error error : Except Error α)) :
    Faultless (.error error : Except Error β) :=
  .of_kind (faultless.kinds error rfl)

theorem map {result : Except Error α} (faultless : Faultless result) (f : α → β) :
    Faultless (result.map f) := by
  cases result with
  | ok value => exact .ok _
  | error error => exact faultless.error

end Faultless

/-! ### Defaults -/

/-- A default that is not shared by all components can be made. -/
theorem VarDefault.isOk_compute {default : VarDefault} (own : default.isShared = false)
    (name : String) (owner : Owner) (store : Store) :
    (default.compute name owner store).1.isOk = true := by
  cases default with
  | absent => rfl
  | factory make => rfl
  | withOwner make => rfl
  | literal value =>
    change value.isComposite = false at own
    unfold VarDefault.compute
    simp only [own, Bool.false_eq_true, if_false]
    rfl

theorem Container.isOk_get {default : VarDefault} (own : default.isShared = false)
    (container : Container) (name : String) (owner : Owner) (store : Store) :
    (container.get name default owner store).1.isOk = true := by
  unfold Container.get
  split
  · rfl
  · have made := default.isOk_compute own name owner store
    generalize default.compute name owner store = answer at made ⊢
    obtain ⟨error | value, store⟩ := answer
    · cases made
    · rfl

/-! ### Names that are not declared -/

namespace Variables

variable {definition : ComponentDef} {reached : Variables} {store : Store} {error : Error}

theorem unknown_of_write {name : String} {value : Value}
    (failed : (reached.write definition name value store).1 = .error error) :
    ∃ name, error = definition.unknownVariable name := by
  unfold write at failed
  by_cases own : definition.isReactive name = true
  · rw [if_pos own] at failed
    cases failed
  · rw [if_neg own] at failed
    by_cases shared : definition.isShared name = true
    · rw [if_pos shared] at failed
      cases failed
    · rw [if_neg shared] at failed
      exact ⟨name, (Except.error.inj failed).symm⟩

theorem unknown_of_markOne {name : String}
    (failed : (reached.markOne definition name store).1 = .error error) :
    error = definition.unknownVariable name := by
  unfold markOne at failed
  by_cases shared : definition.isShared name = true
  · rw [if_pos shared] at failed
    cases failed
  · rw [if_neg shared] at failed
    by_cases own : (definition.isReactive name || name == Template.componentName) = true
    · rw [if_pos own] at failed
      cases failed
    · rw [if_neg own] at failed
      exact (Except.error.inj failed).symm

theorem unknown_of_markDirty {names : List String}
    (failed : (reached.markDirty definition names store).1 = .error error) :
    ∃ name, error = definition.unknownVariable name := by
  induction names generalizing store with
  | nil => cases failed
  | cons name rest ih =>
    have one := @unknown_of_markOne definition reached store error name
    unfold markDirty at failed
    generalize reached.markOne definition name store = answer at one failed
    obtain ⟨other | value, stored⟩ := answer
    · exact ⟨name, one failed⟩
    · exact ih failed

end Variables

theorem error_of_unitAnswer {result : Except Error Unit} {error : Error}
    (failed : unitAnswer result = .error error) : result = .error error := by
  cases result with
  | ok value => cases failed
  | error other => exact congrArg _ (Except.error.inj failed)

namespace ComponentDef

variable {definition : ComponentDef}

namespace Built

variable (built : definition.Built)

include built

/-- **No default of a class that is built would be one node for every component.** -/
theorem isShared_eq_false {name : String} {default : VarDefault}
    (declared : definition.declared.reactive.get? name = some default ∨
      definition.declared.shared.get? name = some default) : default.isShared = false := by
  obtain ⟨ok, _⟩ := built
  obtain ⟨_, defaulted, _, _, rfl⟩ := eq_of_build ok
  have none := List.find?_eq_none.mp (Option.map_eq_none_iff.mp defaulted) (name, default) <|
    List.mem_append.mpr <| declared.imp
      (fun reactive => OrderedMap.mem_entries_iff.mpr reactive)
      fun shared => OrderedMap.mem_entries_iff.mpr shared
  exact Bool.not_eq_true _ ▸ none

/-- **A variable is found exactly if it is declared**, and then it has a value. -/
theorem isOk_read? (owner : Owner) (name : String) (reached : Variables) (store : Store) :
    (Variables.read? definition owner name reached store).map (fun answer => answer.1.isOk) =
      if definition.declares name then some true else none := by
  have own (default : VarDefault) (found : definition.declared.reactive.get? name = some default) :=
    reached.own.isOk_get (built.isShared_eq_false (Or.inl found)) name owner store
  have shared (default : VarDefault) (found : definition.declared.shared.get? name = some default) :=
    reached.shared.isOk_get (built.isShared_eq_false (Or.inr found)) name owner store
  unfold Variables.read? declares isReactive isShared OrderedMap.contains
  cases reactive : definition.declared.reactive.get? name with
  | some default =>
    refine congrArg some (own default reactive)
  | none =>
    cases common : definition.declared.shared.get? name with
    | some default => exact congrArg some (shared default common)
    | none => rfl

/-- **A variable can be read exactly if it is declared.** -/
theorem isOk_read (owner : Owner) (name : String) (reached : Variables) (store : Store) :
    (reached.read definition owner name store).1.isOk = definition.declares name := by
  have found := built.isOk_read? owner name reached store
  unfold Variables.read
  generalize Variables.read? definition owner name reached store = answer at found ⊢
  cases declared : definition.declares name with
  | true =>
    rw [declared, if_pos rfl] at found
    obtain ⟨⟨result, after, stored⟩, rfl, ok⟩ := Option.map_eq_some_iff.mp found
    exact ok
  | false =>
    rw [declared, if_neg Bool.false_ne_true, Option.map_eq_none_iff] at found
    rw [found]
    rfl

theorem faultless_read (owner : Owner) (name : String) (reached : Variables) (store : Store) :
    Faultless (reached.read definition owner name store).1 := by
  have ok := built.isOk_read owner name reached store
  cases declared : definition.declares name with
  | true => exact .of_isOk (ok.trans declared)
  | false =>
    have found := built.isOk_read? owner name reached store
    rw [declared, if_neg Bool.false_ne_true, Option.map_eq_none_iff] at found
    unfold Variables.read
    rw [found]
    exact .of_kind (by simp [unknownVariable, Error.kind])

/-- **No answer to the code of an action is about a faulty default.** -/
theorem faultless_answer (owner : Owner) (identity : OrderedMap String Value)
    (question : ActionQuestion) (state : ActionState) (store : Store) {error : Error}
    (failed : (question.answer definition owner identity state store).1 = .error error) :
    error.kind ≠ .invalidDefaultFactory := by
  cases question with
  | get name => exact ((built.faultless_read owner name state.reached store).kinds error failed).2
  | touch => cases failed
  | variant => cases failed
  | identity name => cases failed
  | set name value =>
    obtain ⟨unknown, rfl⟩ := Variables.unknown_of_write (error_of_unitAnswer failed)
    simp [unknownVariable, Error.kind]
  | markDirty names =>
    obtain ⟨unknown, rfl⟩ := Variables.unknown_of_markDirty (error_of_unitAnswer failed)
    simp [unknownVariable, Error.kind]
  | setVariant chosen =>
    simp only [ActionQuestion.answer, template] at failed
    split at failed
    · next wrong =>
      split at wrong
      · cases wrong
      · cases wrong
        cases failed
        simp [Error.kind]
    · split at failed <;> cases failed

/-- No answer to the code of a helper is about a faulty default. -/
theorem faultless_helper (owner : Owner) (identity : OrderedMap String Value)
    (question : HelperQuestion) (reached : Variables) (store : Store) :
    Faultless (question.answer definition owner identity reached store).1 := by
  cases question with
  | get name => exact built.faultless_read owner name reached store
  | identity name => exact .ok _

end Built

/-- **A class on whose declarations its code can rely**: actions and helpers can read exactly the variables
that it declares, and nothing that they ask comes to a default that is faulty. -/
structure Reliable (definition : ComponentDef) : Prop where
  action : ∀ owner identity name (state : ActionState) (store : Store),
    (ActionQuestion.answer definition owner identity (.get name) state store).1.isOk =
      definition.declares name
  helper : ∀ owner identity name (reached : Variables) (store : Store),
    (HelperQuestion.answer definition owner identity (.get name) reached store).1.isOk =
      definition.declares name
  actionDefaults : ∀ owner identity question (state : ActionState) (store : Store) error,
    (ActionQuestion.answer definition owner identity question state store).1 = .error error →
      error.kind ≠ .invalidDefaultFactory
  helperDefaults : ∀ owner identity question (reached : Variables) (store : Store) error,
    (HelperQuestion.answer definition owner identity question reached store).1 = .error error →
      error.kind ≠ .invalidDefaultFactory

/-- **A class that is built is reliable.** -/
theorem Built.reliable (built : definition.Built) : definition.Reliable where
  action owner _ name state store := built.isOk_read owner name state.reached store
  helper owner _ name reached store := built.isOk_read owner name reached store
  actionDefaults owner identity question state store _ :=
    built.faultless_answer owner identity question state store
  helperDefaults owner identity question reached store error failed :=
    ((built.faultless_helper owner identity question reached store).kinds error failed).2

/-- A helper fails as a helper. -/
theorem faultless_callHelper {owner : Owner} {identity : OrderedMap String Value} {name : String}
    {arguments : List Value} {reached after : Variables} {store stored : Store}
    {result : Except Error Value}
    (found : reached.callHelper definition owner identity name arguments store =
      some (result, after, stored)) : Faultless result := by
  unfold Variables.callHelper at found
  obtain ⟨helper, _, same⟩ := Option.map_eq_some_iff.mp found
  cases same
  generalize (helper owner arguments).run (HelperQuestion.answer definition owner identity) reached
    store = answer
  obtain ⟨cause | value, _⟩ := answer
  · exact .of_kind (by simp [Error.kind])
  · exact .ok _

/-! ### Templates -/

/-- **A class that is built and has a template**, like the classes of its children. -/
inductive Furnished : ComponentDef → Prop
  | intro {definition : ComponentDef} (built : definition.Built)
    (some : definition.declared.templates.isEmpty = false)
    (children : ∀ {className child}, definition.child className = .ok child → Furnished child) :
    Furnished definition

/-- A variant has a template exactly if the class declares one under it. -/
theorem exists_template_iff {variant : String} :
    variant ∈ definition.declared.templates.keys ↔
      ∃ template, definition.template variant = .ok template := by
  rw [OrderedMap.mem_keys_iff, template]
  cases definition.declared.templates.get? variant <;> simp

namespace Furnished

variable (furnished : definition.Furnished)

include furnished

theorem built : definition.Built := by
  cases furnished
  assumption

theorem child {className : String} {child : ComponentDef}
    (found : definition.child className = .ok child) : child.Furnished := by
  obtain ⟨_, _, children⟩ := furnished
  exact children found

/-- **A component starts with one of the templates of its class.** -/
theorem defaultVariant_mem : definition.defaultVariant ∈ definition.declared.templates.keys := by
  obtain ⟨_, some, _⟩ := furnished
  unfold defaultVariant
  dsimp only
  split
  · next standard => exact standard
  · unfold OrderedMap.isEmpty at some
    unfold OrderedMap.keys
    cases entries : definition.declared.templates.entries with
    | nil =>
      rw [entries] at some
      cases some
    | cons first rest => exact List.mem_cons_self

omit furnished in
/-- A class with a template and without children. -/
theorem of_leaf {draft : Draft} (ok : draft.build = .ok definition)
    (leaf : draft.children = OrderedMap.empty)
    (some : definition.declared.templates.isEmpty = false) : definition.Furnished := by
  have childless {className : String} {child : ComponentDef} :
      draft.children.get? className ≠ .some child := by
    rw [leaf]
    exact nofun
  refine .intro (.intro ok fun found => absurd found childless) some fun {className child} found => ?_
  obtain ⟨_, _, templates, _, rfl⟩ := eq_of_build ok
  unfold ComponentDef.child at found
  split at found
  · next there => exact absurd there childless
  · cases found

omit furnished in
/-- A page with a template and with children of one furnished class. -/
theorem page {child definition : ComponentDef} {source : String} (furnished : child.Furnished)
    (ok : (Draft.page child source).build = .ok definition)
    (some : definition.declared.templates.isEmpty = false) : definition.Furnished := by
  refine .intro (furnished.built.page ok) some fun {className other} found => ?_
  obtain ⟨_, _, templates, _, rfl⟩ := eq_of_build ok
  unfold ComponentDef.child at found
  split at found
  · next there =>
    cases found
    by_cases same : className = child.className
    · rw [same] at there
      cases (OrderedMap.get?_insert_self OrderedMap.empty child.className child).symm.trans there
      exact furnished
    · cases (OrderedMap.get?_insert_of_ne OrderedMap.empty same child).symm.trans there
  · cases found

end Furnished

end ComponentDef

/-- **A component of a furnished class**, whose variant is one of the templates of its class. -/
structure Instance.Furnished (component : Instance) : Prop where
  definition : component.definition.Furnished
  variant : component.variant ∈ component.definition.declared.templates.keys

namespace Instance.Furnished

variable {component other : Instance}

theorem exists_template (furnished : component.Furnished) :
    ∃ template, component.definition.template component.variant = .ok template :=
  ComponentDef.exists_template_iff.mp furnished.variant

/-- A component whose variables and view have changed. -/
theorem of_same (furnished : component.Furnished) (definition : other.definition = component.definition)
    (variant : other.variant = component.variant) : other.Furnished := by
  refine ⟨definition ▸ furnished.definition, ?_⟩
  rw [definition, variant]
  exact furnished.variant

/-- **A new component of a furnished class.** -/
theorem new {definition : ComponentDef} (furnished : definition.Furnished) (id : String)
    (store : Store) : (Instance.new id definition store).1.Furnished :=
  ⟨furnished, furnished.defaultVariant_mem⟩

end Instance.Furnished

/-- **The code of an action chooses among the templates**, whatever becomes of it. -/
theorem ActionState.variant_run {α : Type} {definition : ComponentDef} {owner : Owner}
    {identity : OrderedMap String Value} (program : Program ActionQuestion α) {state : ActionState}
    {store : Store} (known : state.variant ∈ definition.declared.templates.keys) :
    (program.run (ActionQuestion.answer definition owner identity) state store).2.1.variant ∈
      definition.declared.templates.keys := by
  have chooses {state : ActionState} {store : Store}
      (known : state.variant ∈ definition.declared.templates.keys) (question : ActionQuestion) :
      (question.answer definition owner identity state store).2.1.variant ∈
        definition.declared.templates.keys := by
    cases question with
    | setVariant chosen =>
      simp only [ActionQuestion.answer]
      split
      · exact known
      · next template found =>
        split
        · exact known
        · exact ComponentDef.exists_template_iff.mpr ⟨template, found⟩
    | _ => exact known
  exact program.kept_run (motive := fun (around : ActionState × Store) =>
    around.1.variant ∈ definition.declared.templates.keys) (fun known _ => known) chooses known

end ReactiveView
