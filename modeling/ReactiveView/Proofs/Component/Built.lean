/-
**Classes that are built from drafts.**

A class comes from a draft, and the classes of its children have come from drafts before it. So its
templates are filed under their own variants.

* `ComponentDef.Built` — a class that comes from a draft, like its children.
* `Built.variant_eq` — a template has the variant under which it is found.
-/

import ReactiveView.Component.Draft
import ReactiveView.Proofs.Data.Entries

namespace ReactiveView

namespace ComponentDef

/-- **A class that is built from a draft**, after the classes of its children. -/
inductive Built : ComponentDef → Prop
  | intro {draft : Draft} {definition : ComponentDef} (ok : draft.build = .ok definition)
    (children : ∀ {className child}, draft.children.get? className = some child → Built child) :
    Built definition

variable {definition : ComponentDef}

/-- What a draft becomes. -/
theorem eq_of_build {draft : Draft} (ok : draft.build = .ok definition) :
    draft.misnamed? = none ∧ draft.misdefaulted? = none ∧ ∃ templates,
      Draft.compileAll draft.className draft.sources.entries = .ok templates ∧
      definition = .mk ⟨draft.className, draft.reactive, draft.shared, draft.actions, draft.helpers,
        OrderedMap.ofList templates⟩ draft.children.entries := by
  unfold Draft.build at ok
  cases named : draft.misnamed? with
  | some name =>
    rw [named] at ok
    cases ok
  | none =>
    cases defaulted : draft.misdefaulted? with
    | some name =>
      rw [named, defaulted] at ok
      cases ok
    | none =>
      rw [named, defaulted] at ok
      cases compiled : Draft.compileAll draft.className draft.sources.entries with
      | error fault =>
        rw [compiled] at ok
        cases ok
      | ok templates =>
        rw [compiled] at ok
        cases ok
        exact ⟨rfl, rfl, templates, rfl, rfl⟩

/-- Each of the templates is compiled from a source under its variant. -/
theorem compiled_of_compileAll {className : String} {sources : List (String × String)}
    {templates : List (String × Template)}
    (ok : Draft.compileAll className sources = .ok templates) {variant : String}
    {template : Template} (member : (variant, template) ∈ templates) :
    ∃ source, Template.compile className variant source = .ok template := by
  induction sources generalizing templates with
  | nil =>
    cases ok
    cases member
  | cons entry rest ih =>
    obtain ⟨first, source⟩ := entry
    unfold Draft.compileAll at ok
    cases compiled : Template.compile className first source with
    | error fault =>
      rw [compiled] at ok
      cases ok
    | ok template' =>
      rw [compiled] at ok
      cases others : Draft.compileAll className rest with
      | error fault =>
        rw [others] at ok
        cases ok
      | ok templates' =>
        rw [others] at ok
        cases ok
        rcases List.mem_cons.mp member with same | later
        · cases same
          exact ⟨source, compiled⟩
        · exact ih others later

theorem variant_of_compile {className variant source : String} {template : Template}
    (ok : Template.compile className variant source = .ok template) : template.variant = variant := by
  unfold Template.compile at ok
  dsimp only at ok
  split at ok
  · cases ok
  · cases ok
    rfl

namespace Built

/-- A template of a class that is built is compiled under the variant under which it is found. -/
theorem compiled (built : definition.Built) {variant : String} {template : Template}
    (found : definition.template variant = .ok template) :
    ∃ source, Template.compile definition.className variant source = .ok template := by
  obtain ⟨ok, _⟩ := built
  obtain ⟨_, _, templates, all, rfl⟩ := eq_of_build ok
  unfold ComponentDef.template at found
  split at found
  · next there =>
    cases found
    exact compiled_of_compileAll all (OrderedMap.mem_of_get?_ofList there)
  · cases found

/-- **A template has the variant under which it is found.** -/
theorem variant_eq (built : definition.Built) {variant : String} {template : Template}
    (found : definition.template variant = .ok template) : template.variant = variant := by
  obtain ⟨source, ok⟩ := built.compiled found
  exact variant_of_compile ok

theorem child (built : definition.Built) {className : String} {child : ComponentDef}
    (found : definition.child className = .ok child) : child.Built := by
  obtain ⟨ok, children⟩ := built
  obtain ⟨_, _, _, _, rfl⟩ := eq_of_build ok
  unfold ComponentDef.child at found
  split at found
  · next there =>
    cases found
    exact children there
  · cases found

end Built

/-- Whether a draft can be built, and the class passes a check. -/
def isBuiltTo (built : Except Error ComponentDef) (check : ComponentDef → Bool) : Bool :=
  match built with
  | .ok definition => check definition
  | .error _ => false

theorem exists_of_isBuiltTo {built : Except Error ComponentDef} {check : ComponentDef → Bool}
    (passes : isBuiltTo built check = true) :
    ∃ definition, built = .ok definition ∧ check definition = true := by
  cases built with
  | ok definition => exact ⟨definition, rfl, passes⟩
  | error error => cases passes

end ComponentDef

/-- A page with children of one class, given by the source of its template. -/
def Draft.page (child : ComponentDef) (source : String) : Draft :=
  ((Draft.empty "Page").addChild child).addTemplate standardVariant source

/-- A class whose only child is built. -/
theorem ComponentDef.Built.of_child {child definition : ComponentDef} {draft : Draft}
    (built : child.Built) (only : draft.children = OrderedMap.empty.insert child.className child)
    (ok : draft.build = .ok definition) : definition.Built := by
  refine .intro ok fun {className other} found => ?_
  rw [only] at found
  by_cases same : className = child.className
  · rw [same, OrderedMap.get?_insert_self] at found
    cases found
    exact built
  · rw [OrderedMap.get?_insert_of_ne _ same] at found
    cases found

theorem ComponentDef.Built.page {child definition : ComponentDef} {source : String}
    (built : child.Built) (ok : (Draft.page child source).build = .ok definition) :
    definition.Built := built.of_child rfl ok

end ReactiveView
