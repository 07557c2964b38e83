/-
**From a draft to a class.**

A draft becomes a class if its names may be declared as they are, no default would be shared by
all components, and every template compiles. No name is reserved for the renderer, none is both a
variable of the component and a shared one, and the action that assigns variables is not declared.

* `Draft.build` — the class of a draft, or the first thing that is wrong with it.
-/

import ReactiveView.Component.Definition
import ReactiveView.Message.Inbound

namespace ReactiveView

/-- A class before its declarations are checked, with its templates as sources. -/
structure Draft where
  className : String
  reactive : OrderedMap String VarDefault
  shared : OrderedMap String VarDefault
  actions : OrderedMap String Action
  helpers : OrderedMap String HelperCode
  sources : OrderedMap String String
  children : OrderedMap String ComponentDef

namespace Draft

/-- A draft that declares nothing. -/
def empty (className : String) : Draft :=
  ⟨className, OrderedMap.empty, OrderedMap.empty, OrderedMap.empty, OrderedMap.empty,
    OrderedMap.empty, OrderedMap.empty⟩

/-- Declares a variable of each component. -/
def addReactive (draft : Draft) (name : String) (default : VarDefault) : Draft :=
  { draft with reactive := draft.reactive.insert name default }

/-- Declares a variable of the session. -/
def addShared (draft : Draft) (name : String) (default : VarDefault) : Draft :=
  { draft with shared := draft.shared.insert name default }

/-- Allows clients to run an action. -/
def addAction (draft : Draft) (name : String) (action : Action) : Draft :=
  { draft with actions := draft.actions.insert name action }

/-- Gives templates a helper. -/
def addHelper (draft : Draft) (name : String) (helper : HelperCode) : Draft :=
  { draft with helpers := draft.helpers.insert name helper }

/-- Gives the source of a template. -/
def addTemplate (draft : Draft) (variant source : String) : Draft :=
  { draft with sources := draft.sources.insert variant source }

/-- Allows templates to render children of a class. -/
def addChild (draft : Draft) (child : ComponentDef) : Draft :=
  { draft with children := draft.children.insert child.className child }

/-- The names that no variable and no helper may have. -/
def isReserved (name : String) : Bool :=
  name == Template.componentName || Template.builtins.contains name

/-- The first name that may not be declared as it is. -/
def misnamed? (draft : Draft) : Option String :=
  let names := draft.reactive.keys ++ draft.shared.keys ++ draft.helpers.keys
  (names.find? isReserved).or <|
    (draft.reactive.keys.find? draft.shared.contains).or <|
      if draft.actions.contains assignmentAction then some assignmentAction else none

/-- The first variable whose default would be one node for every component. -/
def misdefaulted? (draft : Draft) : Option String :=
  let declared := draft.reactive.entries ++ draft.shared.entries
  (declared.find? fun entry => entry.2.isShared).map Prod.fst

/-- The templates of some sources, or the first fault in one. -/
def compileAll (className : String) :
    List (String × String) → Except TemplateError (List (String × Template))
  | [] => .ok []
  | (variant, source) :: rest => do
    let template ← Template.compile className variant source
    let templates ← compileAll className rest
    return (variant, template) :: templates

/-- The class of a draft, or what is wrong with it. -/
def build (draft : Draft) : Except Error ComponentDef :=
  match draft.misnamed? with
  | some name => .error (.reservedName draft.className name)
  | none =>
    match draft.misdefaulted? with
    | some name => .error (.invalidDefaultFactory name)
    | none =>
      match compileAll draft.className draft.sources.entries with
      | .error fault => .error (.template fault)
      | .ok templates =>
        .ok (.mk ⟨draft.className, draft.reactive, draft.shared, draft.actions, draft.helpers,
          OrderedMap.ofList templates⟩ draft.children.entries)

end Draft

end ReactiveView
