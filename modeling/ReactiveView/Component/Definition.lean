/-
**Classes of components.**

A class declares variables of its own and variables it shares with the whole session, actions that a
client may run, helpers that its templates may call, its templates, and the classes of its children.

* `ComponentDef.defaultVariant` — the template that a component starts with.
* `ComponentDef.child` — the class under a name; only declared children can be rendered.
-/

import ReactiveView.Component.Action
import ReactiveView.Template.Basic

namespace ReactiveView

/-- What a class declares for itself. -/
structure Declarations where
  className : String
  /-- The variables of each component. -/
  reactive : OrderedMap String VarDefault
  /-- The variables of the session that components of this class use. -/
  shared : OrderedMap String VarDefault
  actions : OrderedMap String Action
  helpers : OrderedMap String HelperCode
  /-- The templates under their variants. -/
  templates : OrderedMap String Template

/-- A class of components, and the classes of its children under their names. -/
inductive ComponentDef where
  | mk (declared : Declarations) (children : List (String × ComponentDef))

/-- The variant that is used if there is one of this name. -/
def standardVariant : String := "default"

namespace ComponentDef

/-- What the class declares for itself. -/
def declared : ComponentDef → Declarations
  | mk declared _ => declared

/-- The classes of the children. -/
def children : ComponentDef → List (String × ComponentDef)
  | mk _ children => children

/-- The name of the class. -/
def className (definition : ComponentDef) : String := definition.declared.className

/-- Whether the class declares a variable of its own with the given name. -/
def isReactive (definition : ComponentDef) (name : String) : Bool :=
  definition.declared.reactive.contains name

/-- Whether the class declares a shared variable with the given name. -/
def isShared (definition : ComponentDef) (name : String) : Bool :=
  definition.declared.shared.contains name

/-- Whether the class declares a variable with the given name. -/
def declares (definition : ComponentDef) (name : String) : Bool :=
  definition.isReactive name || definition.isShared name

/-- Whether the class has a helper with the given name. -/
def hasHelper (definition : ComponentDef) (name : String) : Bool :=
  definition.declared.helpers.contains name

/-- The action with the given name. -/
def action? (definition : ComponentDef) (name : String) : Option Action :=
  definition.declared.actions.get? name

/-- The variant that a component starts with: the standard one, or else the first. -/
def defaultVariant (definition : ComponentDef) : String :=
  let variants := definition.declared.templates.keys
  if standardVariant ∈ variants then standardVariant else variants.head?.getD standardVariant

/-- The template of a variant. -/
def template (definition : ComponentDef) (variant : String) : Except Error Template :=
  match definition.declared.templates.get? variant with
  | some template => .ok template
  | none => .error (.unknownTemplate definition.className variant)

/-- The class of the children with the given class name. -/
def child (definition : ComponentDef) (className : String) : Except Error ComponentDef :=
  match definition.children.lookup className with
  | some child => .ok child
  | none => .error (.unknownChildClass definition.className className)

/-- The error for a name that the class declares as no variable. -/
def unknownVariable (definition : ComponentDef) (name : String) : Error :=
  .unknownReactiveVariable definition.className name

/-- The diagnostic text of declared variables. -/
def debugDefaults (defaults : OrderedMap String VarDefault) : String :=
  "\x7b" ++ String.intercalate ", " (defaults.entries.map fun entry =>
    Text.quoted entry.1 ++ ": " ++ entry.2.debug) ++ "\x7d"

/-- The diagnostic text of a class. -/
def debug (definition : ComponentDef) : String :=
  "ComponentDef \x7b class: " ++ Text.quoted definition.className ++
    ", reactive: " ++ debugDefaults definition.declared.reactive ++
    ", shared: " ++ debugDefaults definition.declared.shared ++
    ", templates: [" ++
    String.intercalate ", " (definition.declared.templates.keys.map Text.quoted) ++ "], .. \x7d"

end ComponentDef

end ReactiveView
