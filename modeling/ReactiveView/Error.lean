/-
**Everything that can go wrong, by its cause.**

An error says what happened, not how it is worded; the wording is one function. The failure of a
component's own code carries a cause: a message or an error, under any number of contexts. The
failure of a rendering carries the error that arose inside.

* `Error.message` — the text of an error.
* `Error.frames` — the texts from the outermost error down to its root.
* `Error.kind` — the coarse class, which for a rendering is that of the error inside.
-/

namespace ReactiveView

/-- A fault in the text of a template, with the line and the column (from 1) where it was found. -/
structure TemplateError where
  line : Nat
  column : Nat
  message : String
deriving DecidableEq

mutual

/-- What went wrong. -/
inductive Error where
  | unknownAction (className action : String)
  | unknownReactiveVariable (className name : String)
  | invalidDefaultFactory (name : String)
  | unknownComponent (id : String)
  | duplicateComponent (id : String)
  | unknownTemplate (className variant : String)
  | unknownChildClass (className child : String)
  | unknownField (record field : String)
  | reservedName (className name : String)
  | recursiveRender (id : String)
  | undefinedVariable (name : String)
  /-- An expression could not be evaluated, for the reason given. -/
  | eval (reason : String)
  | template (fault : TemplateError)
  /-- The part with this number and source could not be rendered. -/
  | render (part : Nat) (fragment : String) (inner : Error)
  | action (className action : String) (cause : Cause)
  | helper (name : String) (cause : Cause)
  | invalidMessage
  | invalidConfig
  | closed

/-- Why a component's own code failed. -/
inductive Cause where
  | text (message : String)
  | error (root : Error)
  | context (message : String) (under : Cause)

end

/-- The coarse class of an error. -/
inductive ErrorKind where
  | unknownAction
  | unknownReactiveVariable
  | invalidDefaultFactory
  | unknownComponent
  | duplicateComponent
  | unknownTemplate
  | unknownChildClass
  | unknownField
  | reservedName
  | recursiveRender
  | undefinedVariable
  | eval
  | template
  | action
  | helper
  | invalidMessage
  | config
  | closed
deriving DecidableEq

/-- The name under which a class of errors is shown. -/
def ErrorKind.name : ErrorKind → String
  | unknownAction => "UnknownAction"
  | unknownReactiveVariable => "UnknownReactiveVariable"
  | invalidDefaultFactory => "InvalidDefaultFactory"
  | unknownComponent => "UnknownComponent"
  | duplicateComponent => "DuplicateComponent"
  | unknownTemplate => "UnknownTemplate"
  | unknownChildClass => "UnknownChildClass"
  | unknownField => "UnknownField"
  | reservedName => "ReservedName"
  | recursiveRender => "RecursiveRender"
  | undefinedVariable => "UndefinedVariable"
  | eval => "EvalError"
  | template => "TemplateError"
  | action => "ActionError"
  | helper => "HelperError"
  | invalidMessage => "InvalidMessage"
  | config => "ConfigError"
  | closed => "Closed"

/-- A name as errors show it. -/
def ticked (name : String) : String := "`" ++ name ++ "`"

/-- A fault with its place in front. -/
def TemplateError.text (fault : TemplateError) : String :=
  toString fault.line ++ ":" ++ toString fault.column ++ ": " ++ fault.message

mutual

/-- The text of an error. -/
def Error.message : Error → String
  | .unknownAction className action =>
    ticked action ++ " is not an allowed action of " ++ ticked className
  | .unknownReactiveVariable className name =>
    ticked name ++ " is not a reactive variable of " ++ ticked className
  | .invalidDefaultFactory name =>
    "default of reactive variable " ++ ticked name ++ " must be absent, a scalar, or a factory"
  | .unknownComponent id => "no component " ++ ticked id ++ " in this session"
  | .duplicateComponent id => "component " ++ ticked id ++ " is already mounted"
  | .unknownTemplate className variant => ticked className ++ " has no template " ++ ticked variant
  | .unknownChildClass className child =>
    ticked className ++ " declares no child component " ++ ticked child
  | .unknownField record field => ticked record ++ " has no field " ++ ticked field
  | .reservedName className name =>
    ticked name ++ " is reserved and cannot be declared by " ++ ticked className
  | .recursiveRender id => "component " ++ ticked id ++ " is rendered recursively"
  | .undefinedVariable name => "undefined variable " ++ ticked name
  | .eval reason => reason
  | .template fault => fault.text
  | .render part fragment inner =>
    "in fragment #" ++ toString part ++ " " ++ ticked fragment ++ ": " ++ inner.message
  | .action className action cause =>
    "action " ++ ticked action ++ " of " ++ ticked className ++ " failed: " ++ cause.message
  | .helper name cause => "helper " ++ ticked name ++ " failed: " ++ cause.message
  | .invalidMessage => "invalid message"
  | .invalidConfig => "invalid config"
  | .closed => "session is closed"

/-- The text of a cause: that of its outermost context. -/
def Cause.message : Cause → String
  | .text message => message
  | .error root => root.message
  | .context message _ => message

end

/-- The coarse class of an error. -/
def Error.kind : Error → ErrorKind
  | .unknownAction .. => .unknownAction
  | .unknownReactiveVariable .. => .unknownReactiveVariable
  | .invalidDefaultFactory .. => .invalidDefaultFactory
  | .unknownComponent .. => .unknownComponent
  | .duplicateComponent .. => .duplicateComponent
  | .unknownTemplate .. => .unknownTemplate
  | .unknownChildClass .. => .unknownChildClass
  | .unknownField .. => .unknownField
  | .reservedName .. => .reservedName
  | .recursiveRender .. => .recursiveRender
  | .undefinedVariable .. => .undefinedVariable
  | .eval .. => .eval
  | .template .. => .template
  | .render _ _ inner => inner.kind
  | .action .. => .action
  | .helper .. => .helper
  | .invalidMessage => .invalidMessage
  | .invalidConfig => .config
  | .closed => .closed

/-- The texts of an error that is the root of a cause, outermost first. -/
def Error.chain : Error → List String
  | .render part fragment inner => (Error.render part fragment inner).message :: inner.chain
  | other => [other.message]

/-- The texts of a cause, outermost first. -/
def Cause.chain : Cause → List String
  | .text message => [message]
  | .error root => root.chain
  | .context message under => message :: under.chain

/-- The texts of an error and of what led to it, outermost first. -/
def Error.frames : Error → List String
  | .action className name cause =>
    (Error.action className name cause).message :: cause.chain.drop 1
  | .helper name cause => (Error.helper name cause).message :: cause.chain.drop 1
  | .render part fragment inner => (Error.render part fragment inner).message :: inner.frames
  | other => [other.message]

end ReactiveView
