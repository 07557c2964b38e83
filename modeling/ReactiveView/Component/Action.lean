/-
**The code of actions and helpers.**

Actions change the variables of a component and the choice of its template; helpers only look at
them. Both are programs that ask the component they run in, and both are told which component that
is.

* `Action` — what a client may run, with or without parameters.
-/

import ReactiveView.Container
import ReactiveView.Message.Params

namespace ReactiveView

/-- What the code of an action may ask. -/
inductive ActionQuestion where
  /-- The value of a declared variable. -/
  | get (name : String)
  /-- Assigns a declared variable. -/
  | set (name : String) (value : Value)
  /-- Marks variables without assigning them, up to the first that is not declared. -/
  | markDirty (names : List String)
  /-- Marks the component itself. -/
  | touch
  /-- The variant of the template that is rendered. -/
  | variant
  /-- Switches to another template. -/
  | setVariant (variant : String)
  /-- An identity value of the session; `nil` if there is none. -/
  | identity (name : String)

/-- What the code of a helper may ask. -/
inductive HelperQuestion where
  /-- The value of a declared variable. -/
  | get (name : String)
  /-- An identity value of the session; `nil` if there is none. -/
  | identity (name : String)

/-- The code of an action, for the component it runs in. -/
abbrev ActionCode := Owner → Program.Fallible ActionQuestion Unit

/-- The code of a helper, for the component it runs in and its arguments. -/
abbrev HelperCode := Owner → List Value → Program.Fallible HelperQuestion Value

/-- An action that a client may run. -/
inductive Action where
  | plain (code : ActionCode)
  | withParams (code : Params → ActionCode)

namespace Action

/-- Whether an action takes parameters. -/
def takesParams : Action → Bool
  | plain _ => false
  | withParams _ => true

/-- The code of an action for the parameters given; parameters that are not given are empty. -/
def code (action : Action) (params : Option Params) : ActionCode :=
  match action with
  | plain code => code
  | withParams code => code (params.getD Params.empty)

/-- The diagnostic text of an action. -/
def debug : Action → String
  | plain _ => "Action::Plain(..)"
  | withParams _ => "Action::WithParams(..)"

end Action

end ReactiveView
