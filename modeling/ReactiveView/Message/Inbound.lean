/-
**What a client sends.**

A client sends a batch of sub-messages in JSON. A sub-message runs an action of a component, with or
without parameters, or assigns a variable; the second is written as the action `_reactive` with the
name of the variable and its value, which is `null` if none is given.

* `SubMessage.ofWritten?` — one sub-message; it has no members besides its own.
* `SubMessage.batchOfText` — a batch; its other members are passed over unread.
-/

import ReactiveView.Error
import ReactiveView.Json.Fields
import ReactiveView.Message.Params

namespace ReactiveView

/-- The action under which an assignment is written. -/
def assignmentAction : String := "_reactive"

/-- One thing that a client asks of a component. -/
inductive SubMessage where
  | action (component name : String) (params : Option Params)
  | assign (component name : String) (value : Json)

namespace SubMessage

open Json (Written nestingLimit)

/-- The component that is addressed. -/
def component : SubMessage → String
  | action component _ _ => component
  | assign component _ _ => component

/-- The levels of nesting around the value of an assignment: batch, list and sub-message. -/
def depth : Nat := 3

/-- A sub-message from what is written for its fields. -/
def ofFields? : List (Option Written) → Option SubMessage
  | [some component, some name, params, target, value] => do
    let component ← component.text?
    let name ← name.text?
    let params ← (params.getD .null).optionalText?
    let target ← (target.getD .null).optionalText?
    let value ← (value.getD .null).value? (nestingLimit - depth)
    if name = assignmentAction then target.map fun target => assign component target value
    else some (action component name (params.map Params.decode))
  | _ => none

/-- One sub-message. -/
def ofWritten? (written : Written) : Option SubMessage :=
  (written.fields? true ["component", "action", "params", "name", "value"]).bind ofFields?

/-- The sub-messages of a batch. -/
def batchOfWritten? (written : Written) : Option (List SubMessage) := do
  let fields ← written.fields? false ["messages"]
  match fields with
  | [some (.array items)] => items.mapM ofWritten?
  | _ => none

/-- The sub-messages of a batch given as text. -/
def batchOfText (text : String) : Except Error (List SubMessage) :=
  match (Written.ofText? text).bind batchOfWritten? with
  | some messages => .ok messages
  | none => .error .invalidMessage

end SubMessage

end ReactiveView
