/-
**What a client receives.**

An envelope is addressed to one component. It brings the slots of a rendering, tells that the
component has come or gone, or brings markup that shows a failure in its place. In JSON the address
stands first and the payload after it, under the name of its kind.

* `Envelope.text` — the compact JSON text of an envelope.
* `Envelope.ofText?` — the envelope of a text. Other members are judged as JSON and passed over; of
  several payloads the first that can be read counts, in the order rendering, status, failure.
-/

import ReactiveView.Json.Fields

namespace ReactiveView

/-- Whether a component has come or gone. -/
inductive Status where
  | subscribed
  | destroyed
deriving DecidableEq

/-- The word for a status. -/
def Status.name : Status → String
  | subscribed => "subscribed"
  | destroyed => "destroyed"

/-- The status of a word. -/
def Status.ofName? (name : String) : Option Status :=
  if name = "subscribed" then some .subscribed
  else if name = "destroyed" then some .destroyed
  else none

/-- What is sent to one component. -/
inductive Outbound where
  /-- The markup of each part; none where the client has it already. -/
  | render (slots : List (Option String))
  | status (news : Status)
  /-- Markup that shows a failure. -/
  | error (html : String)
deriving DecidableEq

/-- A payload and the component it is for. -/
structure Envelope where
  component : String
  payload : Outbound
deriving DecidableEq

namespace Outbound

/-- The name and the value of the member that holds a payload. -/
def member : Outbound → String × Json
  | .render slots => ("render", .array (slots.map fun slot => slot.elim .null .string))
  | .status news => ("status", .string news.name)
  | .error html => ("error", .string html)

end Outbound

namespace Envelope

open Json (Written nestingLimit string?)

/-- An envelope as JSON. -/
def json (envelope : Envelope) : Json :=
  .object [("component", .string envelope.component), envelope.payload.member]

/-- The compact JSON text of an envelope. -/
def text (envelope : Envelope) : String := envelope.json.text

/-! ### Reading -/

/-- The slots that are written. -/
def slots? : Written → Option (List (Option String))
  | .array items => items.mapM Written.optionalText?
  | _ => none

/-- The status that is written: its word alone, or as the only member of an object, with `null`. -/
def status? : Written → Option Status
  | .object [(name, .null)] => (string? name).bind Status.ofName?
  | written => written.text?.bind Status.ofName?

/-- The reading of the member with the given name, of which there must be exactly one. -/
def one? {α : Type} (name : String) (read : Written → Option α)
    (members : List (String × Written)) : Option α :=
  match Written.under name members with
  | [written] => read written
  | _ => none

/-- The first payload that can be read. -/
def payload? (members : List (String × Written)) : Option Outbound :=
  ((one? "render" slots? members).map .render).or <|
    ((one? "status" status? members).map .status).or <|
      (one? "error" Written.text? members).map .error

/-- The envelope of a text. -/
def ofText? (text : String) : Option Envelope := do
  let written ← Written.ofText? text
  let _ ← written.value? nestingLimit
  let members ← written.namedMembers?
  let component ← one? "component" Written.text? members
  let payload ← payload? members
  return ⟨component, payload⟩

end Envelope

end ReactiveView
