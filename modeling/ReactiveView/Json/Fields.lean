/-
**The fields of a written record.**

A record is written as an object, in which each of its fields stands at most once, or as an array of
its fields in their order, where fields at the end may be missing.

* `Written.fields?` — what is written for each field.
* `Written.namedMembers?` — the members of an object with their names understood.
-/

import ReactiveView.Json.Reading

namespace ReactiveView.Json.Written

/-- The text, if a string is written that stands for one. -/
def text? : Written → Option String
  | .string pieces => string? pieces
  | _ => none

/-- The text, or none for `null`; nothing if anything else is written. -/
def optionalText? : Written → Option (Option String)
  | .null => some none
  | written => written.text?.map some

/-- The members of an object with their names understood, repeated ones included. -/
def namedMembers? : Written → Option (List (String × Written))
  | .object members => members.mapM fun member => (string? member.1).map (·, member.2)
  | _ => none

/-- The members with the given name. -/
def under (name : String) (members : List (String × Written)) : List Written :=
  (members.filter fun member => member.1 == name).map Prod.snd

/-- The only one, if there is one; nothing if there are several. -/
def atMostOne? : List Written → Option (Option Written)
  | [] => some none
  | [written] => some (some written)
  | _ => none

/-- The first values stand for the first fields, and the last fields have none. -/
def placed : List String → List Written → List (Option Written)
  | [], _ => []
  | _ :: names, [] => none :: placed names []
  | _ :: names, item :: items => some item :: placed names items

/--
What is written for each of the fields `names` of a record; with `strict`, an object may have no
other members.
-/
def fields? (strict : Bool) (names : List String) : Written → Option (List (Option Written))
  | .array items => if items.length ≤ names.length then some (placed names items) else none
  | written => do
    let members ← written.namedMembers?
    if strict && members.any fun member => !names.contains member.1 then none
    else names.mapM fun name => atMostOne? (under name members)

end ReactiveView.Json.Written
