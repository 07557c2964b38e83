/-
**The parameters of an action.**

Parameters are texts under names, in the order in which the names first came. They arrive as one
line in the form encoding; a name that is repeated there has the value that came last.

* `Params.decode`, `Params.encode` — reading and writing the line.
* `Params.int?`, `Params.bool?` — a parameter as a number or a truth value.
-/

import ReactiveView.Data.Integer
import ReactiveView.Data.OrderedMap
import ReactiveView.Text.Digits
import ReactiveView.Text.FormEncoding

namespace ReactiveView

/-- Texts under distinct names. -/
structure Params where
  texts : OrderedMap String String

namespace Params

/-- No parameters. -/
def empty : Params := ⟨OrderedMap.empty⟩

instance : Inhabited Params := ⟨empty⟩

/-- The parameters of a line. -/
def decode (line : String) : Params := ⟨OrderedMap.ofList (FormEncoding.decode line)⟩

/-- The line of some parameters. -/
def encode (params : Params) : String := FormEncoding.encode params.texts.entries

/-- The text under a name. -/
def get? (params : Params) (name : String) : Option String := params.texts.get? name

/-- The number of parameters. -/
def size (params : Params) : Nat := params.texts.size

/-- Whether there are no parameters. -/
def isEmpty (params : Params) : Bool := params.texts.isEmpty

/-- The number of a text: at most one sign, then digits, and no more than 64 bits. -/
def readInt? (text : String) : Option Int64 :=
  let number? : Option Int :=
    match text.toList with
    | '-' :: digits => (Text.decimal? digits).map fun number => -(number : Int)
    | '+' :: digits => (Text.decimal? digits).map fun number => (number : Int)
    | digits => (Text.decimal? digits).map fun number => (number : Int)
  number?.bind Integer.ofWhole?

/-- The truth value of a text, which is one of two words. -/
def readBool? (text : String) : Option Bool :=
  if text = "true" then some true
  else if text = "false" then some false
  else none

/-- The number under a name. -/
def int? (params : Params) (name : String) : Option Int64 := (params.get? name).bind readInt?

/-- The truth value under a name. -/
def bool? (params : Params) (name : String) : Option Bool := (params.get? name).bind readBool?

end Params

end ReactiveView
