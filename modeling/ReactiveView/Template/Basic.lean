/-
**Compiled templates.**

A compiled template is a row of parts: fixed text, and dynamic parts with what they depend on.
Neighbouring texts are one part. A dynamic part can be rendered again on its own when a name it
depends on has changed.

* `Template.compile` — the template of a source, or its first fault.
* `Template.dependencies` — all names that any part depends on.
-/

import ReactiveView.Template.Analysis
import ReactiveView.Template.Forest

namespace ReactiveView

/-- What a dynamic part is. -/
inductive PartKind where
  /-- One output. -/
  | expression
  /-- A construct, or a name given to a value. -/
  | block
deriving DecidableEq

/-- The name under which a kind of part is shown. -/
def PartKind.name : PartKind → String
  | expression => "expression"
  | block => "block"

/-- A part of a template that is computed. -/
structure DynamicPart where
  source : String
  kind : PartKind
  dependencies : NameSet
  /-- The names it gives to values for the parts after it. -/
  locals : NameSet
  node : Node

/-- A part of a template. -/
inductive Part where
  | fixed (text : String)
  | dynamic (part : DynamicPart)

/-- A template in its parts. -/
structure Template where
  className : String
  variant : String
  source : String
  parts : List Part

namespace Template

/-- The kind of the part that a node is; text is none. -/
def partKind? : Node → Option PartKind
  | .text _ => none
  | .output .. => some .expression
  | .choice _ => some .block
  | .loop .. => some .block
  | .bind .. => some .block

/-- A part in front of others; texts that meet become one. -/
def consText (text : String) : List Part → List Part
  | .fixed following :: rest => .fixed (text ++ following) :: rest
  | parts => .fixed text :: parts

/-- The parts of some nodes of a source. -/
def partsOf (source : List Char) : List SpannedNode → List Part
  | [] => []
  | spanned :: rest =>
    match spanned.node with
    | .text text => consText text (partsOf source rest)
    | node =>
      let analysis := analyze node
      .dynamic {
        source := String.ofList ((source.take spanned.stop).drop spanned.start)
        kind := (partKind? node).getD .block
        dependencies := analysis.dependencies
        locals := analysis.bound
        node } :: partsOf source rest

/-- The template of a source. -/
def compile (className variant source : String) : Except TemplateError Template :=
  let chars := source.toList
  match parse chars with
  | .error (place, message) => .error (fault chars place message)
  | .ok nodes => .ok ⟨className, variant, source, partsOf chars nodes⟩

/-- The names that any part depends on. -/
def dependencies (template : Template) : NameSet :=
  template.parts.foldl (fun sofar part =>
    match part with
    | .fixed _ => sofar
    | .dynamic part => sofar.union part.dependencies) NameSet.empty

end Template

end ReactiveView
