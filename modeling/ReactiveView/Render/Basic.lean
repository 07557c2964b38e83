/-
**Rendering a template, all of it or only what changed.**

A rendering is dense if everything counts as changed or the client lacks the fixed text of the
variant. Otherwise a part is rendered only if it depends on a changed name, or on a local that an
affected part before it gave a value. A block that is not affected still runs, for the locals it
binds, but its output is dropped and its children are left alone.

* `runParts` — the parts one after the other.
* `render` — one rendering, and the view of the client after it; an error leaves the view as it was.
-/

import ReactiveView.Render.ClientView
import ReactiveView.Render.Eval
import ReactiveView.Template.Basic

namespace ReactiveView.Render

variable {σ : Type}

/-- Whether a part must be rendered again. -/
def isAffected (dense : Bool) (dirty : Dirty) (dirtyLocals : NameSet) (part : DynamicPart) : Bool :=
  dense || part.dependencies.names.any fun name => dirty.contains name || dirtyLocals.contains name

/-- The output of a part and the children it shows, with everything rendered inside them. -/
structure PartOutput where
  pieces : List Piece
  direct : List String
  rendered : List String

/-- Runs one dynamic part, whose output starts empty. -/
def runPart (scope : Scope σ) (config : Config) (rendersChildren : Bool) (node : Node) :
    Eval σ PartOutput := do
  modify fun pass =>
    { pass with pieces := [], size := 0, rendersChildren, direct := [], rendered := [] }
  Eval.node scope config node
  let pass ← get
  return ⟨pass.pieces.reverse, pass.direct, pass.rendered⟩

/-- Names the part in which an error arose. -/
def inPart {α : Type} (index : Nat) (source : String) (run : Eval σ α) : Eval σ α := fun pass =>
  match run pass with
  | (.ok result, pass) => (.ok result, pass)
  | (.error error, pass) => (.error (.render index source error), pass)

/-- The slots of some parts from the one with the given index on, and what was rendered in them. -/
def runParts (scope : Scope σ) (config : Config) (dense : Bool) (dirty : Dirty)
    (index : Nat) (dirtyLocals : NameSet) : List Part → Eval σ (List Slot × List String)
  | [] => return ([], [])
  | .fixed text :: rest => do
    let (slots, rendered) ← runParts scope config dense dirty (index + 1) dirtyLocals rest
    return (⟨if dense then some text else none, none⟩ :: slots, rendered)
  | .dynamic part :: rest => do
    if isAffected dense dirty dirtyLocals part then
      let output ← inPart index part.source (runPart scope config true part.node)
      let (slots, rendered) ←
        runParts scope config dense dirty (index + 1) (dirtyLocals.union part.locals) rest
      return (⟨some (Piece.join output.pieces), some output.direct⟩ :: slots,
        output.rendered ++ rendered)
    else
      match part.kind with
      | .expression =>
        let (slots, rendered) ← runParts scope config dense dirty (index + 1) dirtyLocals rest
        return (⟨none, none⟩ :: slots, rendered)
      | .block =>
        let _ ← inPart index part.source (runPart scope config false part.node)
        let (slots, rendered) ← runParts scope config dense dirty (index + 1) dirtyLocals rest
        return (⟨none, none⟩ :: slots, rendered)

/-- Whether a rendering brings every part. -/
def isDense (template : Template) (dirty : Dirty) (view : ClientView) : Bool :=
  dirty == .all || view.needsDense template.variant

/-- Renders a template for a client with the given view. -/
def render (template : Template) (dirty : Dirty) (view : ClientView) (scope : Scope σ)
    (config : Config) (world : σ) (store : Store) :
    Except Error Rendered × ClientView × σ × Store :=
  let dense := isDense template dirty view
  let pass := Pass.start world store
  match (runParts scope config dense dirty 0 NameSet.empty template.parts).run pass with
  | (.error error, pass) => (.error error, view, pass.world, pass.store)
  | (.ok (slots, renderedChildren), pass) =>
    let rendered := ⟨slots, dense, renderedChildren⟩
    (.ok rendered, view.commit template.variant rendered, pass.world, pass.store)

end ReactiveView.Render
