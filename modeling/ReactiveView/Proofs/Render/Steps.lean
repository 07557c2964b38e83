/-
**What holds of every step of a rendering.**

A rendering is put together from a few kinds of steps, one after the other. So a property that goes from
two steps to their sequence, and that each kind of step has, is one of all that a template can do: the
induction over expressions, nodes and parts is done here once.

* `Eval.ExprLaw`, `Eval.NodeLaw`, `Eval.Law` — properties of steps that go on to their sequences.
* `Eval.ExprLaw.expr`, `Eval.NodeLaw.node` — they hold of every expression and of every node.
* `Eval.Law.runParts` — and of all parts of a template.
-/

import ReactiveView.Render.Basic

namespace ReactiveView.Render

variable {σ : Type}

/-- **A property of steps** that goes on to their sequences, and that each step of an expression has. -/
structure Eval.ExprLaw (scope : Scope σ) (config : Config) (holds : ∀ {α : Type}, Eval σ α → Prop) :
    Prop where
  pure : ∀ {α : Type} (value : α), holds (Pure.pure value : Eval σ α)
  bind : ∀ {α β : Type} {run : Eval σ α} {next : α → Eval σ β}, holds run →
    (∀ value, holds (next value)) → holds (run >>= next)
  refuse : ∀ {α : Type} (reason : String), holds (Eval.refuse reason : Eval σ α)
  textOf : ∀ value, holds (Eval.textOf value)
  newList : ∀ values, holds (Eval.make fun store => store.newList values)
  field : ∀ target name, holds (Eval.onStore (readField target name))
  index : ∀ target index, holds (Eval.onStore (readIndex target index))
  method : ∀ receiver name arguments, holds (Eval.onStore (callMethod receiver name arguments))
  unary : ∀ op value, holds (Eval.settled (Render.unary op value))
  binary : ∀ op left right, holds (Eval.onStore (Render.binary op config.maxOutputLength left right))
  lookup : ∀ name, holds (Eval.lookup scope config name)
  child : ∀ className id, holds (Eval.child scope className id)
  helper : ∀ name arguments, holds (Eval.helper scope name arguments)

/-- **A property of steps** that each step of a node has, too. -/
structure Eval.NodeLaw (scope : Scope σ) (config : Config) (holds : ∀ {α : Type}, Eval σ α → Prop) :
    Prop extends Eval.ExprLaw scope config holds where
  push : ∀ piece, holds (Eval.push config piece)
  pairs : ∀ iterable, holds (Eval.pairs config iterable)
  count : holds (Eval.count config)
  enter : ∀ frame, holds (Eval.enter frame)
  leave : holds Eval.leave
  bindLocal : ∀ name value, holds (Eval.bind name value)

/-- **A property of steps** that each step of a part has, too. -/
structure Eval.Law (scope : Scope σ) (config : Config) (holds : ∀ {α : Type}, Eval σ α → Prop) :
    Prop extends Eval.NodeLaw scope config holds where
  /-- A part starts with empty output. -/
  start : ∀ rendersChildren, holds (modify fun pass =>
    { pass with pieces := [], size := 0, rendersChildren, direct := [], rendered := [] } : Eval σ Unit)
  /-- A part ends with its output. -/
  finish : holds (do
    let pass ← get
    return ⟨pass.pieces.reverse, pass.direct, pass.rendered⟩ : Eval σ PartOutput)
  /-- An error names the part in which it arose. -/
  inPart : ∀ {α : Type} (index : Nat) (source : String) {run : Eval σ α}, holds run →
    holds (Render.inPart index source run)

namespace Eval

variable {scope : Scope σ} {config : Config} {holds : ∀ {α : Type}, Eval σ α → Prop}

namespace ExprLaw

variable (law : ExprLaw scope config holds)

include law

/-! ### Expressions -/

mutual

/-- **The law holds of every expression.** -/
theorem expr : ∀ expr : Expr, holds (Eval.expr scope config expr)
  | .literal _ => law.pure _
  | .list items => law.bind (exprs items) law.newList
  | .name name => law.lookup name
  | .field target name => law.bind (expr target) fun value => law.field value name
  | .index target index =>
    law.bind (expr target) fun value => law.bind (expr index) fun place => law.index value place
  | .method receiver name arguments =>
    law.bind (expr receiver) fun value =>
      law.bind (exprs arguments) fun values => law.method value name values
  | .call name arguments => by
    unfold Eval.expr
    split
    · refine law.bind (exprs arguments) fun values => ?_
      split
      · exact law.bind (law.textOf _) fun _ => law.pure _
      · exact law.refuse _
    split
    · split
      · exact law.refuse _
      · refine law.bind (texts arguments) fun texts => ?_
        split
        · exact law.bind (law.child _ _) fun _ => law.pure _
        · exact law.refuse _
    · exact law.bind (exprs arguments) fun values => law.helper name values
  | .unary op operand => law.bind (expr operand) fun value => law.unary op value
  | .binary op left right => by
    unfold Eval.expr
    refine law.bind (expr left) fun value => ?_
    -- the right side of two of the operators runs only if it is needed
    split
    · split
      · exact expr right
      · exact law.pure _
    · split
      · exact law.pure _
      · exact expr right
    · exact law.bind (expr right) fun other => law.binary op value other
  | .conditional test affirmed denied => by
    unfold Eval.expr
    refine law.bind (expr test) fun value => ?_
    split
    · exact expr affirmed
    · exact expr denied

theorem exprs : ∀ exprs : List Expr, holds (Eval.exprs scope config exprs)
  | [] => law.pure _
  | first :: rest => law.bind (expr first) fun _ => law.bind (exprs rest) fun _ => law.pure _

theorem texts : ∀ exprs : List Expr, holds (Eval.texts scope config exprs)
  | [] => law.pure _
  | first :: rest =>
    law.bind (expr first) fun _ => law.bind (law.textOf _) fun _ =>
      law.bind (texts rest) fun _ => law.pure _

end

theorem output (raw : Bool) : ∀ value : Expr, holds (Eval.output scope config raw value)
  | .conditional test affirmed denied => by
    unfold Eval.output
    refine law.bind (law.expr test) fun value => ?_
    split
    · exact output raw affirmed
    · exact output raw denied
  | .call name arguments => by
    unfold Eval.output
    split
    · split
      · exact law.refuse _
      · refine law.bind (law.exprs arguments) fun values => ?_
        split
        · exact law.bind (law.textOf _) fun _ => law.pure _
        · exact law.refuse _
    split
    · split
      · exact law.refuse _
      · refine law.bind (law.texts arguments) fun texts => ?_
        split
        · exact law.bind (law.child _ _) fun _ => law.pure _
        · exact law.refuse _
    · exact law.bind (law.expr _) fun _ => law.bind (law.textOf _) fun _ => law.pure _
  | .literal _ | .list _ | .name _ | .field _ _ | .index _ _ | .method _ _ _ | .unary _ _
  | .binary _ _ _ => law.bind (law.expr _) fun _ => law.bind (law.textOf _) fun _ => law.pure _

end ExprLaw

/-! ### Nodes -/

namespace NodeLaw

variable (law : NodeLaw scope config holds)

include law

theorem forM {pairs : List (Value × Value)} {turn : Value × Value → Eval σ PUnit}
    (each : ∀ pair, holds (turn pair)) : holds (pairs.forM turn) := by
  induction pairs with
  | nil => exact law.pure _
  | cons first rest ih => exact law.bind (each first) fun _ => ih

mutual

/-- **The law holds of every node.** -/
theorem node : ∀ node : Node, holds (Eval.node scope config node)
  | .text _ => law.push _
  | .output value raw => law.bind (law.output raw value) law.push
  | .choice choices => branches choices
  | .loop item second iterable body =>
    law.bind (law.expr iterable) fun value => law.bind (law.pairs value) fun _ =>
      law.forM fun pair => law.bind law.count fun _ =>
        law.bind (law.enter (loopFrame item second pair)) fun _ =>
          law.bind (nodes body) fun _ => law.leave
  | .bind name value => law.bind (law.expr value) fun value => law.bindLocal name value

theorem branches : ∀ choices : Branches, holds (Eval.branches scope config choices)
  | .otherwise body => nodes body
  | .branch test body rest => by
    unfold Eval.branches
    refine law.bind (law.expr test) fun value => ?_
    split
    · exact nodes body
    · exact branches rest

theorem nodes : ∀ nodes : List Node, holds (Eval.nodes scope config nodes)
  | [] => law.pure ()
  | first :: rest => law.bind (node first) fun _ => nodes rest

end

end NodeLaw

/-! ### Parts -/

namespace Law

variable (law : Law scope config holds)

include law

theorem runPart (rendersChildren : Bool) (node : Node) :
    holds (Render.runPart scope config rendersChildren node) :=
  law.bind (law.start rendersChildren) fun _ => law.bind (law.node node) fun _ => law.finish

/-- **The law holds of all parts of a template**, one after the other. -/
theorem runParts (dense : Bool) (dirty : Dirty) (index : Nat) (dirtyLocals : NameSet) :
    ∀ parts : List Part, holds (Render.runParts scope config dense dirty index dirtyLocals parts)
  | [] => law.pure _
  | .fixed _ :: rest => law.bind (runParts dense dirty (index + 1) dirtyLocals rest) fun _ => law.pure _
  | .dynamic part :: rest => by
    unfold Render.runParts
    split
    · exact law.bind (law.inPart _ _ (law.runPart true part.node)) fun _ =>
        law.bind (runParts dense dirty (index + 1) _ rest) fun _ => law.pure _
    · split
      · exact law.bind (runParts dense dirty (index + 1) dirtyLocals rest) fun _ => law.pure _
      · exact law.bind (law.inPart _ _ (law.runPart false part.node)) fun _ =>
          law.bind (runParts dense dirty (index + 1) dirtyLocals rest) fun _ => law.pure _

end Law

end Eval

end ReactiveView.Render
