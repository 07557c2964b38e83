/-
**What a node depends on, and which names it gives.**

A node depends on every name it may read that is not bound before within the node itself. A call
of a helper depends on the component as a whole. A name bound in a branch counts as bound from
there on; a name bound in the body of a loop is gone after the loop.

* `analyze` — the dependencies of a node and the names it leaves bound.
-/

import ReactiveView.Data.NameSet
import ReactiveView.Template.Expr

namespace ReactiveView.Template

/-- The name that stands for the component itself: its helpers, identity values and the like. -/
def componentName : String := "component"

/-- Calls that the renderer answers itself. -/
def builtins : List String := ["raw", "child"]

/-- The names read so far, and the names bound in each open scope, innermost first. -/
structure Analysis where
  dependencies : NameSet
  scopes : List NameSet

namespace Analysis

/-- Before the first node. -/
def start : Analysis := ⟨NameSet.empty, [NameSet.empty]⟩

/-- Whether a name is bound in an open scope. -/
def isLocal (analysis : Analysis) (name : String) : Bool :=
  analysis.scopes.any fun scope => scope.contains name

/-- Binds a name in the innermost scope. -/
def bind (analysis : Analysis) (name : String) : Analysis :=
  match analysis.scopes with
  | [] => analysis
  | innermost :: outer => ⟨analysis.dependencies, innermost.insert name :: outer⟩

/-- Adds a dependency. -/
def depend (analysis : Analysis) (name : String) : Analysis :=
  ⟨analysis.dependencies.insert name, analysis.scopes⟩

/-- Reads a name, which is a dependency unless it is bound. -/
def read (analysis : Analysis) (name : String) : Analysis :=
  if analysis.isLocal name then analysis else analysis.depend name

/-- Opens a scope. -/
def enter (analysis : Analysis) : Analysis :=
  ⟨analysis.dependencies, NameSet.empty :: analysis.scopes⟩

/-- Closes the innermost scope. -/
def leave (analysis : Analysis) : Analysis := ⟨analysis.dependencies, analysis.scopes.drop 1⟩

/-- A call without a receiver, before its arguments. -/
def call (analysis : Analysis) (name : String) (bare : Bool) : Analysis :=
  if name ∈ builtins then analysis
  else
    let analysis := analysis.depend componentName
    if bare then analysis.read name else analysis

mutual

/-- Reads an expression. -/
def expr (analysis : Analysis) : Expr → Analysis
  | .literal _ => analysis
  | .list items => exprs analysis items
  | .name name => analysis.read name
  | .field target _ => expr analysis target
  | .index target index => expr (expr analysis target) index
  | .method receiver _ arguments => exprs (expr analysis receiver) arguments
  | .call name arguments => exprs (analysis.call name arguments.isEmpty) arguments
  | .unary _ operand => expr analysis operand
  | .binary _ left right => expr (expr analysis left) right
  | .conditional test affirmed denied => expr (expr (expr analysis test) affirmed) denied

/-- Reads some expressions in order. -/
def exprs (analysis : Analysis) : List Expr → Analysis
  | [] => analysis
  | first :: rest => exprs (expr analysis first) rest

end

mutual

/-- Reads a node. -/
def node (analysis : Analysis) : Node → Analysis
  | .text _ => analysis
  | .output value _ => analysis.expr value
  | .choice choices => branches analysis choices
  | .loop item second iterable body =>
    let inside := ((analysis.expr iterable).enter).bind item
    let inside := match second with
      | some second => inside.bind second
      | none => inside
    (nodes inside body).leave
  | .bind name value => (analysis.expr value).bind name

/-- Reads every branch of a choice, one after the other. -/
def branches (analysis : Analysis) : Branches → Analysis
  | .otherwise body => nodes analysis body
  | .branch test body rest => branches (nodes (analysis.expr test) body) rest

/-- Reads some nodes in order. -/
def nodes (analysis : Analysis) : List Node → Analysis
  | [] => analysis
  | first :: rest => nodes (node analysis first) rest

end

/-- The names bound in the innermost scope. -/
def bound (analysis : Analysis) : NameSet := analysis.scopes.head?.getD NameSet.empty

end Analysis

/-- Reads a node from the start. -/
def analyze (node : Node) : Analysis := Analysis.start.node node

end ReactiveView.Template
