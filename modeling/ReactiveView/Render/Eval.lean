/-
**Running the nodes of a template.**

A pass goes through the parts of a template. It carries the store, the world of the scope, the
locals, the number of loop runs so far, and the output of the current part as a row of pieces:
text of the template, text made literal, and markup. What has been done before an error stays
done.

* `Eval.expr` — the value of an expression.
* `Eval.output` — the piece of an output tag: `raw` and `child` give markup as it is, also behind
  the test of a conditional.
* `Eval.node` — a node: pieces are added to the output, loops are counted, locals are bound.
-/

import ReactiveView.Config
import ReactiveView.Render.Method
import ReactiveView.Render.Scope
import ReactiveView.Text.Html

namespace ReactiveView.Render

/-- A piece of output. -/
inductive Piece where
  /-- Text of the template itself. -/
  | template (text : String)
  /-- A text that was made literal for markup. -/
  | literal (text : String)
  /-- Markup that came from a value or a child. -/
  | markup (text : String)
deriving DecidableEq

/-- A piece as it stands in the output. -/
def Piece.html : Piece → String
  | template text => text
  | literal text => Html.escape text
  | markup text => text

/-- The output of some pieces. -/
def Piece.join (pieces : List Piece) : String := String.join (pieces.map Piece.html)

/-- The state of a pass. -/
structure Pass (σ : Type) where
  store : Store
  world : σ
  /-- The locals of each open scope, innermost first. -/
  frames : List (OrderedMap String Value)
  /-- How many loop runs have begun. -/
  iterations : Nat
  /-- The output of the current part, last piece first, and its number of bytes. -/
  pieces : List Piece
  size : Nat
  /-- Whether children are rendered; otherwise they are left alone and have no output. -/
  rendersChildren : Bool
  /-- The ids of the children that the current part has rendered. -/
  direct : List String
  /-- Those children and everything they rendered inside themselves. -/
  rendered : List String

/-- The state before the first part. -/
def Pass.start {σ : Type} (world : σ) (store : Store) : Pass σ where
  store := store
  world := world
  frames := [OrderedMap.empty]
  iterations := 0
  pieces := []
  size := 0
  rendersChildren := true
  direct := []
  rendered := []

/-- A step of a pass, which may fail. -/
abbrev Eval (σ : Type) := ExceptT Error (StateM (Pass σ))

namespace Eval

variable {σ : Type}

/-- Fails for a reason. -/
def refuse {α : Type} (reason : String) : Eval σ α := throw (.eval reason)

/-- Something done to the store. -/
def onStore (f : Store → Outcome) : Eval σ Value := fun pass =>
  let (result, store) := f pass.store
  (result, { pass with store })

/-- A new value. -/
def make (f : Store → Value × Store) : Eval σ Value := fun pass =>
  let (value, store) := f pass.store
  (.ok value, { pass with store })

/-- A result that is there or an error. -/
def settled {α : Type} (result : Except Error α) : Eval σ α := fun pass => (result, pass)

/-- A question to the scope. -/
def asking {α : Type} (f : σ → Store → Answer σ α) : Eval σ α := fun pass =>
  let (result, world, store) := f pass.world pass.store
  (result, { pass with world, store })

/-- The text of a value. -/
def textOf (value : Value) : Eval σ String := fun pass => (.ok (value.text pass.store), pass)

/-- The value of a local, looked for from the innermost scope outwards. -/
def findLocal (frames : List (OrderedMap String Value)) (name : String) : Option Value :=
  frames.findSome? fun frame => frame.get? name

/-- The value of a name: a local, or else what the scope has. -/
def lookup (scope : Scope σ) (config : Config) (name : String) : Eval σ Value := do
  match findLocal (← get).frames name with
  | some value => return value
  | none =>
    match ← asking (scope.lookup name) with
    | some value => return value
    | none =>
      if config.strictVariables then throw (.undefinedVariable name) else return .nil

/-- The value of a literal. -/
def literal : Literal → Value
  | .nil => .nil
  | .bool value => .bool value
  | .int value => .int value
  | .float value => .float value
  | .str value => .str value

/-- Renders the child of a class and an id, unless children are left alone. -/
def child (scope : Scope σ) (className id : String) : Eval σ String := do
  if (← get).rendersChildren then
    let child ← asking (scope.renderChild className id)
    modify fun pass =>
      { pass with direct := pass.direct ++ [id], rendered := pass.rendered ++ child.rendered }
    return child.html
  else return ""

/-- The call of a helper. -/
def helper (scope : Scope σ) (name : String) (arguments : List Value) : Eval σ Value := do
  match ← asking (scope.call name arguments) with
  | some value => return value
  | none => refuse ("unknown helper " ++ ticked name)

/-- Why a call of `raw` with the wrong number of arguments is refused. -/
def rawArity : String := ticked "raw" ++ " takes one argument"

/-- Why a call of `child` with the wrong number of arguments is refused. -/
def childArity : String := ticked "child" ++ " takes a class and an id"

mutual

/-- The value of an expression. -/
def expr (scope : Scope σ) (config : Config) : Expr → Eval σ Value
  | .literal value => return literal value
  | .list items => do
    let values ← exprs scope config items
    make fun store => store.newList values
  | .name name => lookup scope config name
  | .field target name => do
    let target ← expr scope config target
    onStore (readField target name)
  | .index target index => do
    let target ← expr scope config target
    let index ← expr scope config index
    onStore (readIndex target index)
  | .method receiver name arguments => do
    let receiver ← expr scope config receiver
    let arguments ← exprs scope config arguments
    onStore (callMethod receiver name arguments)
  | .call name arguments =>
    if name = "raw" then do
      match ← exprs scope config arguments with
      | [value] => return .str (← textOf value)
      | _ => refuse rawArity
    else if name = "child" then do
      if arguments.length ≠ 2 then refuse childArity
      else
        match ← texts scope config arguments with
        | [className, id] => return .str (← child scope className id)
        | _ => refuse childArity
    else do
      let arguments ← exprs scope config arguments
      helper scope name arguments
  | .unary op operand => do
    let value ← expr scope config operand
    settled (unary op value)
  | .binary op left right => do
    let left ← expr scope config left
    match op with
    | .and => if left.isTruthy then expr scope config right else return left
    | .or => if left.isTruthy then return left else expr scope config right
    | op =>
      let right ← expr scope config right
      onStore (binary op config.maxOutputLength left right)
  | .conditional test affirmed denied => do
    let test ← expr scope config test
    if test.isTruthy then expr scope config affirmed else expr scope config denied

/-- The values of some expressions, in order. -/
def exprs (scope : Scope σ) (config : Config) : List Expr → Eval σ (List Value)
  | [] => return []
  | first :: rest => do
    let value ← expr scope config first
    let values ← exprs scope config rest
    return value :: values

/-- The texts of some expressions, each taken before the next expression is evaluated. -/
def texts (scope : Scope σ) (config : Config) : List Expr → Eval σ (List String)
  | [] => return []
  | first :: rest => do
    let value ← expr scope config first
    let text ← textOf value
    let others ← texts scope config rest
    return text :: others

end

/-- A text as a piece of output: made literal unless it is taken raw. -/
def piece (raw : Bool) (text : String) : Piece := if raw then .markup text else .literal text

/-- The piece of an output tag. -/
def output (scope : Scope σ) (config : Config) (raw : Bool) : Expr → Eval σ Piece
  | .conditional test affirmed denied => do
    let test ← expr scope config test
    if test.isTruthy then output scope config raw affirmed else output scope config raw denied
  | .call name arguments =>
    if name = "raw" then do
      if arguments.length ≠ 1 then refuse rawArity
      else
        match ← exprs scope config arguments with
        | [value] => return .markup (← textOf value)
        | _ => refuse rawArity
    else if name = "child" then do
      if arguments.length ≠ 2 then refuse childArity
      else
        match ← texts scope config arguments with
        | [className, id] => return .markup (← child scope className id)
        | _ => refuse childArity
    else do
      let value ← expr scope config (.call name arguments)
      return piece raw (← textOf value)
  | value => do
    let value ← expr scope config value
    return piece raw (← textOf value)

/-- Adds a piece to the output, if the limit allows. -/
def push (config : Config) (piece : Piece) : Eval σ Unit := do
  let pass ← get
  let size := pass.size + piece.html.utf8ByteSize
  if size > config.maxOutputLength then
    refuse ("output too large: more than " ++ toString config.maxOutputLength ++ " bytes")
  else set { pass with pieces := piece :: pass.pieces, size }

/-- Gives a value to a name in the innermost scope. -/
def bind (name : String) (value : Value) : Eval σ Unit := modify fun pass =>
  match pass.frames with
  | [] => pass
  | innermost :: outer => { pass with frames := innermost.insert name value :: outer }

/--
What a loop runs over: the items of a list with their indexes, the keys of a map with their
values, or the numbers below an integer. At most one number more than there may be runs is made.
-/
def pairs (config : Config) (iterable : Value) : Eval σ (List (Value × Value)) := fun pass =>
  match iterable with
  | .nil => (.ok [], pass)
  | .list list =>
    let (items, store) := TrackedList.iterate list pass.store
    (.ok (items.zipIdx.map fun item => (item.1, .ofNat item.2)), { pass with store })
  | .map map =>
    let (entries, store) := TrackedMap.iterate map pass.store
    (.ok (entries.map fun entry => (.str entry.1, entry.2)), { pass with store })
  | .int number =>
    let count := min number.toInt.toNat (config.maxIterations - pass.iterations + 1)
    (.ok ((List.range count).map fun index => (.ofNat index, .ofNat index)), pass)
  | other => (.error (.eval ("cannot iterate over " ++ other.typeName)), pass)

/-- Counts one more loop run, if the limit allows. -/
def count (config : Config) : Eval σ Unit := do
  let pass ← get
  let iterations := pass.iterations + 1
  set { pass with iterations }
  if iterations > config.maxIterations then
    refuse ("loop too large: more than " ++ toString config.maxIterations ++ " iterations")

/-- The locals of one loop run. -/
def loopFrame (item : String) (second : Option String) (pair : Value × Value) :
    OrderedMap String Value :=
  let frame := OrderedMap.empty.insert item pair.1
  match second with
  | some second => frame.insert second pair.2
  | none => frame

/-- Opens a scope with the given locals. -/
def enter (frame : OrderedMap String Value) : Eval σ Unit := modify fun pass =>
  { pass with frames := frame :: pass.frames }

/-- Closes the innermost scope. -/
def leave : Eval σ Unit := modify fun pass => { pass with frames := pass.frames.drop 1 }

mutual

/-- Runs a node. -/
def node (scope : Scope σ) (config : Config) : Node → Eval σ Unit
  | .text text => push config (.template text)
  | .output value raw => do
    let piece ← output scope config raw value
    push config piece
  | .choice choices => branches scope config choices
  | .loop item second iterable body => do
    let iterable ← expr scope config iterable
    let pairs ← pairs config iterable
    pairs.forM fun pair => do
      count config
      enter (loopFrame item second pair)
      nodes scope config body
      leave
  | .bind name value => do
    let value ← expr scope config value
    bind name value

/-- Runs the first branch whose test holds. -/
def branches (scope : Scope σ) (config : Config) : Branches → Eval σ Unit
  | .otherwise body => nodes scope config body
  | .branch test body rest => do
    let test ← expr scope config test
    if test.isTruthy then nodes scope config body else branches scope config rest

/-- Runs some nodes in order. -/
def nodes (scope : Scope σ) (config : Config) : List Node → Eval σ Unit
  | [] => return ()
  | first :: rest => do
    node scope config first
    nodes scope config rest

end

end Eval

end ReactiveView.Render
