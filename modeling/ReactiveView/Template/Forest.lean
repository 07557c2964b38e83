/-
**The nodes of a template.**

Segments are taken one at a time. What is read so far is the finished nodes and the constructs still
open, innermost first; an opening tag opens one, `elsif` and `else` go on to its next branch, and
`end` closes the innermost. Comments and empty statements are nothing.

* `Forest.step` — what a segment does.
* `parse` — the nodes of a source, each with the places of its first and after its last character.
-/

import ReactiveView.Template.Reading
import ReactiveView.Template.Segment

namespace ReactiveView.Template

/-- A node and the part of the source it was read from. -/
structure SpannedNode where
  node : Node
  start : Nat
  stop : Nat

/-- A construct whose `end` has not come yet; `start` is the place of its first tag. -/
inductive Construct where
  /-- Earlier branches, and the test and the body of the branch being read. -/
  | choice (start : Nat) (tested : List (Expr × List Node)) (test : Expr) (body : List Node)
  /-- All branches with a test, and the body after `else`. -/
  | lastBranch (start : Nat) (tested : List (Expr × List Node)) (body : List Node)
  | loop (start : Nat) (item : String) (second : Option String) (iterable : Expr)
    (body : List Node)

namespace Construct

/-- Adds a node to the body that is being read. -/
def push (construct : Construct) (node : Node) : Construct :=
  match construct with
  | .choice start tested test body => .choice start tested test (body ++ [node])
  | .lastBranch start tested body => .lastBranch start tested (body ++ [node])
  | .loop start item second iterable body => .loop start item second iterable (body ++ [node])

/-- The place of the first tag of a construct, and the node it is when it ends. -/
def node : Construct → Nat × Node
  | .choice start tested test body => (start, .choice (.ofList (tested ++ [(test, body)]) []))
  | .lastBranch start tested body => (start, .choice (.ofList tested body))
  | .loop start item second iterable body => (start, .loop item second iterable body)

/-- Goes on with the branch of a test, or with the last branch; only a choice has branches. -/
def goOn (construct : Construct) (next : Option Expr) : Except (Nat × String) Construct :=
  match construct, next with
  | .choice start tested test body, some next =>
    .ok (.choice start (tested ++ [(test, body)]) next [])
  | .choice start tested test body, none => .ok (.lastBranch start (tested ++ [(test, body)]) [])
  | .lastBranch start .., _ =>
    .error (start, ticked "else" ++ " must be the last branch of " ++ ticked "if")
  | .loop start .., _ =>
    .error (start, ticked "for" ++ " cannot have " ++ ticked "elsif" ++ " or " ++ ticked "else")

/-- Why a source may not end in a construct, and where its first tag is. -/
def unclosed : Construct → Nat × String
  | .loop start .. => (start, ticked "for" ++ " without " ++ ticked "end")
  | .lastBranch start .. => (start, ticked "if" ++ " without " ++ ticked "end")
  | .choice start .. => (start, ticked "if" ++ " without " ++ ticked "end")

end Construct

/-- What has been read of a template. -/
structure Forest where
  finished : List SpannedNode
  constructs : List Construct

namespace Forest

/-- Before the first segment. -/
def empty : Forest := ⟨[], []⟩

/-- Adds a complete node. -/
def add (forest : Forest) (node : Node) (start stop : Nat) : Forest :=
  match forest.constructs with
  | [] => ⟨forest.finished ++ [⟨node, start, stop⟩], []⟩
  | innermost :: outer => ⟨forest.finished, innermost.push node :: outer⟩

/-- Why a tag that goes on with a construct or ends it may not stand outside of all. -/
def stray : String :=
  "unexpected " ++ ticked "end" ++ ", " ++ ticked "elsif" ++ " or " ++ ticked "else"

/-- What a statement does; an error has a place and a text. -/
def stepStatement (forest : Forest) (tag : Tag) (statement : Statement) :
    Except (Nat × String) Forest :=
  match statement, forest.constructs with
  | .check test, outer => .ok ⟨forest.finished, .choice tag.start [] test [] :: outer⟩
  | .loop item second iterable, outer =>
    .ok ⟨forest.finished, .loop tag.start item second iterable [] :: outer⟩
  | .bind name value, _ => .ok (forest.add (.bind name value) tag.start tag.stop)
  | .close, innermost :: outer =>
    let (start, node) := innermost.node
    .ok (add ⟨forest.finished, outer⟩ node start tag.stop)
  | .otherCheck test, innermost :: outer => do
    return ⟨forest.finished, (← innermost.goOn (some test)) :: outer⟩
  | .otherwise, innermost :: outer => do
    return ⟨forest.finished, (← innermost.goOn none) :: outer⟩
  | _, [] => .error (tag.start, stray)

/-- The place in the source and the text of a fault in the code of a tag. -/
def locate {α β : Type} (place : List α → Nat) (result : Except (Stuck α) β) :
    Except (Nat × String) β :=
  match result with
  | .ok value => .ok value
  | .error stuck => .error (place stuck.rest, stuck.reason.message)

/-- The tokens of the code of a tag. -/
def tokens (tag : Tag) : Except (Nat × String) (List PlacedToken) :=
  locate (fun rest => tag.codeStart + (tag.code.length - rest.length)) (tokenize tag.code)

/-- The place of the first of some tokens, or the end of the code. -/
def placeOf (tag : Tag) (rest : List PlacedToken) : Nat :=
  match rest with
  | [] => tag.codeStart + tag.code.length
  | first :: _ => tag.codeStart + first.place

/-- What a tag does. -/
def stepTag (forest : Forest) (tag : Tag) : Except (Nat × String) Forest := do
  match tag.kind with
  | .comment => return forest
  | .statement =>
    if tag.code.isEmpty then return forest
    else
      let statement ← locate (placeOf tag) (readStatement (← tokens tag))
      forest.stepStatement tag statement
  | .output =>
    let value ← locate (placeOf tag) (readExpr (← tokens tag))
    return forest.add (.output value false) tag.start tag.stop
  | .rawOutput =>
    let value ← locate (placeOf tag) (readExpr (← tokens tag))
    return forest.add (.output value true) tag.start tag.stop

/-- What a segment does. -/
def step (forest : Forest) : Segment → Except (Nat × String) Forest
  | .text text start stop => .ok (forest.add (.text (String.ofList text)) start stop)
  | .tag tag => forest.stepTag tag

/-- The nodes, if no construct is open. -/
def finish (forest : Forest) : Except (Nat × String) (List SpannedNode) :=
  match forest.constructs with
  | [] => .ok forest.finished
  | innermost :: _ => .error (innermost.unclosed)

/-- Takes segments to their end. -/
def run (forest : Forest) : List Segment → Except (Nat × String) (List SpannedNode)
  | [] => forest.finish
  | first :: rest =>
    match forest.step first with
    | .ok next => next.run rest
    | .error found => .error found

end Forest

/-- The nodes of a source, or the place and the text of its first fault. -/
def parse (source : List Char) : Except (Nat × String) (List SpannedNode) :=
  match segments source with
  | .error place => .error (place, "unclosed tag")
  | .ok segments => Forest.empty.run segments

end ReactiveView.Template
