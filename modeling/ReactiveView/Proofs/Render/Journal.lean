/-
**A rendering that keeps a journal.**

What a rendering computes on its way is not in its result: which loop bodies it has begun, which tags it
has run and what they put out, which values its expressions had. A rendering that keeps a journal notes
all that, in order, and is the same rendering otherwise. Its limits on loop bodies and on output can be
lifted, to see what it would do without them.

* `Entry` — a note: the part that was running and what happened in it.
* `Journaled.node`, `Journaled.runParts` — the steps of a rendering, with notes.
* `journaled`, `journal` — a rendering that keeps a journal, and what it notes.
-/

import ReactiveView.Proofs.Render.Parts

namespace ReactiveView

/-! ### What a template is made of -/

mutual

/-- The values that are written out in an expression. -/
def Expr.literals : Expr → List Literal
  | .literal value => [value]
  | .list items => Expr.literalsOf items
  | .name _ => []
  | .field target _ => target.literals
  | .index target place => target.literals ++ place.literals
  | .method receiver _ arguments => receiver.literals ++ Expr.literalsOf arguments
  | .call _ arguments => Expr.literalsOf arguments
  | .unary _ operand => operand.literals
  | .binary _ left right => left.literals ++ right.literals
  | .conditional test affirmed denied => test.literals ++ affirmed.literals ++ denied.literals

/-- The values that are written out in some expressions. -/
def Expr.literalsOf : List Expr → List Literal
  | [] => []
  | first :: rest => first.literals ++ Expr.literalsOf rest

end

mutual

/-- The values that are written out in a node. -/
def Node.literals : Node → List Literal
  | .text _ => []
  | .output value _ => value.literals
  | .choice choices => choices.literals
  | .loop _ _ iterable body => iterable.literals ++ Node.literalsOf body
  | .bind _ value => value.literals

/-- The values that are written out in a choice. -/
def Branches.literals : Branches → List Literal
  | .otherwise body => Node.literalsOf body
  | .branch test body rest => test.literals ++ Node.literalsOf body ++ rest.literals

/-- The values that are written out in some nodes. -/
def Node.literalsOf : List Node → List Literal
  | [] => []
  | first :: rest => first.literals ++ Node.literalsOf rest

end

mutual

/-- The texts and the output tags of a node. -/
def Node.outlets : Node → List Node
  | .text text => [.text text]
  | .output value raw => [.output value raw]
  | .choice choices => choices.outlets
  | .loop _ _ _ body => Node.outletsOf body
  | .bind _ _ => []

/-- The texts and the output tags of a choice. -/
def Branches.outlets : Branches → List Node
  | .otherwise body => Node.outletsOf body
  | .branch _ body rest => Node.outletsOf body ++ rest.outlets

/-- The texts and the output tags of some nodes. -/
def Node.outletsOf : List Node → List Node
  | [] => []
  | first :: rest => first.outlets ++ Node.outletsOf rest

end

namespace Render

variable {σ α β : Type}

/-! ### Entries -/

/-- What a rendering notes. -/
inductive Event where
  /-- A run of the body of a loop begins. -/
  | turn
  /-- An expression has a value. -/
  | value (expr : Expr) (value : Value)
  /-- A text or an output tag puts out a piece. -/
  | print (outlet : Node) (piece : Piece)

/-- A note, and the number of the part that was running. -/
structure Entry where
  part : Nat
  event : Event

/-- Whether an entry begins a loop body. -/
def Entry.isTurn (entry : Entry) : Bool :=
  match entry.event with
  | .turn => true
  | _ => false

/-- The piece that an entry is about, if any. -/
def Entry.piece? (entry : Entry) : Option Piece :=
  match entry.event with
  | .print _ piece => some piece
  | _ => none

/-- The entries of one part. -/
def ofPart (index : Nat) (entries : List Entry) : List Entry :=
  entries.filter fun entry => entry.part == index

/-- How many loop bodies are begun. -/
def turns (entries : List Entry) : Nat := entries.countP Entry.isTurn

/-- The pieces that are put out, in order. -/
def pieces (entries : List Entry) : List Piece := entries.filterMap Entry.piece?

/-- How many bytes are put out. -/
def bytes (entries : List Entry) : Nat := (Piece.join (pieces entries)).utf8ByteSize

section

variable {index : Nat} {front back entries : List Entry}

@[simp] theorem turns_append : turns (front ++ back) = turns front + turns back := by
  simp [turns]

@[simp] theorem pieces_append : pieces (front ++ back) = pieces front ++ pieces back := by
  simp [pieces]

@[simp] theorem bytes_append : bytes (front ++ back) = bytes front + bytes back := by
  simp [bytes, Piece.join, String.join_append]

@[simp] theorem bytes_print (outlet : Node) (piece : Piece) :
    bytes [⟨index, .print outlet piece⟩] = piece.html.utf8ByteSize := by
  simp [bytes, pieces, Entry.piece?, Piece.join, String.join_cons]

@[simp] theorem ofPart_append : ofPart index (front ++ back) = ofPart index front ++ ofPart index back := by
  simp [ofPart]

theorem ofPart_eq_self (same : ∀ entry ∈ entries, entry.part = index) :
    ofPart index entries = entries :=
  List.filter_eq_self.mpr fun entry member => beq_iff_eq.mpr (same entry member)

theorem ofPart_eq_nil (other : ∀ entry ∈ entries, entry.part ≠ index) : ofPart index entries = [] :=
  List.filter_eq_nil_iff.mpr fun entry member same => other entry member (beq_iff_eq.mp same)

end

/-! ### Steps without limits -/

namespace Eval

/-- Adds a piece to the output, whatever its size. -/
def add (piece : Piece) : Eval σ Unit := modify fun pass =>
  { pass with pieces := piece :: pass.pieces, size := pass.size + piece.html.utf8ByteSize }

/-- Counts one more loop run, whatever their number. -/
def countOn : Eval σ Unit := modify fun pass => { pass with iterations := pass.iterations + 1 }

/-- What a loop runs over, with all the numbers below an integer. -/
def allPairs (iterable : Value) : Eval σ (List (Value × Value)) := fun pass =>
  match iterable with
  | .nil => (.ok [], pass)
  | .list list =>
    let (items, store) := TrackedList.iterate list pass.store
    (.ok (items.zipIdx.map fun item => (item.1, .ofNat item.2)), { pass with store })
  | .map map =>
    let (entries, store) := TrackedMap.iterate map pass.store
    (.ok (entries.map fun entry => (.str entry.1, entry.2)), { pass with store })
  | .int number =>
    (.ok ((List.range number.toInt.toNat).map fun index => (.ofNat index, .ofNat index)), pass)
  | other => (.error (.eval ("cannot iterate over " ++ other.typeName)), pass)

end Eval

/-! ### Steps with notes -/

/-- A step of a rendering that keeps a journal: what it gives, the pass after it, and what it notes. -/
def Journaled (σ α : Type) := Pass σ → Except Error α × Pass σ × List Entry

/-- Whether the limits on loop bodies and on output are kept. -/
inductive Bounds where
  | kept
  | lifted

namespace Journaled

/-- A step without notes. -/
def doing (step : Eval σ α) : Journaled σ α := fun pass => ((step pass).1, (step pass).2, [])

/-- One step after the other; what both note is noted. -/
def andThen (run : Journaled σ α) (next : α → Journaled σ β) : Journaled σ β := fun pass =>
  match run pass with
  | (.ok value, pass, entries) =>
    let (result, pass, more) := next value pass
    (result, pass, entries ++ more)
  | (.error error, pass, entries) => (.error error, pass, entries)

instance : Monad (Journaled σ) where
  pure value := doing (Pure.pure value)
  bind := andThen

section

variable {run : Journaled σ α} {next : α → Journaled σ β} {pass reached : Pass σ}
  {entries : List Entry}

theorem bind_of_ok {value : α} (ran : run pass = (.ok value, reached, entries)) :
    (run >>= next) pass =
      ((next value reached).1, (next value reached).2.1, entries ++ (next value reached).2.2) := by
  change andThen run next pass = _
  rw [andThen, ran]

theorem bind_of_error {error : Error} (ran : run pass = (.error error, reached, entries)) :
    (run >>= next) pass = (.error error, reached, entries) := by
  change andThen run next pass = _
  rw [andThen, ran]

end

section

variable (index : Nat)

/-- Notes what happens while a part runs. -/
def note (event : Event) : Journaled σ Unit := fun pass => (.ok (), pass, [⟨index, event⟩])

/-- The value of an expression, which is noted. -/
def noted (expr : Expr) (run : Journaled σ Value) : Journaled σ Value := do
  let value ← run
  note index (.value expr value)
  return value

variable (scope : Scope σ) (config : Config)

mutual

/-- The value of an expression. -/
def expr : Expr → Journaled σ Value
  | .literal value => noted index (.literal value) (return Eval.literal value)
  | .list items => noted index (.list items) do
    let values ← exprs items
    doing (Eval.make fun store => store.newList values)
  | .name name => noted index (.name name) (doing (Eval.lookup scope config name))
  | .field target name => noted index (.field target name) do
    let value ← expr target
    doing (Eval.onStore (readField value name))
  | .index target place => noted index (.index target place) do
    let value ← expr target
    let key ← expr place
    doing (Eval.onStore (readIndex value key))
  | .method receiver name arguments => noted index (.method receiver name arguments) do
    let value ← expr receiver
    let values ← exprs arguments
    doing (Eval.onStore (callMethod value name values))
  | .call name arguments => noted index (.call name arguments) do
    if name = "raw" then do
      match ← exprs arguments with
      | [value] => return .str (← doing (Eval.textOf value))
      | _ => doing (Eval.refuse Eval.rawArity)
    else if name = "child" then do
      if arguments.length ≠ 2 then doing (Eval.refuse Eval.childArity)
      else
        match ← texts arguments with
        | [className, id] => return .str (← doing (Eval.child scope className id))
        | _ => doing (Eval.refuse Eval.childArity)
    else do
      let values ← exprs arguments
      doing (Eval.helper scope name values)
  | .unary op operand => noted index (.unary op operand) do
    let value ← expr operand
    doing (Eval.settled (unary op value))
  | .binary op left right => noted index (.binary op left right) do
    let value ← expr left
    match op with
    | .and => if value.isTruthy then expr right else return value
    | .or => if value.isTruthy then return value else expr right
    | op =>
      let other ← expr right
      doing (Eval.onStore (binary op config.maxOutputLength value other))
  | .conditional test affirmed denied => noted index (.conditional test affirmed denied) do
    let value ← expr test
    if value.isTruthy then expr affirmed else expr denied

/-- The values of some expressions, in order. -/
def exprs : List Expr → Journaled σ (List Value)
  | [] => return []
  | first :: rest => do
    let value ← expr first
    let values ← exprs rest
    return value :: values

/-- The texts of some expressions, each taken before the next expression is evaluated. -/
def texts : List Expr → Journaled σ (List String)
  | [] => return []
  | first :: rest => do
    let value ← expr first
    let text ← doing (Eval.textOf value)
    let others ← texts rest
    return text :: others

end

/-- The piece of an output tag. -/
def output (raw : Bool) : Expr → Journaled σ Piece
  | .conditional test affirmed denied => do
    let value ← expr index scope config test
    if value.isTruthy then output raw affirmed else output raw denied
  | .call name arguments =>
    if name = "raw" then do
      if arguments.length ≠ 1 then doing (Eval.refuse Eval.rawArity)
      else
        match ← exprs index scope config arguments with
        | [value] => return .markup (← doing (Eval.textOf value))
        | _ => doing (Eval.refuse Eval.rawArity)
    else if name = "child" then do
      if arguments.length ≠ 2 then doing (Eval.refuse Eval.childArity)
      else
        match ← texts index scope config arguments with
        | [className, id] => return .markup (← doing (Eval.child scope className id))
        | _ => doing (Eval.refuse Eval.childArity)
    else do
      let value ← expr index scope config (.call name arguments)
      return Eval.piece raw (← doing (Eval.textOf value))
  | value => do
    let value ← expr index scope config value
    return Eval.piece raw (← doing (Eval.textOf value))

end

variable (bounds : Bounds) (index : Nat) (config : Config)

/-- A step that a limit is about, which is noted if the limit is lifted or allows it. -/
def checked (within free : Eval σ Unit) (event : Event) : Journaled σ Unit := do
  doing <| match bounds with
    | .kept => within
    | .lifted => free
  note index event

/-- Puts out a piece. -/
def put (outlet : Node) (piece : Piece) : Journaled σ Unit :=
  checked bounds index (Eval.push config piece) (Eval.add piece) (.print outlet piece)

/-- Begins a loop body. -/
def count : Journaled σ Unit := checked bounds index (Eval.count config) Eval.countOn .turn

/-- One run of a loop, in a scope of its own. -/
def turn (frame : OrderedMap String Value) (body : Journaled σ Unit) : Journaled σ Unit := do
  count bounds index config
  doing (Eval.enter frame)
  body
  doing Eval.leave

/-- The runs of a loop over a value. -/
def turns (item : String) (second : Option String) (iterable : Value) (body : Journaled σ Unit) :
    Journaled σ Unit := do
  let pairs ← doing (Eval.allPairs iterable)
  pairs.forM fun pair => turn bounds index config (Eval.loopFrame item second pair) body

variable (scope : Scope σ)

mutual

/-- Runs a node. -/
def node : Node → Journaled σ Unit
  | .text text => put bounds index config (.text text) (.template text)
  | .output value raw => do
    let piece ← output index scope config raw value
    put bounds index config (.output value raw) piece
  | .choice choices => branches choices
  | .loop item second iterable body => do
    let value ← expr index scope config iterable
    turns bounds index config item second value (nodes body)
  | .bind name value => do
    let value ← expr index scope config value
    doing (Eval.bind name value)

/-- Runs the first branch whose test holds. -/
def branches : Branches → Journaled σ Unit
  | .otherwise body => nodes body
  | .branch test body rest => do
    let value ← expr index scope config test
    if value.isTruthy then nodes body else branches rest

/-- Runs some nodes in order. -/
def nodes : List Node → Journaled σ Unit
  | [] => return ()
  | first :: rest => do
    node first
    nodes rest

end

/-- What a part gives at its end, by the end of its node: its output, or an error that names it. -/
def closing (index : Nat) (source : String) :
    Except Error Unit × Pass σ × List Entry → Except Error PartOutput × Pass σ × List Entry
  | (.ok _, pass, entries) => (.ok ⟨pass.pieces.reverse, pass.direct, pass.rendered⟩, pass, entries)
  | (.error error, pass, entries) => (.error (.render index source error), pass, entries)

/-- Runs one dynamic part, whose output starts empty. -/
def runPart (rendersChildren : Bool) (part : DynamicPart) : Journaled σ PartOutput := fun pass =>
  closing index part.source (node bounds index config scope part.node (pass.openPart rendersChildren))

/-- The slots of some parts from the one with the given index on, and what was rendered in them. -/
def runParts (dense : Bool) (dirty : Dirty) (index : Nat) (dirtyLocals : NameSet) :
    List Part → Journaled σ (List Slot × List String)
  | [] => return ([], [])
  | .fixed text :: rest => do
    let (slots, rendered) ← runParts dense dirty (index + 1) dirtyLocals rest
    return (⟨if dense then some text else none, none⟩ :: slots, rendered)
  | .dynamic part :: rest => do
    if isAffected dense dirty dirtyLocals part then
      let output ← runPart bounds index config scope true part
      let (slots, rendered) ← runParts dense dirty (index + 1) (dirtyLocals.union part.locals) rest
      return (⟨some (Piece.join output.pieces), some output.direct⟩ :: slots,
        output.rendered ++ rendered)
    else
      match part.kind with
      | .expression =>
        let (slots, rendered) ← runParts dense dirty (index + 1) dirtyLocals rest
        return (⟨none, none⟩ :: slots, rendered)
      | .block =>
        let _ ← runPart bounds index config scope false part
        let (slots, rendered) ← runParts dense dirty (index + 1) dirtyLocals rest
        return (⟨none, none⟩ :: slots, rendered)

end Journaled

/-- **A rendering that keeps a journal**: what the parts give, the pass after them, and the journal. -/
def journaled (bounds : Bounds) (template : Template) (dirty : Dirty) (view : ClientView)
    (scope : Scope σ) (config : Config) (world : σ) (store : Store) :
    Except Error (List Slot × List String) × Pass σ × List Entry :=
  Journaled.runParts bounds config scope (isDense template dirty view) dirty 0 NameSet.empty
    template.parts (Pass.start world store)

/-- What a rendering notes, from its first step to its last or to its error. -/
def journal (bounds : Bounds) (template : Template) (dirty : Dirty) (view : ClientView)
    (scope : Scope σ) (config : Config) (world : σ) (store : Store) : List Entry :=
  (journaled bounds template dirty view scope config world store).2.2

end Render

end ReactiveView
