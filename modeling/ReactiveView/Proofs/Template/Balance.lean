/-
**A template is read exactly if its tags balance.**

What a template says is a row of items: texts, outputs and statements. A forest flattens to such a
row: a choice to `if` and a body, then any number of `elsif` with a body, then perhaps `else` with a
body, then `end`; a loop to `for`, its body and `end`. Reading segments undoes the flattening. What
was read so far is finished nodes and open constructs, and an open construct is known by what it
comes to with all that may still follow.

* `FlattensTo`, `ForestFlattensTo` — the rows of items that a node and a forest flatten to.
* `Construct.Begun`, `Forest.Holds` — what was read of a construct, and of a template.
* `Forest.Holds.take` — one item more.
* `FlattensTo.foldlM_take` — the items of a node lead to the node.
* `run_balanced` — segments are read as the one forest that flattens to their items, if there is one.
-/

import ReactiveView.Template.Forest

namespace ReactiveView.Template

/-! ### Items -/

/-- What a text or the code of a tag says. -/
inductive Item where
  | text (text : String)
  | output (value : Expr) (raw : Bool)
  | statement (statement : Statement)

/-- What goes on with a choice: to the branch of a test, or to the last branch. -/
def Item.ofBranch : Option Expr → Item
  | some test => .statement (.otherCheck test)
  | none => .statement .otherwise

/-- An item and the places of the first and after the last character of its segment. -/
structure PlacedItem where
  item : Item
  start : Nat
  stop : Nat

/-- What a reader makes of the code of a tag, if it can read it. -/
def Tag.read? {α : Type} (tag : Tag) (reader : List PlacedToken → Except (Stuck PlacedToken) α) :
    Option α :=
  (tokenize tag.code).toOption.bind fun tokens => (reader tokens).toOption

/-- What a tag says; a comment and an empty statement say nothing. -/
def Tag.item? (tag : Tag) : Option Item :=
  match tag.kind with
  | .comment => none
  | .statement => if tag.code.isEmpty then none else (tag.read? readStatement).map .statement
  | .output => (tag.read? readExpr).map (.output · false)
  | .rawOutput => (tag.read? readExpr).map (.output · true)

/-- What a segment says, and where. -/
def Segment.item? : Segment → Option PlacedItem
  | .text chars start stop => some ⟨.text (String.ofList chars), start, stop⟩
  | .tag found => found.item?.map (⟨·, found.start, found.stop⟩)

/-- A comment or an empty statement. -/
def Segment.IsIdle : Segment → Prop
  | .text .. => False
  | .tag found => found.kind = .comment ∨ (found.kind = .statement ∧ found.code = [])

/-- The code of a segment, if it has one that matters, can be read on its own. -/
def Segment.Parses (segment : Segment) : Prop := segment.IsIdle ∨ segment.item?.isSome

instance (segment : Segment) : Decidable segment.IsIdle :=
  match segment with
  | .text .. => inferInstanceAs (Decidable False)
  | .tag found =>
    inferInstanceAs (Decidable (found.kind = .comment ∨ (found.kind = .statement ∧ found.code = [])))

instance (segment : Segment) : Decidable segment.Parses :=
  inferInstanceAs (Decidable (segment.IsIdle ∨ segment.item?.isSome))

/-- What some segments say. -/
def itemsOf (segments : List Segment) : List PlacedItem := segments.filterMap Segment.item?

/-! ### Flattening -/

mutual

/-- A node flattens to a row of items. -/
inductive FlattensTo : Node → List Item → Prop
  | text (text : String) : FlattensTo (.text text) [.text text]
  | output (value : Expr) (raw : Bool) : FlattensTo (.output value raw) [.output value raw]
  | bind (name : String) (value : Expr) :
    FlattensTo (.bind name value) [.statement (.bind name value)]
  | loop {item : String} {second : Option String} {iterable : Expr} {body : List Node}
    {inside : List Item} (flattens : BodyFlattensTo body inside) :
    FlattensTo (.loop item second iterable body)
      (.statement (.loop item second iterable) :: (inside ++ [.statement .close]))
  | choice {test : Expr} {body : List Node} {inside : List Item} {later : Branches}
    {behind : List Item} (flattens : BodyFlattensTo body inside)
    (goesOn : TailFlattensTo later behind) :
    FlattensTo (.choice (.branch test body later))
      (.statement (.check test) :: (inside ++ behind))

/-- A body flattens to what its nodes flatten to, one after the other. -/
inductive BodyFlattensTo : List Node → List Item → Prop
  | nil : BodyFlattensTo [] []
  | cons {node : Node} {body : List Node} {own inside : List Item} (front : FlattensTo node own)
    (flattens : BodyFlattensTo body inside) : BodyFlattensTo (node :: body) (own ++ inside)

/-- The branches of a choice after the first, and its end; an `else` may be left out. -/
inductive TailFlattensTo : Branches → List Item → Prop
  | close : TailFlattensTo (.otherwise []) [.statement .close]
  | otherwise {body : List Node} {inside : List Item} (flattens : BodyFlattensTo body inside) :
    TailFlattensTo (.otherwise body)
      (.statement .otherwise :: (inside ++ [.statement .close]))
  | branch {test : Expr} {body : List Node} {inside : List Item} {later : Branches}
    {behind : List Item} (flattens : BodyFlattensTo body inside)
    (goesOn : TailFlattensTo later behind) :
    TailFlattensTo (.branch test body later)
      (.statement (.otherCheck test) :: (inside ++ behind))

end

/-- Some items span the source from one place to another. -/
structure Spans (items : List PlacedItem) (start stop : Nat) : Prop where
  first : items.head?.map PlacedItem.start = some start
  last : items.getLast?.map PlacedItem.stop = some stop

/-- A forest flattens to a row of items, and each of its nodes spans the items it flattens to. -/
inductive ForestFlattensTo : List SpannedNode → List PlacedItem → Prop
  | nil : ForestFlattensTo [] []
  | cons {node : SpannedNode} {nodes : List SpannedNode} {own later : List PlacedItem}
    (flattens : FlattensTo node.node (own.map PlacedItem.item))
    (spans : Spans own node.start node.stop) (goesOn : ForestFlattensTo nodes later) :
    ForestFlattensTo (node :: nodes) (own ++ later)

theorem ForestFlattensTo.snoc {nodes : List SpannedNode} {items own : List PlacedItem}
    {node : SpannedNode} (forest : ForestFlattensTo nodes items)
    (flattens : FlattensTo node.node (own.map PlacedItem.item))
    (spans : Spans own node.start node.stop) :
    ForestFlattensTo (nodes ++ [node]) (items ++ own) := by
  induction forest with
  | nil =>
    rw [List.nil_append, List.nil_append, ← List.append_nil own]
    exact .cons flattens spans .nil
  | cons front spanned _ ih =>
    rw [List.append_assoc]
    exact .cons front spanned ih

/-- A forest is the flattening of a first part and of the rest at each of its nodes. -/
theorem ForestFlattensTo.exists_of_mem {nodes : List SpannedNode} {items : List PlacedItem}
    {node : SpannedNode} (forest : ForestFlattensTo nodes items) (member : node ∈ nodes) :
    ∃ before own after, items = before ++ own ++ after ∧
      FlattensTo node.node (own.map PlacedItem.item) ∧ Spans own node.start node.stop := by
  induction forest with
  | nil => cases member
  | @cons _ _ first later flattens spans _ ih =>
    rcases List.mem_cons.mp member with rfl | member
    · exact ⟨[], first, later, rfl, flattens, spans⟩
    · obtain ⟨before, own, after, rfl, found⟩ := ih member
      exact ⟨first ++ before, own, after, by simp only [List.append_assoc], found⟩

/-! ### What an item does -/

/-- A tag at the place of an item. -/
def PlacedItem.tag (item : PlacedItem) : Tag := ⟨.statement, [], 0, item.start, item.stop⟩

/-- What an item does. -/
def Forest.take (forest : Forest) (item : PlacedItem) : Except (Nat × String) Forest :=
  match item.item with
  | .text text => .ok (forest.add (.text text) item.start item.stop)
  | .output value raw => .ok (forest.add (.output value raw) item.start item.stop)
  | .statement statement => forest.stepStatement item.tag statement

namespace Forest

/-- What a reader makes of the code of a tag, or the place and the text of the fault in it. -/
def located {α : Type} (tag : Tag) (reader : List PlacedToken → Except (Stuck PlacedToken) α) :
    Except (Nat × String) α := do
  locate (placeOf tag) (reader (← tokens tag))

theorem located_eq_ok {α : Type} {tag : Tag} {value : α}
    {reader : List PlacedToken → Except (Stuck PlacedToken) α} :
    located tag reader = .ok value ↔ tag.read? reader = some value := by
  unfold located tokens Tag.read?
  cases tokenize tag.code with
  | error stuck => simp [locate, Except.toOption, bind, Except.bind]
  | ok read =>
    simp only [locate, Except.toOption, bind, Except.bind, Option.bind_some]
    cases reader read <;> simp

variable {forest next : Forest} {tag : Tag} {segment : Segment}

theorem stepTag_of_statement (kind : tag.kind = .statement) (nonempty : tag.code ≠ []) :
    forest.stepTag tag = located tag readStatement >>= forest.stepStatement tag := by
  simp only [stepTag, kind, List.isEmpty_iff, nonempty, if_false, located, bind_assoc]

theorem stepTag_of_output (kind : tag.kind = .output) :
    forest.stepTag tag = located tag readExpr >>= fun value =>
      .ok (forest.add (.output value false) tag.start tag.stop) := by
  simp only [stepTag, kind, located, bind_assoc]
  rfl

theorem stepTag_of_rawOutput (kind : tag.kind = .rawOutput) :
    forest.stepTag tag = located tag readExpr >>= fun value =>
      .ok (forest.add (.output value true) tag.start tag.stop) := by
  simp only [stepTag, kind, located, bind_assoc]
  rfl

/-- Of a tag a statement takes only the places. -/
theorem stepStatement_congr {other : Tag} (start : tag.start = other.start)
    (stop : tag.stop = other.stop) (statement : Statement) :
    forest.stepStatement tag statement = forest.stepStatement other statement := by
  obtain ⟨finished, constructs⟩ := forest
  cases statement <;> cases constructs <;> simp only [stepStatement, start, stop]

/-- **A segment does what its item does**; what says nothing does nothing. -/
theorem step_of_item {item : PlacedItem} (found : segment.item? = some item) :
    forest.step segment = forest.take item := by
  cases segment with
  | text => cases found; rfl
  | tag tag =>
    obtain ⟨said, spoken, rfl⟩ := Option.map_eq_some_iff.mp found
    cases kind : tag.kind <;> simp only [Tag.item?, kind] at spoken
    case comment => cases spoken
    case statement =>
      obtain ⟨nonempty, spoken⟩ := Option.ite_none_left_eq_some.mp spoken
      obtain ⟨statement, reads, rfl⟩ := Option.map_eq_some_iff.mp spoken
      rw [List.isEmpty_iff] at nonempty
      rw [step, stepTag_of_statement kind nonempty, located_eq_ok.mpr reads]
      exact stepStatement_congr rfl rfl statement
    case output =>
      obtain ⟨value, reads, rfl⟩ := Option.map_eq_some_iff.mp spoken
      rw [step, stepTag_of_output kind, located_eq_ok.mpr reads]
      rfl
    case rawOutput =>
      obtain ⟨value, reads, rfl⟩ := Option.map_eq_some_iff.mp spoken
      rw [step, stepTag_of_rawOutput kind, located_eq_ok.mpr reads]
      rfl

theorem step_of_idle (idle : segment.IsIdle) : forest.step segment = .ok forest := by
  cases segment with
  | text => cases idle
  | tag tag =>
    rcases idle with comment | ⟨statement, empty⟩
    · simp only [step, stepTag, comment]
      rfl
    · simp only [step, stepTag, statement, empty, List.isEmpty_nil, if_true]
      rfl

theorem item?_of_idle (idle : segment.IsIdle) : segment.item? = none := by
  cases segment with
  | text => cases idle
  | tag tag =>
    rcases idle with comment | ⟨statement, empty⟩
    · simp only [Segment.item?, Tag.item?, comment, Option.map_none]
    · simp only [Segment.item?, Tag.item?, statement, empty, List.isEmpty_nil, if_true,
        Option.map_none]

theorem exists_of_bind {α β ε : Type} {first : Except ε α} {next : α → Except ε β} {result : β}
    (done : first >>= next = .ok result) : ∃ value, first = .ok value := by
  cases first with
  | error => cases done
  | ok value => exact ⟨value, rfl⟩

/-- A segment whose step succeeds has code that can be read. -/
theorem parses_of_step (done : forest.step segment = .ok next) : segment.Parses := by
  cases segment with
  | text => exact Or.inr rfl
  | tag tag =>
    rw [step] at done
    cases kind : tag.kind with
    | comment => exact Or.inl (Or.inl kind)
    | statement =>
      by_cases empty : tag.code = []
      · exact Or.inl (Or.inr ⟨kind, empty⟩)
      · rw [stepTag_of_statement kind empty] at done
        obtain ⟨statement, reads⟩ := exists_of_bind done
        refine Or.inr ?_
        simp only [Segment.item?, Tag.item?, kind, List.isEmpty_iff, empty, if_false,
          located_eq_ok.mp reads, Option.map_some, Option.isSome_some]
    | output =>
      rw [stepTag_of_output kind] at done
      obtain ⟨value, reads⟩ := exists_of_bind done
      refine Or.inr ?_
      simp only [Segment.item?, Tag.item?, kind, located_eq_ok.mp reads, Option.map_some,
        Option.isSome_some]
    | rawOutput =>
      rw [stepTag_of_rawOutput kind] at done
      obtain ⟨value, reads⟩ := exists_of_bind done
      refine Or.inr ?_
      simp only [Segment.item?, Tag.item?, kind, located_eq_ok.mp reads, Option.map_some,
        Option.isSome_some]

/-- **Segments that can be read do what they say.** -/
theorem run_eq {segments : List Segment} (parses : ∀ segment ∈ segments, segment.Parses) :
    forest.run segments = (itemsOf segments).foldlM take forest >>= finish := by
  induction segments generalizing forest with
  | nil => rfl
  | cons segment segments ih =>
    have later : ∀ segment ∈ segments, segment.Parses :=
      fun other member => parses other (List.mem_cons_of_mem _ member)
    rcases parses segment List.mem_cons_self with idle | said
    · rw [run, step_of_idle idle, itemsOf, List.filterMap_cons_none (item?_of_idle idle)]
      exact ih later
    · obtain ⟨item, found⟩ := Option.isSome_iff_exists.mp said
      rw [run, step_of_item found, itemsOf, List.filterMap_cons_some found, List.foldlM_cons]
      cases forest.take item with
      | error => rfl
      | ok next => exact ih later

/-- Where a run comes to an end every segment can be read. -/
theorem parses_of_run {segments : List Segment} {nodes : List SpannedNode}
    (done : forest.run segments = .ok nodes) : ∀ segment ∈ segments, segment.Parses := by
  induction segments generalizing forest with
  | nil => simp
  | cons segment segments ih =>
    rw [run] at done
    cases step : forest.step segment with
    | error => rw [step] at done; cases done
    | ok next =>
      rw [step] at done
      exact List.forall_mem_cons.mpr ⟨parses_of_step step, ih done⟩

end Forest

/-! ### What was read of a construct -/

/-- The branches of some tests and bodies, with others behind them. -/
def branchesOnto (tested : List (Expr × List Node)) (later : Branches) : Branches :=
  tested.foldr (fun pair rest => .branch pair.1 pair.2 rest) later

theorem branchesOnto_otherwise (tested : List (Expr × List Node)) (body : List Node) :
    branchesOnto tested (.otherwise body) = .ofList tested body := rfl

theorem branchesOnto_snoc (tested : List (Expr × List Node)) (test : Expr) (body : List Node)
    (later : Branches) : branchesOnto (tested ++ [(test, body)]) later =
      branchesOnto tested (.branch test body later) := by
  simp only [branchesOnto, List.foldr_append, List.foldr_cons, List.foldr_nil]

namespace Construct

/-- A construct with more nodes in the body that is being read. -/
def extend (construct : Construct) (more : List Node) : Construct :=
  match construct with
  | .choice start tested test body => .choice start tested test (body ++ more)
  | .lastBranch start tested body => .lastBranch start tested (body ++ more)
  | .loop start item second iterable body => .loop start item second iterable (body ++ more)

/--
**Some items are what was read of a construct**: whatever may still follow completes them to the
items of the node that the construct then is.
-/
def Begun (read : List Item) : Construct → Prop
  | .choice _ tested test body => ∀ {more inside later behind}, BodyFlattensTo more inside →
    TailFlattensTo later behind →
    FlattensTo (.choice (branchesOnto tested (.branch test (body ++ more) later)))
      (read ++ (inside ++ behind))
  | .lastBranch _ tested body => ∀ {more inside}, BodyFlattensTo more inside →
    FlattensTo (.choice (.ofList tested (body ++ more)))
      (read ++ (inside ++ [.statement .close]))
  | .loop _ item second iterable body => ∀ {more inside}, BodyFlattensTo more inside →
    FlattensTo (.loop item second iterable (body ++ more))
      (read ++ (inside ++ [.statement .close]))

variable {construct next : Construct} {read own : List Item} {node : Node}

theorem Begun.push (begun : construct.Begun read) (flattens : FlattensTo node own) :
    (construct.push node).Begun (read ++ own) := by
  cases construct with
  | choice start tested test body =>
    intro more inside later behind follows goesOn
    simpa only [List.append_assoc, List.singleton_append] using
      begun (.cons flattens follows) goesOn
  | lastBranch start tested body =>
    intro more inside follows
    simpa only [List.append_assoc, List.singleton_append] using begun (.cons flattens follows)
  | loop start item second iterable body =>
    intro more inside follows
    simpa only [List.append_assoc, List.singleton_append] using begun (.cons flattens follows)

theorem Begun.close (begun : construct.Begun read) :
    FlattensTo construct.node.2 (read ++ [.statement .close]) := by
  cases construct with
  | choice start tested test body =>
    have closed := begun .nil .close
    rw [List.append_nil, ← branchesOnto_snoc] at closed
    exact closed
  | lastBranch start tested body =>
    have closed := begun .nil
    rw [List.append_nil] at closed
    exact closed
  | loop start item second iterable body =>
    have closed := begun .nil
    rw [List.append_nil] at closed
    exact closed

theorem Begun.goOn {branch : Option Expr} (begun : construct.Begun read)
    (goesOn : construct.goOn branch = .ok next) : next.Begun (read ++ [.ofBranch branch]) := by
  cases construct with
  | lastBranch | loop => cases goesOn
  | choice start tested asked body =>
    cases branch with
    | some test =>
      cases goesOn
      intro more inside later behind follows goesOn
      have tail : TailFlattensTo (.branch test more later) _ := .branch follows goesOn
      have whole := begun .nil tail
      simpa only [List.append_nil, List.nil_append, List.append_assoc, List.cons_append,
        branchesOnto_snoc, Item.ofBranch] using whole
    | none =>
      cases goesOn
      intro more inside follows
      have whole := begun .nil (.otherwise follows)
      rw [List.append_nil, ← branchesOnto_snoc] at whole
      simpa only [List.append_assoc, List.cons_append, List.nil_append, branchesOnto_otherwise,
        Item.ofBranch] using whole

theorem begun_choice (start : Nat) (test : Expr) :
    (choice start [] test []).Begun [.statement (.check test)] :=
  fun {more inside later behind} follows goesOn =>
    @FlattensTo.choice test more inside later behind follows goesOn

theorem begun_loop (start : Nat) (item : String) (second : Option String) (iterable : Expr) :
    (loop start item second iterable []).Begun [.statement (.loop item second iterable)] :=
  fun {more inside} follows => @FlattensTo.loop item second iterable more inside follows

/-- Going on with a construct leaves its first tag where it is. -/
theorem start_of_goOn {branch : Option Expr} (goesOn : construct.goOn branch = .ok next) :
    next.node.1 = construct.node.1 := by
  cases construct <;> cases branch <;> cases goesOn <;> rfl

theorem start_push (construct : Construct) (node : Node) :
    (construct.push node).node.1 = construct.node.1 := by
  cases construct <;> rfl

end Construct

/-! ### What was read of a template -/

/-- The open constructs, innermost first, and what was read of them, outermost first. -/
inductive Open : List Construct → List PlacedItem → Prop
  | nil : Open [] []
  | cons {construct : Construct} {outer : List Construct} {before own : List PlacedItem}
    (around : Open outer before) (begun : construct.Begun (own.map PlacedItem.item))
    (first : own.head?.map PlacedItem.start = some construct.node.1) :
    Open (construct :: outer) (before ++ own)

/-- **What was read of a template**: the items of the finished nodes, then of the constructs. -/
structure Forest.Holds (forest : Forest) (read : List PlacedItem) : Prop where
  parted : ∃ done inside, read = done ++ inside ∧ ForestFlattensTo forest.finished done ∧
    Open forest.constructs inside

namespace Forest

variable {forest next : Forest} {read own : List PlacedItem} {node : Node} {start stop : Nat}

theorem holds_empty : empty.Holds [] := ⟨[], [], rfl, .nil, .nil⟩

/-- The start of a row of items stays when more items come. -/
theorem head?_append_of_some {first : Nat} (starts : own.head?.map PlacedItem.start = some first)
    (more : List PlacedItem) : (own ++ more).head?.map PlacedItem.start = some first := by
  cases own with
  | nil => cases starts
  | cons => exact starts

/-- A complete node more. -/
theorem Holds.add (holds : forest.Holds read)
    (flattens : FlattensTo node (own.map PlacedItem.item)) (spans : Spans own start stop) :
    (forest.add node start stop).Holds (read ++ own) := by
  obtain ⟨finished, constructs⟩ := forest
  obtain ⟨done, inside, rfl, forest, around⟩ := holds
  cases around with
  | nil =>
    refine ⟨done ++ own, [], by simp only [List.append_nil], ?_, .nil⟩
    exact @ForestFlattensTo.snoc _ _ _ ⟨node, start, stop⟩ forest flattens spans
  | @cons construct _ before held around begun first =>
    refine ⟨done, before ++ (held ++ own), by simp only [List.append_assoc], forest, ?_⟩
    refine .cons around ?_ ?_
    · rw [List.map_append]
      exact begun.push flattens
    · rw [Construct.start_push]
      exact head?_append_of_some first own

theorem spans_single (item : PlacedItem) : Spans [item] item.start item.stop := ⟨rfl, rfl⟩

/-- A construct opens. -/
theorem Holds.opens {item : PlacedItem} {construct : Construct} (holds : forest.Holds read)
    (begun : construct.Begun [item.item]) (first : construct.node.1 = item.start) :
    (Forest.mk forest.finished (construct :: forest.constructs)).Holds (read ++ [item]) := by
  obtain ⟨done, inside, rfl, finished, around⟩ := holds
  refine ⟨done, inside ++ [item], by simp only [List.append_assoc], finished, ?_⟩
  exact .cons around begun (congrArg some first.symm)

/-- The innermost construct goes on with its next branch. -/
theorem Holds.goOn {finished : List SpannedNode} {construct further : Construct}
    {outer : List Construct} {branch : Option Expr}
    (holds : (Forest.mk finished (construct :: outer)).Holds read)
    (goesOn : construct.goOn branch = .ok further) :
    (Forest.mk finished (further :: outer)).Holds (read ++ [⟨.ofBranch branch, start, stop⟩]) := by
  obtain ⟨done, _, rfl, forest, around⟩ := holds
  cases around with | @cons _ _ before own around begun first
  refine ⟨done, before ++ (own ++ [⟨.ofBranch branch, start, stop⟩]),
    by simp only [List.append_assoc], forest, ?_⟩
  refine .cons around ?_ ?_
  · rw [List.map_append]
    exact begun.goOn goesOn
  · rw [Construct.start_of_goOn goesOn]
    exact head?_append_of_some first _

/-- The innermost construct ends. -/
theorem Holds.closes {finished : List SpannedNode} {construct : Construct}
    {outer : List Construct} (holds : (Forest.mk finished (construct :: outer)).Holds read) :
    ((Forest.mk finished outer).add construct.node.2 construct.node.1 stop).Holds
      (read ++ [⟨.statement .close, start, stop⟩]) := by
  obtain ⟨done, _, rfl, forest, around⟩ := holds
  cases around with | @cons _ _ before own around begun first
  have outside : (Forest.mk finished outer).Holds (done ++ before) :=
    ⟨done, before, rfl, forest, around⟩
  rw [← List.append_assoc done, List.append_assoc (done ++ before)]
  refine outside.add ?_ ⟨head?_append_of_some first _, ?_⟩
  · rw [List.map_append]
    exact begun.close
  · simp only [List.getLast?_append, List.getLast?_singleton, Option.some_or, Option.map_some]

/-- Going on with the innermost construct, as the step that it is. -/
theorem exists_of_take_branch {finished : List SpannedNode} {construct : Construct}
    {outer : List Construct} (branch : Option Expr)
    (taken : (Forest.mk finished (construct :: outer)).take ⟨.ofBranch branch, start, stop⟩ =
      .ok next) :
    ∃ further, construct.goOn branch = .ok further ∧ next = ⟨finished, further :: outer⟩ := by
  cases goesOn : construct.goOn branch with
  | error =>
    cases branch <;> simp only [Forest.take, Item.ofBranch, stepStatement, goesOn] at taken <;>
      cases taken
  | ok further =>
    refine ⟨further, rfl, ?_⟩
    cases branch <;> simp only [Forest.take, Item.ofBranch, stepStatement, goesOn] at taken <;>
      exact (Except.ok.inj taken).symm

/-- **One item more**: what is held is what was read. -/
theorem Holds.take {item : PlacedItem} (holds : forest.Holds read)
    (taken : forest.take item = .ok next) : next.Holds (read ++ [item]) := by
  obtain ⟨said, start, stop⟩ := item
  obtain ⟨finished, constructs⟩ := forest
  cases said with
  | text text =>
    cases taken
    exact holds.add (.text text) (spans_single _)
  | output value raw =>
    cases taken
    exact holds.add (.output value raw) (spans_single _)
  | statement statement =>
    cases statement with
    | bind name value =>
      cases constructs <;> cases taken
      all_goals exact holds.add (.bind name value) (spans_single _)
    | check test =>
      cases constructs <;> cases taken
      all_goals exact holds.opens (Construct.begun_choice start test) rfl
    | loop item second iterable =>
      cases constructs <;> cases taken
      all_goals exact holds.opens (Construct.begun_loop start item second iterable) rfl
    | close =>
      cases constructs <;> cases taken
      exact holds.closes
    | otherCheck test =>
      cases constructs with
      | nil => cases taken
      | cons construct outer =>
        obtain ⟨further, goesOn, rfl⟩ := exists_of_take_branch (some test) taken
        exact holds.goOn goesOn
    | otherwise =>
      cases constructs with
      | nil => cases taken
      | cons construct outer =>
        obtain ⟨further, goesOn, rfl⟩ := exists_of_take_branch none taken
        exact holds.goOn goesOn

theorem foldlM_take_cons {item : PlacedItem} (taken : forest.take item = .ok next)
    (rest : List PlacedItem) :
    (item :: rest).foldlM Forest.take forest = rest.foldlM Forest.take next := by
  rw [List.foldlM_cons, taken]
  rfl

theorem foldlM_take_append {front : List PlacedItem}
    (taken : front.foldlM Forest.take forest = .ok next) (rest : List PlacedItem) :
    (front ++ rest).foldlM Forest.take forest = rest.foldlM Forest.take next := by
  rw [List.foldlM_append, taken]
  rfl

theorem Holds.foldlM_take {items : List PlacedItem} (holds : forest.Holds read)
    (taken : items.foldlM Forest.take forest = .ok next) : next.Holds (read ++ items) := by
  induction items generalizing forest read with
  | nil =>
    cases taken
    rw [List.append_nil]
    exact holds
  | cons item items ih =>
    cases step : forest.take item with
    | error => rw [List.foldlM_cons, step] at taken; cases taken
    | ok further =>
      rw [foldlM_take_cons step] at taken
      have whole := ih (holds.take step) taken
      rwa [List.append_assoc] at whole

/-- Nothing is open at the end, so what was read is a forest. -/
theorem Holds.finish {nodes : List SpannedNode} (holds : forest.Holds read)
    (done : forest.finish = .ok nodes) : ForestFlattensTo nodes read := by
  obtain ⟨finished, constructs⟩ := forest
  obtain ⟨items, _, rfl, forest, around⟩ := holds
  cases around with
  | nil =>
    cases done
    rw [List.append_nil]
    exact forest
  | cons => cases done

end Forest

/-! ### Forests are read -/

namespace Construct

theorem push_eq_extend (construct : Construct) (node : Node) :
    construct.push node = construct.extend [node] := by
  cases construct <;> rfl

theorem extend_cons (construct : Construct) (node : Node) (body : List Node) :
    (construct.extend [node]).extend body = construct.extend (node :: body) := by
  cases construct <;> simp only [extend, List.append_assoc, List.singleton_append]

theorem extend_nil (construct : Construct) : construct.extend [] = construct := by
  cases construct <;> simp only [extend, List.append_nil]

end Construct

theorem FlattensTo.ne_nil {node : Node} {items : List Item} (flattens : FlattensTo node items) :
    items ≠ [] := by
  cases flattens <;> exact List.cons_ne_nil _ _

theorem TailFlattensTo.ne_nil {later : Branches} {items : List Item}
    (flattens : TailFlattensTo later items) : items ≠ [] := by
  cases flattens <;> exact List.cons_ne_nil _ _

theorem exists_spans {items : List PlacedItem} (nonempty : items ≠ []) :
    ∃ start stop, Spans items start stop := by
  refine ⟨(items.head nonempty).start, (items.getLast nonempty).stop, ?_, ?_⟩
  · rw [List.head?_eq_some_head nonempty, Option.map_some]
  · rw [List.getLast?_eq_some_getLast nonempty, Option.map_some]

theorem exists_of_map_eq_singleton {placed : List PlacedItem} {item : Item}
    (said : placed.map PlacedItem.item = [item]) : ∃ start stop, placed = [⟨item, start, stop⟩] := by
  obtain ⟨⟨_, start, stop⟩, rfl, rfl⟩ := List.map_eq_singleton_iff.mp said
  exact ⟨start, stop, rfl⟩

/-- The places of a first tag, of a body, and of what comes behind it. -/
theorem exists_of_map_eq_cons_append {placed : List PlacedItem} {item : Item}
    {inside behind : List Item} (said : placed.map PlacedItem.item = item :: (inside ++ behind)) :
    ∃ start stop middle rest, placed = ⟨item, start, stop⟩ :: (middle ++ rest) ∧
      middle.map PlacedItem.item = inside ∧ rest.map PlacedItem.item = behind := by
  obtain ⟨⟨_, start, stop⟩, others, rfl, rfl, later⟩ := List.map_eq_cons_iff.mp said
  obtain ⟨middle, rest, rfl, inner, tail⟩ := List.map_eq_append_iff.mp later
  exact ⟨start, stop, middle, rest, rfl, inner, tail⟩

theorem add_of_open (finished : List SpannedNode) (construct : Construct) (outer : List Construct)
    (node : Node) (start stop : Nat) :
    (Forest.mk finished (construct :: outer)).add node start stop =
      ⟨finished, construct.extend [node] :: outer⟩ := by
  rw [← Construct.push_eq_extend]
  rfl

/-- A row of items ends where its last part ends. -/
theorem last_of_append {front rest : List PlacedItem} {items : List Item} {stop : Nat}
    (said : rest.map PlacedItem.item = items) (nonempty : items ≠ [])
    (last : (front ++ rest).getLast?.map PlacedItem.stop = some stop) :
    rest.getLast?.map PlacedItem.stop = some stop := by
  have present : rest ≠ [] := fun none => nonempty (by rw [← said, none, List.map_nil])
  rwa [List.getLast?_append, List.getLast?_eq_some_getLast present, Option.some_or,
    ← List.getLast?_eq_some_getLast present] at last

/-- The items of a body and an end complete the innermost construct. -/
theorem foldlM_take_close {middle rest : List PlacedItem} {body : List Node}
    {finished : List SpannedNode} {construct : Construct} {outer : List Construct} {stop : Nat}
    (reads : middle.foldlM Forest.take ⟨finished, construct :: outer⟩ =
      .ok ⟨finished, construct.extend body :: outer⟩)
    (closed : rest.map PlacedItem.item = [.statement .close])
    (last : rest.getLast?.map PlacedItem.stop = some stop) :
    (middle ++ rest).foldlM Forest.take ⟨finished, construct :: outer⟩ =
      .ok ((Forest.mk finished outer).add (construct.extend body).node.2
        (construct.extend body).node.1 stop) := by
  obtain ⟨_, _, rfl⟩ := exists_of_map_eq_singleton closed
  cases last
  rw [List.foldlM_append, reads]
  rfl

open Forest

mutual

/-- **The items of a node lead to the node**, with the span of the items. -/
theorem FlattensTo.foldlM_take {node : Node} {items : List Item} (flattens : FlattensTo node items)
    {own : List PlacedItem} (said : own.map PlacedItem.item = items) {start stop : Nat}
    (spans : Spans own start stop) (forest : Forest) :
    own.foldlM Forest.take forest = .ok (forest.add node start stop) := by
  obtain ⟨finished, constructs⟩ := forest
  obtain ⟨first, last⟩ := spans
  cases flattens with
  | text | output =>
    obtain ⟨_, _, rfl⟩ := exists_of_map_eq_singleton said
    cases first
    cases last
    rfl
  | bind =>
    obtain ⟨_, _, rfl⟩ := exists_of_map_eq_singleton said
    cases first
    cases last
    cases constructs <;> rfl
  | loop flattens =>
    obtain ⟨_, _, middle, rest, rfl, inner, closed⟩ := exists_of_map_eq_cons_append said
    cases first
    rw [← List.cons_append] at last
    rw [foldlM_take_cons rfl]
    exact foldlM_take_close (flattens.foldlM_take inner ..) closed
      (last_of_append closed (List.cons_ne_nil _ _) last)
  | choice flattens goesOn =>
    obtain ⟨_, _, middle, rest, rfl, inner, tail⟩ := exists_of_map_eq_cons_append said
    cases first
    rw [← List.cons_append] at last
    rw [foldlM_take_cons rfl, foldlM_take_append (flattens.foldlM_take inner ..)]
    exact goesOn.foldlM_take tail (last_of_append tail goesOn.ne_nil last) ..

/-- The items of a body add it to the innermost construct. -/
theorem BodyFlattensTo.foldlM_take {body : List Node} {items : List Item}
    (flattens : BodyFlattensTo body items) {own : List PlacedItem}
    (said : own.map PlacedItem.item = items) (finished : List SpannedNode) (construct : Construct)
    (outer : List Construct) :
    own.foldlM Forest.take ⟨finished, construct :: outer⟩ =
      .ok ⟨finished, construct.extend body :: outer⟩ := by
  cases flattens with
  | nil =>
    obtain rfl := List.map_eq_nil_iff.mp said
    rw [Construct.extend_nil]
    rfl
  | @cons node body own inside front flattens =>
    obtain ⟨first, rest, rfl, whole, others⟩ := List.map_eq_append_iff.mp said
    have nonempty : first ≠ [] := fun none => front.ne_nil (by rw [← whole, none, List.map_nil])
    obtain ⟨start, stop, spans⟩ := exists_spans nonempty
    rw [foldlM_take_append (front.foldlM_take whole spans _), add_of_open,
      ← construct.extend_cons node body]
    exact flattens.foldlM_take others ..

/-- The items behind the first body of a choice complete it. -/
theorem TailFlattensTo.foldlM_take {later : Branches} {items : List Item}
    (flattens : TailFlattensTo later items) {own : List PlacedItem}
    (said : own.map PlacedItem.item = items) {stop : Nat}
    (last : own.getLast?.map PlacedItem.stop = some stop) (finished : List SpannedNode)
    (start : Nat) (tested : List (Expr × List Node)) (test : Expr) (body : List Node)
    (outer : List Construct) :
    own.foldlM Forest.take ⟨finished, .choice start tested test body :: outer⟩ =
      .ok ((Forest.mk finished outer).add
        (.choice (branchesOnto tested (.branch test body later))) start stop) := by
  rw [← branchesOnto_snoc]
  cases flattens with
  | close =>
    obtain ⟨_, _, rfl⟩ := exists_of_map_eq_singleton said
    cases last
    rfl
  | otherwise flattens =>
    obtain ⟨_, _, middle, rest, rfl, inner, closed⟩ := exists_of_map_eq_cons_append said
    rw [← List.cons_append] at last
    rw [foldlM_take_cons rfl]
    exact foldlM_take_close (flattens.foldlM_take inner ..) closed
      (last_of_append closed (List.cons_ne_nil _ _) last)
  | branch flattens goesOn =>
    obtain ⟨_, _, middle, rest, rfl, inner, tail⟩ := exists_of_map_eq_cons_append said
    rw [← List.cons_append] at last
    rw [foldlM_take_cons rfl, foldlM_take_append (flattens.foldlM_take inner ..)]
    exact goesOn.foldlM_take tail (last_of_append tail goesOn.ne_nil last) ..

end

/-- The items of a forest lead to the forest. -/
theorem ForestFlattensTo.foldlM_take {nodes : List SpannedNode} {items : List PlacedItem}
    (forest : ForestFlattensTo nodes items) (finished : List SpannedNode) :
    items.foldlM Forest.take ⟨finished, []⟩ = .ok ⟨finished ++ nodes, []⟩ := by
  induction forest generalizing finished with
  | nil => rw [List.append_nil]; rfl
  | @cons node nodes own later flattens spans _ ih =>
    rw [foldlM_take_append (flattens.foldlM_take rfl spans _)]
    exact (ih _).trans (by rw [List.append_assoc]; rfl)

/-! ### Reading segments -/

/-- Segments that can be read are read as the forest that flattens to their items, if one does. -/
theorem run_eq_ok_iff {segments : List Segment} (parses : ∀ segment ∈ segments, segment.Parses)
    {nodes : List SpannedNode} :
    Forest.empty.run segments = .ok nodes ↔ ForestFlattensTo nodes (itemsOf segments) := by
  rw [run_eq parses]
  constructor
  · intro done
    obtain ⟨forest, taken⟩ := exists_of_bind done
    rw [taken] at done
    exact (holds_empty.foldlM_take taken).finish done
  · intro forest
    rw [Forest.empty, forest.foldlM_take]
    rfl

/--
**Segments whose codes can be read, each on its own, are read exactly if their tags balance**: if,
without comments and empty statements, they are the flattening of a forest. Then there is one such
forest only, it is the result, and each of its nodes has the span from the start of its first tag to
the end of its last.
-/
theorem run_balanced (segments : List Segment) (parses : ∀ segment ∈ segments, segment.Parses) :
    ((∃ nodes, Forest.empty.run segments = .ok nodes) ↔
      ∃ nodes, ForestFlattensTo nodes (itemsOf segments)) ∧
    ∀ nodes, ForestFlattensTo nodes (itemsOf segments) →
      Forest.empty.run segments = .ok nodes ∧
        ∀ other, ForestFlattensTo other (itemsOf segments) → other = nodes := by
  refine ⟨exists_congr fun _ => run_eq_ok_iff parses, fun nodes forest => ?_⟩
  have read := (run_eq_ok_iff parses).mpr forest
  refine ⟨read, fun other flattens => ?_⟩
  exact Except.ok.inj (((run_eq_ok_iff parses).mpr flattens).symm.trans read)

/-- A statement tag. -/
def statementTag (code : String) (start stop : Nat) : Segment :=
  .tag ⟨.statement, code.toList, start + 3, start, stop⟩

/-- A choice of three branches with a loop in the second, a comment and an empty statement. -/
def branching : List Segment :=
  [.text ['p'] 0 1, statementTag "if a" 1 11, .tag ⟨.comment, ['n'], 14, 11, 18⟩,
    statementTag "elsif b" 18 31, statementTag "for i in c" 31 47,
    .tag ⟨.output, ['i'], 50, 47, 54⟩, statementTag "end" 54 63, statementTag "" 63 67,
    statementTag "else" 67 77, statementTag "end" 77 86]

/-- The choice is read; without its end, or with a second `else`, it is no flattening of a forest. -/
theorem run_balanced_of_branching :
    (∃ nodes, ForestFlattensTo nodes (itemsOf branching) ∧
      Forest.empty.run branching = .ok nodes) ∧
    (¬ ∃ nodes, ForestFlattensTo nodes (itemsOf branching.dropLast)) ∧
    ¬ ∃ nodes, ForestFlattensTo nodes
      (itemsOf (branching.insertIdx 9 (statementTag "else" 77 77))) := by
  have accepts (segments : List Segment) :
      (∃ nodes, Forest.empty.run segments = .ok nodes) ↔
        (Forest.empty.run segments).toBool = true := by
    cases Forest.empty.run segments <;> simp [Except.toBool]
  refine ⟨?_, ?_, ?_⟩
  · obtain ⟨same, unique⟩ := run_balanced branching (by decide +kernel)
    obtain ⟨nodes, forest⟩ := same.mp ((accepts _).mpr (by decide +kernel))
    exact ⟨nodes, forest, (unique nodes forest).1⟩
  · rw [← (run_balanced _ (by decide +kernel)).1, accepts]
    decide +kernel
  · rw [← (run_balanced _ (by decide +kernel)).1, accepts]
    decide +kernel

end ReactiveView.Template
