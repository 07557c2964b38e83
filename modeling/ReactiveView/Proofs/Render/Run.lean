/-
**What a run leaves alone.**

One run of an expression or a node, whatever it computes: its surroundings go on by moves, loop runs
are only counted up, and of the locals only the innermost scope changes, under the names that the
node may bind.

* `Eval.keeps` — an expression leaves the locals as they are.
* `Eval.takes_node` — a node changes no local but those that it may bind.
* `Eval.locals_confined` — which are those that the analysis calls bound; a loop changes none.
* `Eval.loop_refused` — a loop over more items than there may be runs fails.
-/

import Mathlib.Logic.Relation
import ReactiveView.Proofs.Render.Lockstep
import ReactiveView.Proofs.Render.Reading
import ReactiveView.Proofs.Render.Steps
import ReactiveView.Proofs.Template.Names

namespace ReactiveView.Render

variable {σ α β : Type}

/-- The locals of all open scopes, innermost first. -/
abbrev Frames := List (OrderedMap String Value)

/-- The surroundings of a pass: its world and its store. -/
def Pass.around (pass : Pass σ) : σ × Store := (pass.world, pass.store)

/-- A later state of the same pass. -/
structure Pass.Follows (scope : Scope σ) (before after : Pass σ) : Prop where
  moved : Relation.ReflTransGen scope.Move before.around after.around
  iterations : before.iterations ≤ after.iterations

namespace Pass.Follows

variable {scope : Scope σ} {before after later : Pass σ}

theorem refl (pass : Pass σ) : Follows scope pass pass := ⟨.refl, le_rfl⟩

theorem trans (first : Follows scope before after) (second : Follows scope after later) :
    Follows scope before later :=
  ⟨first.moved.trans second.moved, first.iterations.trans second.iterations⟩

end Pass.Follows

namespace Eval

theorem bind_apply (run : Eval σ α) (next : α → Eval σ β) (pass : Pass σ) :
    (run >>= next) pass = match run pass with
      | (.ok value, pass) => next value pass
      | (.error error, pass) => (.error error, pass) := by
  change ExceptT.bindCont next (run pass).1 (run pass).2 = _
  rcases run pass with ⟨value | error, pass⟩ <;> rfl

/-- A step goes on with the pass, and where it succeeds its locals have shifted like this. -/
def Takes (scope : Scope σ) (shift : Frames → Frames → Prop) (run : Eval σ α) : Prop :=
  ∀ pass, Pass.Follows scope pass (run pass).2 ∧
    ∀ value, (run pass).1 = .ok value → shift pass.frames (run pass).2.frames

/-- A step that leaves the locals alone and counts no loop run. -/
def Keeps (scope : Scope σ) (run : Eval σ α) : Prop :=
  Takes scope Eq run ∧
    ∀ pass value, (run pass).1 = .ok value → (run pass).2.iterations = pass.iterations

namespace Takes

variable {scope : Scope σ} {shift weaker second : Frames → Frames → Prop} {run : Eval σ α}

theorem imp (takes : Takes scope shift run) (weaken : ∀ before after, shift before after →
    weaker before after) : Takes scope weaker run :=
  fun pass => ⟨(takes pass).1, fun value ok => weaken _ _ ((takes pass).2 value ok)⟩

/-- Where a step has succeeded its locals have shifted. -/
theorem ok (takes : Takes scope shift run) {value : α} {before after : Pass σ}
    (ok : run before = (.ok value, after)) : shift before.frames after.frames := by
  have shifted := (takes before).2 value
  rw [ok] at shifted
  exact shifted rfl

/-- One step after the other. -/
theorem bind (takes : Takes scope shift run) {next : α → Eval σ β}
    (after : ∀ value, Takes scope second (next value))
    (compose : ∀ {first middle last}, shift first middle → second middle last → weaker first last) :
    Takes scope weaker (run >>= next) := by
  intro pass
  rw [bind_apply]
  have here := takes pass
  generalize run pass = reached at here ⊢
  rcases reached with ⟨error | value, middle⟩
  · exact ⟨here.1, fun value succeeds => by cases succeeds⟩
  · have there := after value middle
    exact ⟨here.1.trans there.1, fun result ok => compose (here.2 value rfl) (there.2 result ok)⟩

/-- A step that leaves the locals alone, in front of another one. -/
theorem before (takes : Takes scope Eq run) {next : α → Eval σ β}
    (after : ∀ value, Takes scope second (next value)) : Takes scope second (run >>= next) :=
  takes.bind after fun same shifted => same ▸ shifted

end Takes

namespace Keeps

variable {scope : Scope σ} {run : Eval σ α}

theorem bind (keeps : Keeps scope run) {next : α → Eval σ β}
    (after : ∀ value, Keeps scope (next value)) : Keeps scope (run >>= next) := by
  refine ⟨keeps.1.before fun value => (after value).1, fun pass result ok => ?_⟩
  rw [bind_apply] at ok ⊢
  have here := keeps.2 pass
  generalize run pass = reached at here ok ⊢
  rcases reached with ⟨error | value, middle⟩
  · cases ok
  · exact ((after value).2 middle result ok).trans (here value rfl)

/-- A step that changes the surroundings at most, and those by a move. -/
theorem of_moved (moved : ∀ pass, Relation.ReflTransGen scope.Move pass.around (run pass).2.around)
    (frames : ∀ pass, (run pass).2.frames = pass.frames)
    (iterations : ∀ pass, (run pass).2.iterations = pass.iterations) : Keeps scope run :=
  ⟨fun pass => ⟨⟨moved pass, (iterations pass).ge⟩, fun _ _ => (frames pass).symm⟩,
    fun pass _ _ => iterations pass⟩

theorem pure (value : α) : Keeps scope (pure value : Eval σ α) :=
  .of_moved (fun _ => .refl) (fun _ => rfl) fun _ => rfl

theorem refuse (reason : String) : Keeps scope (refuse reason : Eval σ α) :=
  .of_moved (fun _ => .refl) (fun _ => rfl) fun _ => rfl

theorem get : Keeps scope (MonadState.get : Eval σ (Pass σ)) :=
  .of_moved (fun _ => .refl) (fun _ => rfl) fun _ => rfl

theorem settled (result : Except Error α) : Keeps scope (settled result : Eval σ α) :=
  .of_moved (fun _ => .refl) (fun _ => rfl) fun _ => rfl

theorem textOf (value : Value) : Keeps scope (textOf value) :=
  .of_moved (fun _ => .refl) (fun _ => rfl) fun _ => rfl

theorem onStore {f : Store → Outcome} (grows : ∀ store : Store, store.Grows (f store).2) :
    Keeps scope (onStore f) :=
  .of_moved (fun pass => .single (.grow pass.world (grows pass.store))) (fun _ => rfl) fun _ => rfl

theorem make {f : Store → Value × Store} (grows : ∀ store : Store, store.Grows (f store).2) :
    Keeps scope (make f) :=
  .of_moved (fun pass => .single (.grow pass.world (grows pass.store))) (fun _ => rfl) fun _ => rfl

theorem asking {f : σ → Store → Answer σ α}
    (move : ∀ world store, scope.Move (world, store) (f world store).2) : Keeps scope (asking f) :=
  .of_moved (fun pass => .single (move pass.world pass.store)) (fun _ => rfl) fun _ => rfl

end Keeps

variable (scope : Scope σ) (config : Config)

theorem keeps_lookup (name : String) : Keeps scope (lookup scope config name) := by
  refine Keeps.get.bind fun pass => ?_
  split
  · exact .pure _
  · refine (Keeps.asking fun world store => .lookup name world store).bind fun found => ?_
    split
    · exact .pure _
    · split
      · exact .settled (.error _)
      · exact .pure _

theorem keeps_child (className id : String) : Keeps scope (child scope className id) := by
  refine Keeps.get.bind fun pass => ?_
  split
  · refine (Keeps.asking fun world store => .child className id world store).bind fun child => ?_
    have noted : Keeps scope (modify fun pass =>
        { pass with direct := pass.direct ++ [id], rendered := pass.rendered ++ child.rendered } :
          Eval σ Unit) := .of_moved (fun _ => .refl) (fun _ => rfl) fun _ => rfl
    exact noted.bind fun _ => .pure _
  · exact .pure _

theorem keeps_helper (name : String) (arguments : List Value) :
    Keeps scope (helper scope name arguments) := by
  refine (Keeps.asking fun world store => .call name arguments world store).bind fun found => ?_
  split
  · exact .pure _
  · exact .refuse _

/-- **The steps of an expression leave the locals as they are**, and count no loop run. -/
theorem keeps : ExprLaw scope config fun run => Keeps scope run where
  pure value := .pure value
  bind keeps after := keeps.bind after
  refuse reason := .refuse reason
  textOf value := .textOf value
  newList _ := .make fun _ => (Store.peruses_newList ..).toGrows
  field _ _ := .onStore fun _ => (peruses_readField ..).toGrows
  index _ _ := .onStore fun _ => (peruses_readIndex ..).toGrows
  method _ _ _ := .onStore fun _ => (peruses_callMethod ..).toGrows
  unary op value := .settled (Render.unary op value)
  binary _ _ _ := .onStore fun _ => (peruses_binary ..).toGrows
  lookup name := keeps_lookup scope config name
  child className id := keeps_child scope className id
  helper name arguments := keeps_helper scope name arguments

theorem push_apply (piece : Piece) (pass : Pass σ) :
    push config piece pass =
      if pass.size + piece.html.utf8ByteSize > config.maxOutputLength then
        (.error (.eval ("output too large: more than " ++ toString config.maxOutputLength ++
          " bytes")), pass)
      else (.ok (), { pass with
        pieces := piece :: pass.pieces, size := pass.size + piece.html.utf8ByteSize }) := by
  unfold push
  rw [bind_apply]
  change (if _ then _ else _ : Eval σ Unit) pass = _
  split <;> rfl

theorem keeps_push (piece : Piece) : Keeps scope (push config piece) := by
  refine .of_moved (fun pass => ?_) (fun pass => ?_) fun pass => ?_ <;> rw [push_apply] <;> split <;>
    first | exact .refl | rfl

/-- An output tag changes nothing but the output. -/
theorem keeps_outputNode (value : Expr) (raw : Bool) :
    Keeps scope (Eval.node scope config (.output value raw)) :=
  ((keeps scope config).output raw value).bind fun _ => keeps_push scope config _

/-! ### Nodes -/

/-- Of the locals, only the innermost scope has changed, and only under these names. -/
def Rebinds (names : List String) (before after : Frames) : Prop :=
  ∀ innermost outer, before = innermost :: outer → ∃ rebound, after = rebound :: outer ∧
    ∀ name ∉ names, rebound.get? name = innermost.get? name

namespace Rebinds

variable {names more : List String} {before after later : Frames}

theorem of_eq (same : before = after) : Rebinds names before after :=
  fun innermost _ opened => ⟨innermost, same ▸ opened, fun _ _ => rfl⟩

theorem mono (rebinds : Rebinds names before after) (within : names ⊆ more) :
    Rebinds more before after := by
  intro innermost outer opened
  obtain ⟨rebound, closed, same⟩ := rebinds innermost outer opened
  exact ⟨rebound, closed, fun name absent => same name fun member => absent (within member)⟩

theorem trans (first : Rebinds names before after) (second : Rebinds more after later) :
    Rebinds (names ++ more) before later := by
  intro innermost outer opened
  obtain ⟨middle, closed, same⟩ := first innermost outer opened
  obtain ⟨rebound, last, again⟩ := second middle outer closed
  refine ⟨rebound, last, fun name absent => ?_⟩
  rw [again name fun member => absent (List.mem_append_right _ member),
    same name fun member => absent (List.mem_append_left _ member)]

theorem findLocal (rebinds : Rebinds names before after) (opened : before ≠ []) {name : String}
    (absent : name ∉ names) : Eval.findLocal after name = Eval.findLocal before name := by
  cases before with
  | nil => exact absurd rfl opened
  | cons innermost outer =>
    obtain ⟨rebound, rfl, same⟩ := rebinds innermost outer rfl
    simp only [Eval.findLocal, List.findSome?_cons, same name absent]

theorem opened (rebinds : Rebinds names before after) (opened : before ≠ []) : after ≠ [] := by
  cases before with
  | nil => exact absurd rfl opened
  | cons innermost outer =>
    obtain ⟨rebound, rfl, _⟩ := rebinds innermost outer rfl
    exact List.cons_ne_nil rebound outer

end Rebinds

/-- The locals after a value is given to a name. -/
def rebound (name : String) (value : Value) : Frames → Frames
  | [] => []
  | innermost :: outer => innermost.insert name value :: outer

theorem bind_eq (name : String) (value : Value) (pass : Pass σ) :
    bind name value pass = (.ok (), { pass with frames := rebound name value pass.frames }) := by
  obtain ⟨store, world, frames, iterations, pieces, size, renders, direct, rendered⟩ := pass
  cases frames <;> rfl

theorem takes_bind (name : String) (value : Value) :
    Takes scope (Rebinds [name]) (bind name value) := by
  intro pass
  rw [bind_eq]
  refine ⟨⟨.refl, le_rfl⟩, fun _ _ innermost outer opened => ?_⟩
  refine ⟨innermost.insert name value, by simp only [opened, rebound], fun other absent => ?_⟩
  exact OrderedMap.get?_insert_of_ne innermost (by simpa using absent) value

theorem keeps_pairs (iterable : Value) : Keeps scope (pairs config iterable) := by
  cases iterable with
  | list list =>
    exact .of_moved
      (fun pass => .single (.grow pass.world (TrackedList.peruses_iterate list pass.store).toGrows))
      (fun _ => rfl) fun _ => rfl
  | map map =>
    exact .of_moved
      (fun pass => .single (.grow pass.world (TrackedMap.peruses_iterate map pass.store).toGrows))
      (fun _ => rfl) fun _ => rfl
  | _ => exact .of_moved (fun _ => .refl) (fun _ => rfl) fun _ => rfl

theorem count_apply (pass : Pass σ) :
    count config pass =
      if pass.iterations + 1 > config.maxIterations then
        (.error (.eval ("loop too large: more than " ++ toString config.maxIterations ++
          " iterations")), { pass with iterations := pass.iterations + 1 })
      else (.ok (), { pass with iterations := pass.iterations + 1 }) := by
  unfold count
  rw [bind_apply]
  change (if _ then _ else _ : Eval σ Unit) _ = _
  split <;> rfl

theorem takes_count : Takes scope Eq (count config) := by
  intro pass
  rw [count_apply]
  split <;> exact ⟨⟨.refl, Nat.le_succ _⟩, fun _ _ => rfl⟩

theorem takes_enter (frame : OrderedMap String Value) :
    Takes scope (fun before after => after = frame :: before) (enter frame) :=
  fun _ => ⟨⟨.refl, le_rfl⟩, fun _ _ => rfl⟩

theorem takes_leave : Takes scope (fun before after => after = before.drop 1) leave :=
  fun _ => ⟨⟨.refl, le_rfl⟩, fun _ _ => rfl⟩

/-- One run of a loop: counted, in a scope of its own. -/
def turn (frame : OrderedMap String Value) (body : Eval σ Unit) : Eval σ Unit := do
  count config
  enter frame
  body
  leave

/-- One run of a loop closes the scope that it opens. -/
theorem takes_turn {body : Eval σ Unit} {names : List String}
    (takes : Takes scope (Rebinds names) body) (frame : OrderedMap String Value) :
    Takes scope Eq (turn config frame body) := by
  refine (takes_count scope config).before fun _ => ?_
  have closed : Takes scope (fun before after => ∀ innermost outer, before = innermost :: outer →
      after = outer) (do body; leave) := by
    refine takes.bind (fun _ => takes_leave scope) fun rebinds left innermost outer opened => ?_
    obtain ⟨rebound, rfl, _⟩ := rebinds innermost outer opened
    exact left
  exact (takes_enter scope frame).bind (fun _ => closed) fun entered left =>
    (left frame _ entered).symm

theorem takes_forM {pairs : List (Value × Value)} {turn : Value × Value → Eval σ PUnit}
    (takes : ∀ pair, Takes scope Eq (turn pair)) : Takes scope Eq (pairs.forM turn) := by
  induction pairs with
  | nil => exact (Keeps.pure _).1
  | cons first rest ih => exact (takes first).before fun _ => ih

/-- A loop leaves the locals as they were. -/
theorem takes_loop {body : List Node} {names : List String}
    (takes : Takes scope (Rebinds names) (Eval.nodes scope config body)) (item : String)
    (second : Option String) (iterable : Expr) :
    Takes scope Eq (Eval.node scope config (.loop item second iterable body)) :=
  ((keeps scope config).expr iterable).1.before fun _ =>
    (keeps_pairs scope config _).1.before fun _ =>
      takes_forM scope fun _ => takes_turn scope config takes _

mutual

/-- **A node changes no local but those that it may bind.** -/
theorem takes_node : ∀ node : Node, Takes scope (Rebinds node.leaves) (Eval.node scope config node)
  | .text _ => (keeps_push scope config _).1.imp fun _ _ => .of_eq
  | .output value raw =>
    (keeps_outputNode scope config value raw).1.imp fun _ _ => .of_eq
  | .choice choices => takes_branches choices
  | .loop item second iterable body =>
    (takes_loop scope config (takes_nodes body) item second iterable).imp fun _ _ => .of_eq
  | .bind name value => ((keeps scope config).expr value).1.before fun _ => takes_bind scope name _

theorem takes_branches : ∀ choices : Branches,
    Takes scope (Rebinds choices.leaves) (Eval.branches scope config choices)
  | .otherwise body => takes_nodes body
  | .branch test body rest => by
    unfold Eval.branches
    refine ((keeps scope config).expr test).1.before fun value => ?_
    split
    · exact (takes_nodes body).imp fun _ _ rebinds => rebinds.mono (List.subset_append_left _ _)
    · exact (takes_branches rest).imp fun _ _ rebinds =>
        rebinds.mono (List.subset_append_right _ _)

theorem takes_nodes : ∀ nodes : List Node,
    Takes scope (Rebinds (Node.leavesOf nodes)) (Eval.nodes scope config nodes)
  | [] => (Keeps.pure ()).1.imp fun _ _ => .of_eq
  | first :: rest => (takes_node first).bind (fun _ => takes_nodes rest) Rebinds.trans

end

/-! ### Locals after a node -/

/-- **What is left of the locals** by a node that may bind these names: as many scopes are open as before, all
but the innermost are the same, and under any other name nothing has changed. -/
structure Confined (bound : NameSet) (before after : Frames) : Prop where
  height : after.length = before.length
  outer : after.tail = before.tail
  innermost : ∀ name ∉ bound, (after.head?.bind fun frame => frame.get? name) =
    before.head?.bind fun frame => frame.get? name
  visible : ∀ name ∉ bound, findLocal after name = findLocal before name

theorem Confined.of_rebinds {bound : NameSet} {names : List String} {before after : Frames}
    (closed : before = [] → after = []) (rebinds : Rebinds names before after)
    (known : ∀ name ∈ names, name ∈ bound) : Confined bound before after := by
  cases before with
  | nil =>
    obtain rfl := closed rfl
    exact ⟨rfl, rfl, fun _ _ => rfl, fun _ _ => rfl⟩
  | cons frame outer =>
    have unbound {name : String} (absent : name ∉ bound) : name ∉ names :=
      fun member => absent (known name member)
    have visible := fun (name : String) (absent : name ∉ bound) =>
      rebinds.findLocal (List.cons_ne_nil frame outer) (unbound absent)
    obtain ⟨rebound, rfl, same⟩ := rebinds frame outer rfl
    exact ⟨rfl, rfl, fun name absent => same name (unbound absent), visible⟩

mutual

/-- Where no scope is open, a node leaves none open. -/
theorem takes_node_closed : ∀ node : Node,
    Takes scope (fun before after => before = [] → after = []) (Eval.node scope config node)
  | .text _ => (keeps_push scope config _).1.imp fun _ _ same none => same ▸ none
  | .output value raw => (keeps_outputNode scope config value raw).1.imp fun _ _ same none => same ▸ none
  | .choice choices => takes_branches_closed choices
  | .loop item second iterable body =>
    (takes_loop scope config (takes_nodes scope config body) item second iterable).imp
      fun _ _ same none => same ▸ none
  | .bind name value => by
    refine ((keeps scope config).expr value).1.before fun value pass => ?_
    rw [bind_eq]
    exact ⟨⟨.refl, le_rfl⟩, fun _ _ none => by rw [none]; rfl⟩

theorem takes_branches_closed : ∀ choices : Branches,
    Takes scope (fun before after => before = [] → after = []) (Eval.branches scope config choices)
  | .otherwise body => takes_nodes_closed body
  | .branch test body rest => by
    unfold Eval.branches
    refine ((keeps scope config).expr test).1.before fun value => ?_
    split
    · exact takes_nodes_closed body
    · exact takes_branches_closed rest

theorem takes_nodes_closed : ∀ nodes : List Node,
    Takes scope (fun before after => before = [] → after = []) (Eval.nodes scope config nodes)
  | [] => (Keeps.pure ()).1.imp fun _ _ same none => same ▸ none
  | first :: rest =>
    (takes_node_closed first).bind (fun _ => takes_nodes_closed rest)
      fun here later none => later (here none)

end

/--
**Locals are confined as the analysis says.** Whatever scopes are open, a node that succeeds leaves as many of
them open, and all but the innermost as they were. In the innermost one only names have changed that the
analysis calls bound: those that a `let` outside of all loops of the node gives. A loop itself changes nothing,
so neither its own names nor those that its body binds are visible after it.
-/
theorem locals_confined {scope : Scope σ} {config : Config} {node : Node} {before after : Pass σ}
    (ok : Eval.node scope config node before = (.ok (), after)) :
    Confined (Template.analyze node).bound before.frames after.frames ∧
    (∀ name, name ∈ (Template.analyze node).bound ↔ name ∈ node.leaves) ∧
    ∀ item second iterable body, node = .loop item second iterable body →
      after.frames = before.frames := by
  refine ⟨?_, fun name => Template.mem_bound_analyze, ?_⟩
  · exact .of_rebinds ((takes_node_closed scope config node).ok ok) ((takes_node scope config node).ok ok)
      fun name => Template.mem_bound_analyze.mpr
  · rintro item second iterable body rfl
    exact ((takes_loop scope config (takes_nodes scope config body) item second iterable).ok ok).symm

/-- A branch that binds `y` and loops; the body of the loop binds `z`, and a `y` of its own. -/
def loopInBranch : Node :=
  .choice (.branch (.literal (.bool true))
    [.bind "y" (.literal (.int 1)),
      .loop "x" (some "i") (.literal (.int 2)) [.bind "z" (.name "x"), .bind "y" (.name "i")]]
    (.otherwise [.bind "w" (.literal .nil)]))

/-- After it there is the `y` of the branch, and the `x` and `z` that were there before. -/
theorem locals_confined_of_loopInBranch :
    let before : Pass Unit := { Pass.start () Store.empty with
      frames := [.ofList [("x", .str "kept")], .ofList [("z", .nil)]] }
    ∃ after, Eval.node (.ofVariables .empty) Config.default loopInBranch before = (.ok (), after) ∧
      Confined (Template.analyze loopInBranch).bound before.frames after.frames ∧
      after.frames.map OrderedMap.entries =
        [[("x", .str "kept"), ("y", .int 1)], [("z", .nil)]] := by
  intro before
  have confined {after : Pass Unit}
      (ok : Eval.node (.ofVariables .empty) Config.default loopInBranch before = (.ok (), after)) :=
    (locals_confined ok).1
  exact ⟨_, rfl, confined rfl, by decide +kernel⟩

/-! ### Loops that are too long -/

/-- A run of a loop that succeeds was allowed, and has been counted. -/
theorem turn_counted {body : Eval σ Unit} {names : List String}
    (takes : Takes scope (Rebinds names) body) (frame : OrderedMap String Value) {pass : Pass σ}
    (ok : (turn config frame body pass).1 = .ok ()) :
    pass.iterations < config.maxIterations ∧
      pass.iterations < (turn config frame body pass).2.iterations := by
  have left : Takes scope (fun _ _ => True) (do body; leave) :=
    takes.bind (fun _ => takes_leave scope) fun _ _ => trivial
  have inside : Takes scope (fun _ _ => True) (do enter frame; body; leave) :=
    (takes_enter scope frame).bind (fun _ => left) fun _ _ => trivial
  unfold turn at ok ⊢
  rw [bind_apply, count_apply] at ok ⊢
  by_cases refused : pass.iterations + 1 > config.maxIterations
  · rw [if_pos refused] at ok
    cases ok
  · rw [if_neg refused]
    exact ⟨by omega, (inside { pass with iterations := pass.iterations + 1 }).1.iterations⟩

/-- **A loop over more items than there may be runs fails.** -/
theorem loop_refused {body : Eval σ Unit} {names : List String}
    (takes : Takes scope (Rebinds names) body)
    (frame : Value × Value → OrderedMap String Value) {pairs : List (Value × Value)}
    (some : pairs ≠ []) {pass : Pass σ}
    (many : config.maxIterations < pass.iterations + pairs.length) :
    (pairs.forM (fun pair => turn config (frame pair) body) pass).1 ≠ .ok () := by
  induction pairs generalizing pass with
  | nil => exact absurd rfl some
  | cons first rest ih =>
    intro ok
    change ((turn config (frame first) body >>= fun _ =>
      rest.forM fun pair => turn config (frame pair) body) pass).1 = _ at ok
    rw [bind_apply] at ok
    have counted := @turn_counted _ scope config _ _ takes (frame first) pass
    generalize turn config (frame first) body pass = reached at counted ok
    obtain ⟨error | _, after⟩ := reached
    · cases ok
    · obtain ⟨allowed, later⟩ := counted rfl
      rw [List.length_cons] at many
      refine ih ?_ ?_ ok
      · rintro rfl
        simp only [List.length_nil] at many
        omega
      · simp only at later
        omega

end Eval

end ReactiveView.Render
