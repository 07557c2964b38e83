/-
**One run seen through another.**

A run knows the world of its scope only by the answers it gets. So two scopes over different worlds
that give the same answers in corresponding worlds lead to the same run, with corresponding worlds
at its end. The left scope may also refuse an answer that the right one gives: then the left run
fails, and the world of the right run has left the bounds within which the left one answers.

* `Scope.Mirrors` — two scopes that answer alike in corresponding worlds, within bounds.
* `Eval.mirrored_node` — two runs of one node under such scopes.
* `mirrored_render` — two renderings.
-/

import ReactiveView.Proofs.Render.Together
import ReactiveView.Render.Basic

set_option linter.unusedSectionVars false

namespace ReactiveView

variable {σ τ α β : Type}

/-- How two answers compare: the same in corresponding worlds, or refused out of bounds. -/
inductive Answer.Mirrors (same : σ → τ → Prop) (out : τ → Prop) : Answer σ α → Answer τ α → Prop
  | same {result : Except Error α} {world : σ} {other : τ} {store : Store}
    (related : same world other) : Mirrors same out (result, world, store) (result, other, store)
  | refused {error : Error} {world : σ} {store : Store} {answer : Answer τ α}
    (gone : out answer.2.1) : Mirrors same out (.error error, world, store) answer

/-- **Two scopes that answer alike in corresponding worlds**, as long as the right one stays within
bounds; once out of bounds it stays out. -/
structure Scope.Mirrors (left : Scope σ) (right : Scope τ) (same : σ → τ → Prop) (out : τ → Prop) :
    Prop where
  lookup : ∀ {world other}, same world other → ∀ name store,
    Answer.Mirrors same out (left.lookup name world store) (right.lookup name other store)
  call : ∀ {world other}, same world other → ∀ name arguments store,
    Answer.Mirrors same out (left.call name arguments world store)
      (right.call name arguments other store)
  child : ∀ {world other}, same world other → ∀ className id store,
    Answer.Mirrors same out (left.renderChild className id world store)
      (right.renderChild className id other store)
  lookupOut : ∀ {world}, out world → ∀ name store, out (right.lookup name world store).2.1
  callOut : ∀ {world}, out world → ∀ name arguments store,
    out (right.call name arguments world store).2.1
  childOut : ∀ {world}, out world → ∀ className id store,
    out (right.renderChild className id world store).2.1

namespace Render

/-- A pass as it stands in another world. -/
def Pass.within (pass : Pass τ) (world : σ) : Pass σ where
  store := pass.store
  world := world
  frames := pass.frames
  iterations := pass.iterations
  pieces := pass.pieces
  size := pass.size
  rendersChildren := pass.rendersChildren
  direct := pass.direct
  rendered := pass.rendered

/-- How two steps end: alike in corresponding worlds, or the left one refused out of bounds. -/
inductive Ends (same : σ → τ → Prop) (out : τ → Prop) :
    Except Error α × Pass σ → Except Error α × Pass τ → Prop
  | same {result : Except Error α} {pass : Pass τ} {world : σ} (related : same world pass.world) :
    Ends same out (result, pass.within world) (result, pass)
  | refused {error : Error} {after : Pass σ} {reached : Except Error α × Pass τ}
    (gone : out reached.2.world) : Ends same out (.error error, after) reached

namespace Eval

/-- **Two steps that mirror each other.** -/
structure Mirrored (same : σ → τ → Prop) (out : τ → Prop) (run : Eval σ α) (other : Eval τ α) :
    Prop where
  ends : ∀ (pass : Pass τ) (world : σ), same world pass.world →
    Ends same out (run (pass.within world)) (other pass)
  out : ∀ pass : Pass τ, out pass.world → out (other pass).2.world

namespace Mirrored

variable {same : σ → τ → Prop} {out : τ → Prop} {run : Eval σ α} {other : Eval τ α}

theorem bind (first : Mirrored same out run other) {next : α → Eval σ β} {following : α → Eval τ β}
    (after : ∀ value, Mirrored same out (next value) (following value)) :
    Mirrored same out (run >>= next) (other >>= following) where
  ends pass world related := by
    have ended := first.ends pass world related
    rw [bind_apply, bind_apply]
    generalize run (pass.within world) = reached, other pass = arrived at ended ⊢
    cases ended with
    | @same result pass world related =>
      cases result with
      | error error => exact .same related
      | ok value => exact (after value).ends pass world related
    | refused gone =>
      obtain ⟨error | value, pass⟩ := arrived
      · exact .refused gone
      · exact .refused ((after value).out pass gone)
  out pass gone := by
    have left := first.out pass gone
    rw [bind_apply]
    generalize other pass = arrived at left ⊢
    obtain ⟨error | value, pass⟩ := arrived
    · exact left
    · exact (after value).out pass left

/-- A step that has nothing to do with the world. -/
theorem plain (alike : ∀ (pass : Pass τ) (world : σ),
      run (pass.within world) = ((other pass).1, (other pass).2.within world))
    (stays : ∀ pass, (other pass).2.world = pass.world) : Mirrored same out run other where
  ends pass world related := by
    rw [alike]
    exact .same (stays pass ▸ related)
  out pass gone := (stays pass).symm ▸ gone

theorem pure (value : α) :
    Mirrored same out (Pure.pure value : Eval σ α) (Pure.pure value : Eval τ α) :=
  .plain (fun _ _ => rfl) fun _ => rfl

theorem settled (result : Except Error α) :
    Mirrored same out (Eval.settled result : Eval σ α) (Eval.settled result : Eval τ α) :=
  .plain (fun _ _ => rfl) fun _ => rfl

theorem refuse (reason : String) :
    Mirrored same out (Eval.refuse reason : Eval σ α) (Eval.refuse reason : Eval τ α) :=
  .plain (fun _ _ => rfl) fun _ => rfl

theorem textOf (value : Value) :
    Mirrored same out (Eval.textOf value : Eval σ String) (Eval.textOf value : Eval τ String) :=
  .plain (fun _ _ => rfl) fun _ => rfl

theorem onStore (f : Store → Outcome) :
    Mirrored same out (Eval.onStore f : Eval σ Value) (Eval.onStore f : Eval τ Value) :=
  .plain (fun _ _ => rfl) fun _ => rfl

theorem make (f : Store → Value × Store) :
    Mirrored same out (Eval.make f : Eval σ Value) (Eval.make f : Eval τ Value) :=
  .plain (fun _ _ => rfl) fun _ => rfl

/-- A question that is answered alike. -/
theorem asking {f : σ → Store → Answer σ α} {g : τ → Store → Answer τ α}
    (answers : ∀ {world other}, same world other → ∀ store,
      Answer.Mirrors same out (f world store) (g other store))
    (stays : ∀ {world}, out world → ∀ store, out (g world store).2.1) :
    Mirrored same out (Eval.asking f) (Eval.asking g) where
  ends pass world related := by
    have answered := answers related pass.store
    change Ends same out
      ((f world pass.store).1, { (pass.within world : Pass σ) with
        world := (f world pass.store).2.1, store := (f world pass.store).2.2 })
      ((g pass.world pass.store).1, { pass with
        world := (g pass.world pass.store).2.1, store := (g pass.world pass.store).2.2 })
    generalize f world pass.store = answer, g pass.world pass.store = other at answered ⊢
    cases answered with
    | @same result world other store related =>
      exact @Ends.same _ _ _ _ _ _ { pass with world := other, store } world related
    | refused gone => exact .refused gone
  out pass gone := stays gone pass.store

end Mirrored

variable {left : Scope σ} {right : Scope τ} {same : σ → τ → Prop} {out : τ → Prop}
  (mirrors : left.Mirrors right same out) (config : Config)
include mirrors

/-! ### Expressions -/

theorem mirrored_lookup (name : String) :
    Mirrored same out (lookup left config name) (lookup right config name) := by
  have found (frames : Frames) : Mirrored same out
      (Eval.asking (answerFor left name (findLocal frames name)) >>= fun found =>
        Eval.settled (Lockstep.foundOr config name found))
      (Eval.asking (answerFor right name (findLocal frames name)) >>= fun found =>
        Eval.settled (Lockstep.foundOr config name found)) := by
    refine Mirrored.bind (.asking (fun related store => ?_) fun gone store => ?_)
      fun _ => .settled _
    all_goals cases findLocal frames name
    · exact mirrors.lookup related name store
    · exact .same related
    · exact mirrors.lookupOut gone name store
    · exact gone
  refine ⟨fun pass world related => ?_, fun pass gone => ?_⟩
  · rw [Lockstep.lookup_apply, Lockstep.lookup_apply]
    exact (found pass.frames).ends pass world related
  · rw [Lockstep.lookup_apply]
    exact (found pass.frames).out pass gone

omit mirrors in
/-- A child is rendered, or left alone. -/
theorem child_apply (scope : Scope σ) (className id : String) (pass : Pass σ) :
    child scope className id pass =
      if pass.rendersChildren then
        (Eval.asking (scope.renderChild className id) >>= fun shown => do
          modify fun pass =>
            { pass with direct := pass.direct ++ [id], rendered := pass.rendered ++ shown.rendered }
          return shown.html) pass
      else (.ok "", pass) := by
  unfold child
  rw [bind_apply]
  change (if pass.rendersChildren then _ else _ : Eval σ String) pass = _
  split <;> rfl

theorem mirrored_child (className id : String) :
    Mirrored same out (child left className id) (child right className id) := by
  have shown : Mirrored same out
      (Eval.asking (left.renderChild className id) >>= fun shown => do
        modify fun pass =>
          { pass with direct := pass.direct ++ [id], rendered := pass.rendered ++ shown.rendered }
        return shown.html)
      (Eval.asking (right.renderChild className id) >>= fun shown => do
        modify fun pass =>
          { pass with direct := pass.direct ++ [id], rendered := pass.rendered ++ shown.rendered }
        return shown.html) := by
    refine Mirrored.bind (.asking (fun related store => mirrors.child related className id store)
      fun gone store => mirrors.childOut gone className id store) fun shown => ?_
    exact .plain (fun _ _ => rfl) fun _ => rfl
  refine ⟨fun pass world related => ?_, fun pass gone => ?_⟩
  · rw [child_apply, child_apply]
    change Ends same out (if pass.rendersChildren then _ else _) _
    split
    · exact shown.ends pass world related
    · exact .same related
  · rw [child_apply]
    split
    · exact shown.out pass gone
    · exact gone

theorem mirrored_helper (name : String) (arguments : List Value) :
    Mirrored same out (helper left name arguments) (helper right name arguments) := by
  refine Mirrored.bind (.asking (fun related store => mirrors.call related name arguments store)
    fun gone store => mirrors.callOut gone name arguments store) fun found => ?_
  split
  · exact .pure _
  · exact .refuse _

mutual

theorem mirrored_expr : ∀ expr : Expr,
    Mirrored same out (Eval.expr left config expr) (Eval.expr right config expr)
  | .literal _ => .pure _
  | .list items => (mirrored_exprs items).bind fun _ => .make _
  | .name name => mirrored_lookup mirrors config name
  | .field target _ => (mirrored_expr target).bind fun _ => .onStore _
  | .index target index =>
    (mirrored_expr target).bind fun _ => (mirrored_expr index).bind fun _ => .onStore _
  | .method receiver _ arguments =>
    (mirrored_expr receiver).bind fun _ => (mirrored_exprs arguments).bind fun _ => .onStore _
  | .call name arguments => by
    unfold Eval.expr
    split
    · refine (mirrored_exprs arguments).bind fun values => ?_
      split
      · exact (Mirrored.textOf _).bind fun _ => .pure _
      · exact .refuse _
    split
    · split
      · exact .refuse _
      · refine (mirrored_texts arguments).bind fun texts => ?_
        split
        · exact (mirrored_child mirrors _ _).bind fun _ => .pure _
        · exact .refuse _
    · exact (mirrored_exprs arguments).bind fun _ => mirrored_helper mirrors name _
  | .unary _ operand => (mirrored_expr operand).bind fun _ => .settled _
  | .binary op first second => by
    unfold Eval.expr
    refine (mirrored_expr first).bind fun value => ?_
    split
    · split
      · exact mirrored_expr second
      · exact .pure _
    · split
      · exact .pure _
      · exact mirrored_expr second
    · exact (mirrored_expr second).bind fun _ => .onStore _
  | .conditional test affirmed denied => by
    unfold Eval.expr
    refine (mirrored_expr test).bind fun value => ?_
    split
    · exact mirrored_expr affirmed
    · exact mirrored_expr denied

theorem mirrored_exprs : ∀ exprs : List Expr,
    Mirrored same out (Eval.exprs left config exprs) (Eval.exprs right config exprs)
  | [] => .pure _
  | first :: rest => (mirrored_expr first).bind fun _ => (mirrored_exprs rest).bind fun _ => .pure _

theorem mirrored_texts : ∀ exprs : List Expr,
    Mirrored same out (Eval.texts left config exprs) (Eval.texts right config exprs)
  | [] => .pure _
  | first :: rest =>
    (mirrored_expr first).bind fun _ => (Mirrored.textOf _).bind fun _ =>
      (mirrored_texts rest).bind fun _ => .pure _

end

/-! ### Nodes -/

theorem mirrored_output (raw : Bool) : ∀ value : Expr,
    Mirrored same out (output left config raw value) (output right config raw value)
  | .conditional test affirmed denied => by
    unfold output
    refine (mirrored_expr mirrors config test).bind fun value => ?_
    split
    · exact mirrored_output raw affirmed
    · exact mirrored_output raw denied
  | .call name arguments => by
    unfold output
    split
    · split
      · exact .refuse _
      · refine (mirrored_exprs mirrors config arguments).bind fun values => ?_
        split
        · exact (Mirrored.textOf _).bind fun _ => .pure _
        · exact .refuse _
    split
    · split
      · exact .refuse _
      · refine (mirrored_texts mirrors config arguments).bind fun texts => ?_
        split
        · exact (mirrored_child mirrors _ _).bind fun _ => .pure _
        · exact .refuse _
    · exact (mirrored_expr mirrors config _).bind fun _ => (Mirrored.textOf _).bind fun _ => .pure _
  | .literal _ | .list _ | .name _ | .field _ _ | .index _ _ | .method _ _ _ | .unary _ _
  | .binary _ _ _ =>
    (mirrored_expr mirrors config _).bind fun _ => (Mirrored.textOf _).bind fun _ => .pure _

omit mirrors in
theorem mirrored_push (piece : Piece) :
    Mirrored same out (push config piece : Eval σ Unit) (push config piece : Eval τ Unit) := by
  refine .plain (fun pass world => ?_) fun pass => ?_
  · rw [push_apply, push_apply]
    change (if pass.size + _ > _ then _ else _) = _
    split <;> rfl
  · rw [push_apply]
    split <;> rfl

omit mirrors in
theorem mirrored_pairs (iterable : Value) :
    Mirrored same out (pairs config iterable : Eval σ _) (pairs config iterable : Eval τ _) := by
  cases iterable <;> exact .plain (fun _ _ => rfl) fun _ => rfl

omit mirrors in
theorem mirrored_count :
    Mirrored same out (count config : Eval σ Unit) (count config : Eval τ Unit) := by
  refine .plain (fun pass world => ?_) fun pass => ?_
  · rw [count_apply, count_apply]
    change (if pass.iterations + 1 > _ then _ else _) = _
    split <;> rfl
  · rw [count_apply]
    split <;> rfl

omit mirrors in
theorem mirrored_bind (name : String) (value : Value) :
    Mirrored same out (bind name value : Eval σ Unit) (bind name value : Eval τ Unit) :=
  .plain (fun pass world => by rw [bind_eq, bind_eq]; rfl) fun pass => by rw [bind_eq]

omit mirrors in
theorem mirrored_forM {pairs : List (Value × Value)} {turn : Value × Value → Eval σ PUnit}
    {other : Value × Value → Eval τ PUnit}
    (turns : ∀ pair, Mirrored same out (turn pair) (other pair)) :
    Mirrored same out (pairs.forM turn) (pairs.forM other) := by
  induction pairs with
  | nil => exact .pure _
  | cons first rest ih => exact (turns first).bind fun _ => ih

mutual

/-- **Two runs of one node mirror each other.** -/
theorem mirrored_node : ∀ node : Node,
    Mirrored same out (Eval.node left config node) (Eval.node right config node)
  | .text _ => mirrored_push config _
  | .output value raw =>
    (mirrored_output mirrors config raw value).bind fun _ => mirrored_push config _
  | .choice choices => mirrored_branches choices
  | .loop item second iterable body =>
    (mirrored_expr mirrors config iterable).bind fun _ => (mirrored_pairs config _).bind fun _ =>
      mirrored_forM fun pair => (mirrored_count config).bind fun _ =>
        (Mirrored.plain (fun _ _ => rfl) fun _ => rfl :
            Mirrored same out (enter (loopFrame item second pair)) _).bind fun _ =>
          (mirrored_nodes body).bind fun _ => .plain (fun _ _ => rfl) fun _ => rfl
  | .bind name value => (mirrored_expr mirrors config value).bind fun _ => mirrored_bind name _

theorem mirrored_branches : ∀ choices : Branches,
    Mirrored same out (Eval.branches left config choices) (Eval.branches right config choices)
  | .otherwise body => mirrored_nodes body
  | .branch test body rest => by
    unfold Eval.branches
    refine (mirrored_expr mirrors config test).bind fun value => ?_
    split
    · exact mirrored_nodes body
    · exact mirrored_branches rest

theorem mirrored_nodes : ∀ nodes : List Node,
    Mirrored same out (Eval.nodes left config nodes) (Eval.nodes right config nodes)
  | [] => .pure _
  | first :: rest => (mirrored_node first).bind fun _ => mirrored_nodes rest

end

end Eval

/-! ### Renderings -/

variable {left : Scope σ} {right : Scope τ} {same : σ → τ → Prop} {out : τ → Prop}

theorem mirrored_inPart {run : Eval σ α} {other : Eval τ α}
    (mirrored : Eval.Mirrored same out run other) (index : Nat) (source : String) :
    Eval.Mirrored same out (inPart index source run) (inPart index source other) where
  ends pass world related := by
    have ended := mirrored.ends pass world related
    unfold inPart
    generalize run (pass.within world) = reached, other pass = arrived at ended ⊢
    cases ended with
    | @same result pass world related => cases result <;> exact .same related
    | refused gone =>
      obtain ⟨error | value, pass⟩ := arrived <;> exact .refused gone
  out pass gone := by
    have stays := mirrored.out pass gone
    unfold inPart
    generalize other pass = arrived at stays ⊢
    obtain ⟨error | value, pass⟩ := arrived <;> exact stays

variable (mirrors : left.Mirrors right same out) (config : Config)
include mirrors

theorem mirrored_runPart (rendersChildren : Bool) (node : Node) :
    Eval.Mirrored same out (runPart left config rendersChildren node)
      (runPart right config rendersChildren node) := by
  have opened : Eval.Mirrored same out
      (modify fun pass => { pass with
        pieces := [], size := 0, rendersChildren, direct := [], rendered := [] } : Eval σ Unit)
      (modify fun pass => { pass with
        pieces := [], size := 0, rendersChildren, direct := [], rendered := [] } : Eval τ Unit) :=
    .plain (fun _ _ => rfl) fun _ => rfl
  have closed : Eval.Mirrored same out
      (do let pass ← get; return ⟨pass.pieces.reverse, pass.direct, pass.rendered⟩ :
        Eval σ PartOutput)
      (do let pass ← get; return ⟨pass.pieces.reverse, pass.direct, pass.rendered⟩ :
        Eval τ PartOutput) := .plain (fun _ _ => rfl) fun _ => rfl
  exact opened.bind fun _ => (Eval.mirrored_node mirrors config node).bind fun _ => closed

theorem mirrored_runParts (dense : Bool) (dirty : Dirty) (index : Nat) (dirtyLocals : NameSet)
    (parts : List Part) :
    Eval.Mirrored same out (runParts left config dense dirty index dirtyLocals parts)
      (runParts right config dense dirty index dirtyLocals parts) := by
  induction parts generalizing index dirtyLocals with
  | nil => exact .pure _
  | cons part rest ih =>
    cases part with
    | fixed text => exact (ih _ _).bind fun _ => .pure _
    | dynamic part =>
      unfold runParts
      split
      · exact (mirrored_inPart (mirrored_runPart mirrors config true part.node) _ _).bind fun _ =>
          (ih _ _).bind fun _ => .pure _
      · split
        · exact (ih _ _).bind fun _ => .pure _
        · have silent := mirrored_inPart (mirrored_runPart mirrors config false part.node) index
            part.source
          exact silent.bind fun _ => (ih _ _).bind fun _ => .pure _

/-- **Two renderings mirror each other**: they give the same, in corresponding worlds, or the left
one fails and the right one is out of bounds. -/
theorem mirrored_render (template : Template) (dirty : Dirty) (view : ClientView) {world : σ}
    {other : τ} (related : same world other) (store : Store) :
    let (result, seen, after, stored) := render template dirty view left config world store
    let (answer, shown, around, kept) := render template dirty view right config other store
    (result = answer ∧ seen = shown ∧ same after around ∧ stored = kept) ∨
      ((∃ error, result = .error error) ∧ out around) := by
  have ended := (mirrored_runParts mirrors config (isDense template dirty view) dirty 0
    NameSet.empty template.parts).ends (Pass.start other store) world related
  change Ends same out (runParts left config _ dirty 0 NameSet.empty template.parts
    (Pass.start world store)) _ at ended
  simp only [render, ExceptT.run]
  generalize runParts left config _ dirty 0 NameSet.empty template.parts (Pass.start world store) =
    reached, runParts right config _ dirty 0 NameSet.empty template.parts (Pass.start other store) =
    arrived at ended ⊢
  cases ended with
  | @same result pass world related =>
    cases result <;> exact Or.inl ⟨rfl, rfl, related, rfl⟩
  | refused gone =>
    obtain ⟨error | value, pass⟩ := arrived <;> exact Or.inr ⟨⟨_, rfl⟩, gone⟩

end Render

end ReactiveView
