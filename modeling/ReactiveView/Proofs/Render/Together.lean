/-
**Expressions in lockstep.**

Two runs of one expression, in corresponding surroundings and with locals that are enough to read
its names alike, end in corresponding surroundings with corresponding results, or both with one and
the same error.

* `Lockstep.together_expr` — expressions.
* `Lockstep.together_output` — output tags.
-/

import ReactiveView.Proofs.Render.PairedMethods
import ReactiveView.Proofs.Render.Run

namespace ReactiveView.Render

/-- How closely two runs are compared. -/
inductive Closeness where
  /-- Only the locals; the output may differ, and one run may fail alone. -/
  | hidden
  /-- The output too, where both runs succeed. -/
  | shown
  /-- Also the loop runs counted so far, so that neither run fails alone. -/
  | exact
deriving DecidableEq

variable {σ τ α β α' β' : Type}

/-- Two passes that have shown the same in their part. -/
structure Pass.ShowsSame (left : Pass σ) (right : Pass τ) : Prop where
  pieces : left.pieces = right.pieces
  size : left.size = right.size
  direct : left.direct = right.direct
  rendered : left.rendered = right.rendered

namespace Lockstep

/-- **Two passes side by side**, each with its locals. -/
structure Beside (lock : Lockstep σ τ) (close : Closeness) (stage : lock.Stage)
    (frames others : Frames) (left : Pass σ) (right : Pass τ) : Prop where
  around : lock.Around stage left.around right.around
  frames : left.frames = frames
  others : right.frames = others
  shown : close ≠ .hidden → left.ShowsSame right
  /-- Where children are answered alike, they are rendered or left alone alike. -/
  children : close ≠ .hidden → lock.Answered "child" → left.rendersChildren = right.rendersChildren
  counted : close = .exact → left.iterations = right.iterations

/-- Two steps that stay side by side and have corresponding results, or fail alike. -/
def Together (lock : Lockstep σ τ) (close : Closeness) (frames others : Frames) (stage : lock.Stage)
    (relation : lock.Stage → α → β → Prop) (run : Eval σ α) (other : Eval τ β) : Prop :=
  ∀ left right, lock.Beside close stage frames others left right →
    ∃ later, stage ≤ later ∧ lock.Beside close later frames others (run left).2 (other right).2 ∧
      AlikeResult (relation later) (run left).1 (other right).1

namespace Together

variable {lock : Lockstep σ τ} {close : Closeness} {frames others : Frames} {stage : lock.Stage}
  {relation : lock.Stage → α → β → Prop} {second : lock.Stage → α' → β' → Prop}

theorem bind {run : Eval σ α} {other : Eval τ β}
    (first : lock.Together close frames others stage relation run other) {next : α → Eval σ α'}
    {following : β → Eval τ β'}
    (after : ∀ later, stage ≤ later → ∀ value opposed, relation later value opposed →
      lock.Together close frames others later second (next value) (following opposed)) :
    lock.Together close frames others stage second (run >>= next) (other >>= following) := by
  intro left right beside
  obtain ⟨later, le, beside, results⟩ := first left right beside
  rw [Eval.bind_apply, Eval.bind_apply]
  generalize run left = reached, other right = arrived at beside results ⊢
  obtain ⟨result, left⟩ := reached
  obtain ⟨answer, right⟩ := arrived
  cases results with
  | error error => exact ⟨later, le, beside, .error error⟩
  | ok related =>
    obtain ⟨last, more, beside, results⟩ := after later le _ _ related left right beside
    exact ⟨last, le.trans more, beside, results⟩

theorem pure {value : α} {opposed : β} (related : relation stage value opposed) :
    lock.Together close frames others stage relation (pure value) (pure opposed) :=
  fun _ _ beside => ⟨stage, le_rfl, beside, .ok related⟩

theorem refuse (reason : String) :
    lock.Together close frames others stage relation (Eval.refuse reason) (Eval.refuse reason) :=
  fun _ _ beside => ⟨stage, le_rfl, beside, .error _⟩

theorem settled {result : Except Error α} {answer : Except Error β}
    (alike : AlikeResult (relation stage) result answer) :
    lock.Together close frames others stage relation (Eval.settled result) (Eval.settled answer) :=
  fun _ _ beside => ⟨stage, le_rfl, beside, alike⟩

theorem asking {f : σ → Store → Answer σ α} {g : τ → Store → Answer τ β}
    (answers : ∀ l r, lock.Around stage l r → lock.Answers stage relation (f l.1 l.2) (g r.1 r.2)) :
    lock.Together close frames others stage relation (Eval.asking f) (Eval.asking g) := by
  intro left right beside
  obtain ⟨later, le, around, alike⟩ := answers _ _ beside.around
  exact ⟨later, le, ⟨around, beside.frames, beside.others, fun visible =>
    { beside.shown visible with }, beside.children, beside.counted⟩, alike⟩

theorem onStore {relation : lock.Stage → Value → Value → Prop} {f g : Store → Outcome}
    (answers : ∀ l r, lock.Around stage l r →
      lock.Answers stage relation (inWorld l.1 (f l.2)) (inWorld r.1 (g r.2))) :
    lock.Together close frames others stage relation (Eval.onStore f) (Eval.onStore g) :=
  @asking _ _ _ _ _ _ _ _ _ _ (fun world store => inWorld world (f store))
    (fun world store => inWorld world (g store)) answers

theorem make {relation : lock.Stage → Value → Value → Prop} {f g : Store → Value × Store}
    (answers : ∀ l r, lock.Around stage l r →
      lock.Answers stage relation (inWorld l.1 (given (f l.2))) (inWorld r.1 (given (g r.2)))) :
    lock.Together close frames others stage relation (Eval.make f) (Eval.make g) :=
  @asking _ _ _ _ _ _ _ _ _ _ (fun world store => inWorld world (given (f store)))
    (fun world store => inWorld world (given (g store))) answers

end Together

/-- Locals that are enough to read some names alike, and calls that are answered alike. -/
structure Ready (lock : Lockstep σ τ) (close : Closeness) (frames others : Frames)
    (stage : lock.Stage) (names calls : List String) : Prop where
  met : ∀ name ∈ names,
    lock.Met stage name (Eval.findLocal frames name) (Eval.findLocal others name)
  answered : ∀ name ∈ calls, name = "raw" ∨
    (lock.Answered name ∧ (name = "child" → close ≠ .hidden))

section

variable {lock : Lockstep σ τ} {left : Scope σ} {right : Scope τ} (law : lock.Lawful left right)
  {config : Config} {close : Closeness} {frames others : Frames} {stage later : lock.Stage}
  {names calls more further : List String}

omit law in
theorem Ready.sub (ready : lock.Ready close frames others stage names calls) (less : more ⊆ names)
    (fewer : further ⊆ calls) : lock.Ready close frames others stage more further :=
  ⟨fun name member => ready.met name (less member),
    fun name member => ready.answered name (fewer member)⟩

omit law in
theorem Ready.front
    (ready : lock.Ready close frames others stage (names ++ more) (calls ++ further)) :
    lock.Ready close frames others stage names calls :=
  ready.sub (List.subset_append_left _ _) (List.subset_append_left _ _)

omit law in
theorem Ready.back
    (ready : lock.Ready close frames others stage (names ++ more) (calls ++ further)) :
    lock.Ready close frames others stage more further :=
  ready.sub (List.subset_append_right _ _) (List.subset_append_right _ _)

include law

theorem Ready.mono (ready : lock.Ready close frames others stage names calls) (le : stage ≤ later) :
    lock.Ready close frames others later names calls :=
  ⟨fun name member => law.metMono le (ready.met name member), ready.answered⟩

theorem Lawful.isTruthy {value other : Value} (same : lock.Same stage value other) :
    value.isTruthy = other.isTruthy := by
  rcases law.shape same with ⟨rfl, _⟩ | ⟨_, _, rfl, rfl⟩ | ⟨_, _, rfl, rfl⟩ | ⟨_, _, rfl, rfl⟩ <;> rfl

theorem Lawful.unary {value other : Value} (same : lock.Same stage value other) (op : UnaryOp) :
    AlikeResult (lock.Same stage) (unary op value) (unary op other) := by
  have plain := plain_unary op other
  have equal : Render.unary op value = Render.unary op other := by
    rcases law.shape same with ⟨rfl, _⟩ | ⟨_, _, rfl, rfl⟩ | ⟨_, _, rfl, rfl⟩ | ⟨_, _, rfl, rfl⟩ <;>
      cases op <;> rfl
  rw [equal]
  generalize Render.unary op other = result at plain
  cases result with
  | ok value => exact .ok (law.scalar (plain value rfl) stage)
  | error error => exact .error error

/-! ### Names, children and helpers -/

omit law in
/-- The value of a name for which this was found. -/
def foundOr (config : Config) (name : String) : Option Value → Except Error Value
  | some value => .ok value
  | none => if config.strictVariables then .error (.undefinedVariable name) else .ok .nil

theorem together_textOf {value other : Value} (same : lock.Same stage value other) :
    lock.Together close frames others stage (fun _ => Eq) (Eval.textOf value)
      (Eval.textOf other) := by
  intro l r beside
  have text : value.text l.store = other.text r.store := law.text beside.around same
  exact ⟨stage, le_rfl, beside, .ok text⟩

omit law in
/-- A name is looked up in the locals and the scope, and then settled. -/
theorem lookup_apply (scope : Scope σ) (config : Config) (name : String) (pass : Pass σ) :
    Eval.lookup scope config name pass =
      (Eval.asking (answerFor scope name (Eval.findLocal pass.frames name)) >>=
        fun found => Eval.settled (foundOr config name found)) pass := by
  unfold Eval.lookup
  rw [Eval.bind_apply]
  change (match Eval.findLocal pass.frames name with | some value => _ | none => _ : Eval σ Value) pass = _
  cases Eval.findLocal pass.frames name with
  | some value => rfl
  | none =>
    change (Eval.asking (scope.lookup name) >>= _) pass = (Eval.asking (scope.lookup name) >>= _) pass
    rw [Eval.bind_apply, Eval.bind_apply]
    rcases Eval.asking (scope.lookup name) pass with ⟨error | found, after⟩
    · rfl
    · cases found with
      | some value => rfl
      | none =>
        simp only [foundOr]
        split <;> rfl

theorem together_lookup {name : String}
    (met : lock.Met stage name (Eval.findLocal frames name) (Eval.findLocal others name)) :
    lock.Together close frames others stage lock.Same (Eval.lookup left config name)
      (Eval.lookup right config name) := by
  intro l r beside
  rw [lookup_apply, lookup_apply, beside.frames, beside.others]
  refine Together.bind (.asking fun l r around => law.lookup around met)
    (fun later _ found known alike => .settled ?_) l r beside
  cases alike with
  | some same => exact .ok same
  | none =>
    simp only [foundOr]
    split
    · exact .error _
    · exact .ok (law.scalar rfl later)

theorem together_child (answered : lock.Answered "child") (visible : close ≠ .hidden)
    (className id : String) :
    lock.Together close frames others stage (fun _ => Eq) (Eval.child left className id)
      (Eval.child right className id) := by
  intro l r beside
  unfold Eval.child
  rw [Eval.bind_apply, Eval.bind_apply]
  change ∃ later, stage ≤ later ∧ lock.Beside close later frames others
    ((if l.rendersChildren then _ else _ : Eval σ String) l).2
    ((if r.rendersChildren then _ else _ : Eval τ String) r).2 ∧ AlikeResult _
    ((if l.rendersChildren then _ else _ : Eval σ String) l).1
    ((if r.rendersChildren then _ else _ : Eval τ String) r).1
  rw [beside.children visible answered]
  split
  · refine Together.bind (.asking fun l r around => law.child around answered className id)
      (fun later _ rendered other same => ?_) l r beside
    subst same
    intro l r beside
    exact ⟨later, le_rfl, ⟨beside.around, beside.frames, beside.others, fun visible =>
      { beside.shown visible with
        direct := congrArg (· ++ [id]) (beside.shown visible).direct
        rendered := congrArg (· ++ rendered.rendered) (beside.shown visible).rendered },
      beside.children, beside.counted⟩, .ok rfl⟩
  · exact ⟨stage, le_rfl, beside, .ok rfl⟩

theorem together_helper {name : String} (answered : lock.Answered name) (other : name ≠ "child")
    {values opposed : List Value} (same : List.Forall₂ (lock.Same stage) values opposed) :
    lock.Together close frames others stage lock.Same (Eval.helper left name values)
      (Eval.helper right name opposed) := by
  refine Together.bind (.asking fun l r around => law.call around answered other same)
    fun later _ found known alike => ?_
  cases alike with
  | none => exact .refuse _
  | some same => exact .pure same

/-! ### Expressions -/

mutual

/-- **Two runs of one expression stay together.** -/
theorem together_expr : ∀ (expr : Expr) {stage : lock.Stage},
    lock.Ready close frames others stage expr.names expr.calls →
    lock.Together close frames others stage lock.Same (Eval.expr left config expr)
      (Eval.expr right config expr)
  | .literal value, stage, _ => .pure (law.scalar (by cases value <;> rfl) stage)
  | .list items, _, ready =>
    (together_exprs items ready).bind fun _ _ _ _ same =>
      .make fun _ _ around => law.newList around same
  | .name name, _, ready => together_lookup law (ready.met name (List.mem_singleton_self name))
  | .field target name, _, ready =>
    (together_expr target ready).bind fun _ _ _ _ same =>
      .onStore fun _ _ around => law.field around same name
  | .index target place, _, ready =>
    (together_expr target ready.front).bind fun _ le _ _ same =>
      (together_expr place (ready.back.mono law le)).bind fun _ le _ _ placed =>
        .onStore fun _ _ around => law.index around (law.sameMono le same) placed
  | .method receiver name arguments, _, ready =>
    (together_expr receiver ready.front).bind fun _ le _ _ same =>
      (together_exprs arguments (ready.back.mono law le)).bind fun _ le _ _ values =>
        .onStore fun _ _ around => law.method around (law.sameMono le same) values name
  | .call name arguments, _, ready => by
    have inside := ready.sub (List.Subset.refl _) (List.subset_cons_self name _)
    unfold Eval.expr
    split
    · refine (together_exprs arguments inside).bind fun _ _ _ _ values => ?_
      cases values with
      | nil => exact .refuse _
      | cons same rest =>
        cases rest with
        | nil =>
          exact (together_textOf law same).bind fun _ _ _ _ text => .pure (text ▸ law.scalar rfl _)
        | cons _ _ => exact .refuse _
    · next ordinary =>
      have answered := (ready.answered name List.mem_cons_self).resolve_left ordinary
      split
      · next same =>
        subst same
        split
        · exact .refuse _
        · refine (together_texts arguments inside).bind fun _ _ texts _ same => ?_
          subst same
          split
          · exact (together_child law answered.1 (answered.2 rfl) _ _).bind fun _ _ _ _ html =>
              .pure (html ▸ law.scalar rfl _)
          · exact .refuse _
      · next other =>
        exact (together_exprs arguments inside).bind fun _ _ _ _ values =>
          together_helper law answered.1 other values
  | .unary op operand, _, ready =>
    (together_expr operand ready).bind fun _ _ _ _ same => .settled (law.unary same op)
  | .binary op first second, _, ready => by
    unfold Eval.expr
    refine (together_expr first ready.front).bind fun _ le value other same => ?_
    have rest := together_expr second (ready.back.mono law le)
    cases op with
    | and =>
      simp only [law.isTruthy same]
      split
      · exact rest
      · exact .pure same
    | or =>
      simp only [law.isTruthy same]
      split
      · exact .pure same
      · exact rest
    | _ =>
      exact rest.bind fun _ le _ _ opposed =>
        .onStore fun _ _ around => law.binary around (law.sameMono le same) opposed _ _
  | .conditional test affirmed denied, _, ready => by
    unfold Eval.expr
    refine (together_expr test ready.front.front).bind fun _ le value other same => ?_
    rw [law.isTruthy same]
    split
    · exact together_expr affirmed (ready.front.back.mono law le)
    · exact together_expr denied (ready.back.mono law le)

theorem together_exprs : ∀ (exprs : List Expr) {stage : lock.Stage},
    lock.Ready close frames others stage (Expr.namesOf exprs) (Expr.callsOf exprs) →
    lock.Together close frames others stage (fun stage => List.Forall₂ (lock.Same stage))
      (Eval.exprs left config exprs) (Eval.exprs right config exprs)
  | [], _, _ => .pure .nil
  | first :: rest, _, ready =>
    (together_expr first ready.front).bind fun _ le _ _ same =>
      (together_exprs rest (ready.back.mono law le)).bind fun _ le _ _ values =>
        .pure (.cons (law.sameMono le same) values)

theorem together_texts : ∀ (exprs : List Expr) {stage : lock.Stage},
    lock.Ready close frames others stage (Expr.namesOf exprs) (Expr.callsOf exprs) →
    lock.Together close frames others stage (fun _ => Eq) (Eval.texts left config exprs)
      (Eval.texts right config exprs)
  | [], _, _ => .pure rfl
  | first :: rest, _, ready =>
    (together_expr first ready.front).bind fun _ le _ _ same =>
      (together_textOf law same).bind fun _ more _ _ text =>
        (together_texts rest (ready.back.mono law (le.trans more))).bind fun _ _ _ _ texts =>
          .pure (by rw [text, texts])

end

/-! ### Output tags -/

theorem together_piece (raw : Bool) (value : Expr) {stage : lock.Stage}
    (ready : lock.Ready close frames others stage value.names value.calls) :
    lock.Together close frames others stage (fun _ => Eq)
      (do let value ← Eval.expr left config value; return Eval.piece raw (← Eval.textOf value))
      (do let value ← Eval.expr right config value; return Eval.piece raw (← Eval.textOf value)) :=
  (together_expr law value ready).bind fun _ _ _ _ same =>
    (together_textOf law same).bind fun _ _ _ _ text => .pure (by rw [text])

/-- **Two runs of one output tag stay together** and give one piece. -/
theorem together_output (raw : Bool) : ∀ (value : Expr) {stage : lock.Stage},
    lock.Ready close frames others stage value.names value.calls →
    lock.Together close frames others stage (fun _ => Eq) (Eval.output left config raw value)
      (Eval.output right config raw value)
  | .conditional test affirmed denied, _, ready => by
    unfold Eval.output
    refine (together_expr law test ready.front.front).bind fun _ le value other same => ?_
    rw [law.isTruthy same]
    split
    · exact together_output raw affirmed (ready.front.back.mono law le)
    · exact together_output raw denied (ready.back.mono law le)
  | .call name arguments, _, ready => by
    have inside := ready.sub (List.Subset.refl _) (List.subset_cons_self name _)
    unfold Eval.output
    split
    · split
      · exact .refuse _
      · refine (together_exprs law arguments inside).bind fun _ _ _ _ values => ?_
        cases values with
        | nil => exact .refuse _
        | cons same rest =>
          cases rest with
          | nil => exact (together_textOf law same).bind fun _ _ _ _ text => .pure (by rw [text])
          | cons _ _ => exact .refuse _
    · next ordinary =>
      have answered := (ready.answered name List.mem_cons_self).resolve_left ordinary
      split
      · next same =>
        subst same
        split
        · exact .refuse _
        · refine (together_texts law arguments inside).bind fun _ _ texts _ same => ?_
          subst same
          split
          · exact (together_child law answered.1 (answered.2 rfl) _ _).bind fun _ _ _ _ html =>
              .pure (by rw [html])
          · exact .refuse _
      · exact together_piece law raw (.call name arguments) ready
  | .literal _, _, ready | .list _, _, ready | .name _, _, ready | .field _ _, _, ready
  | .index _ _, _, ready | .method _ _ _, _, ready | .unary _ _, _, ready
  | .binary _ _ _, _, ready => together_piece law raw _ ready

omit law in
/-- Where both runs have shown the same, one more piece is accepted or refused by both. -/
theorem together_push (visible : close ≠ .hidden) (piece : Piece) :
    lock.Together close frames others stage (fun _ _ _ => True) (Eval.push config piece : Eval σ Unit)
      (Eval.push config piece : Eval τ Unit) := by
  intro l r beside
  have shown := beside.shown visible
  rw [Eval.push_apply, Eval.push_apply, shown.size]
  split
  · exact ⟨stage, le_rfl, beside, .error _⟩
  · refine ⟨stage, le_rfl, ⟨beside.around, beside.frames, beside.others, fun _ => ?_,
      beside.children, beside.counted⟩, .ok trivial⟩
    exact { shown with pieces := congrArg (piece :: ·) shown.pieces, size := rfl }

end

end Lockstep

end ReactiveView.Render
