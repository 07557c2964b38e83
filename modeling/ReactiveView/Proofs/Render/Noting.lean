/-
**What holds of every step with notes.**

A rendering that keeps a journal is put together from steps that print nothing and count nothing, from
notes of values, and from the two steps that the limits are about. A property of a plain step and the
same step with notes that goes from two steps to their sequence is one of all that a template can do: the
induction over expressions and nodes is done here once for both renderings.

* `Eval.loop_eq` — a loop may as well make all its numbers before its first run.
* `Eval.Upheld` — what is known of the values of a rendering, and kept by its steps.
* `Journaled.Law` — a property of steps that goes on to their sequences.
* `Journaled.Law.expr`, `Journaled.Law.node` — it holds of every expression and of every node.
-/

import ReactiveView.Proofs.Render.Idle
import ReactiveView.Proofs.Render.Journal

namespace ReactiveView

/-! ### Tags and what they put out -/

/-- The names of methods that make a new text. -/
def textBuilders : List String :=
  ["to_s", "type", "join", "upcase", "upper", "downcase", "lower", "capitalize", "replace", "format"]

/-- An expression whose value may be a new text, made by a method or by `raw`. -/
def Expr.buildsText : Expr → Bool
  | .field _ called | .method _ called _ => called ∈ textBuilders
  | .call callee _ => callee == "raw"
  | _ => false

/-- A call of a helper or of `child`: its value is an answer of the scope. -/
def Expr.asksScope : Expr → Bool
  | .call callee _ => callee != "raw"
  | _ => false

/-- A call of `raw` or `child`, or a conditional with such a branch. -/
def Expr.isMarkup : Expr → Bool
  | .call callee _ => callee == "raw" || callee == "child"
  | .conditional _ affirmed denied => affirmed.isMarkup || denied.isMarkup
  | _ => false

/-- A piece that an output tag may put out: only markup, or a tag that says so, is not made literal. -/
def Expr.Fills (value : Expr) (raw : Bool) (piece : Render.Piece) : Prop :=
  raw = false → value.isMarkup = false → ∃ text, piece = .literal text

/-- A piece that a text or an output tag may put out. -/
def Node.Puts (outlet : Node) (piece : Render.Piece) : Prop :=
  match outlet with
  | .text shown => piece = .template shown
  | .output value raw => value.Fills raw piece
  | _ => False

namespace Render

variable {σ α β : Type}

namespace Eval

/-! ### Steps that print nothing and count nothing -/

theorem idle_allPairs (iterable : Value) : Idle (allPairs iterable : Eval σ _) := by
  intro pass
  cases iterable <;> rfl

theorem idle_bind (name : String) (value : Value) : Idle (Eval.bind name value : Eval σ Unit) := by
  intro pass
  rw [bind_eq]
  rfl

/-! ### Pieces of output tags -/

theorem fills_piece (value : Expr) (raw : Bool) (text : String) :
    value.Fills raw (Eval.piece raw text) := by
  rintro rfl _
  exact ⟨text, rfl⟩

/-! ### Loops over many numbers -/

/-- Where the first runs of a loop fail, it does not matter what comes after them. -/
theorem forM_take {pairs : List (Value × Value)} {turn : Value × Value → Eval σ PUnit} {size : Nat}
    {pass : Pass σ} (fails : ((pairs.take size).forM turn pass).1 ≠ .ok ()) :
    (pairs.take size).forM turn pass = pairs.forM turn pass := by
  have split : pairs.forM turn =
      (pairs.take size).forM turn >>= fun _ => (pairs.drop size).forM turn := by
    conv_lhs => rw [← List.take_append_drop size pairs]
    exact List.forM_append
  rw [split, bind_apply]
  generalize (pairs.take size).forM turn pass = reached at fails
  obtain ⟨error | _, after⟩ := reached
  · rfl
  · exact absurd rfl fails

/-- **A loop may as well make all its numbers before its first run**: if they are too many, it fails in
the same run. -/
theorem loop_eq (scope : Scope σ) (config : Config) (item : String) (second : Option String)
    (iterable : Expr) (body : List Node) :
    Eval.node scope config (.loop item second iterable body) =
      Eval.expr scope config iterable >>= fun value => allPairs value >>= fun pairs =>
        pairs.forM fun pair => turn config (loopFrame item second pair) (nodes scope config body) := by
  refine congrArg (Eval.expr scope config iterable >>= ·) (funext fun value => funext fun pass => ?_)
  cases value with
  | int number =>
    rw [bind_apply, bind_apply]
    simp only [pairs, allPairs]
    rw [Nat.min_comm, ← List.take_range, List.map_take]
    by_cases few : number.toInt.toNat ≤ config.maxIterations - pass.iterations + 1
    · rw [List.take_of_length_le (by simpa using few)]
      rfl
    · -- one number more than there may be runs
      refine forM_take (loop_refused scope config (takes_nodes scope config body) _ ?_ ?_)
      · intro none
        have := congrArg List.length none
        simp only [List.length_take, List.length_map, List.length_range, List.length_nil] at this
        omega
      · simp only [List.length_take, List.length_map, List.length_range]
        omega
  | _ => rfl

/-! ### What is known of values -/

/-- A step that keeps a property of the pass, and whose value has a property. -/
def Upholds (inv : Pass σ → Prop) (post : α → Prop) (step : Eval σ α) : Prop :=
  ∀ pass, inv pass → inv (step pass).2 ∧ ∀ value, (step pass).1 = .ok value → post value

/-- A step that leaves the pass alone. -/
theorem Upholds.still {inv : Pass σ → Prop} {post : α → Prop} {result : Except Error α}
    (ends : ∀ value, result = .ok value → post value) :
    Upholds inv post (fun pass => (result, pass)) := fun _ kept => ⟨kept, ends⟩

theorem Upholds.textOf (inv : Pass σ → Prop) (value : Value) :
    Upholds inv (fun _ => True) (textOf value) := fun _ kept => ⟨kept, fun _ _ => trivial⟩

/-- **What is known of the values of a rendering**, and kept by its steps; nothing is asked of a text
that a method makes, or of an answer of a helper or a child. -/
structure Upheld (scope : Scope σ) (config : Config) (fit : Value → Prop) (inv : Pass σ → Prop) :
    Prop where
  newList : ∀ {values}, (∀ value ∈ values, fit value) →
    Upholds inv fit (Eval.make fun store => store.newList values)
  field : ∀ {target} name, fit target →
    Upholds inv (fun value => name ∉ textBuilders → fit value) (Eval.onStore (readField target name))
  index : ∀ {target place}, fit target → Upholds inv fit (Eval.onStore (readIndex target place))
  method : ∀ {receiver} name arguments, fit receiver → Upholds inv
    (fun value => name ∉ textBuilders → fit value) (Eval.onStore (callMethod receiver name arguments))
  unary : ∀ op value, Upholds inv fit (Eval.settled (Render.unary op value))
  binary : ∀ op {left right}, fit left → fit right →
    Upholds inv fit (Eval.onStore (Render.binary op config.maxOutputLength left right))
  lookup : ∀ name, Upholds inv fit (Eval.lookup scope config name)
  child : ∀ className id, Upholds inv (fun _ => True) (Eval.child scope className id)
  helper : ∀ name {arguments}, (∀ value ∈ arguments, fit value) →
    Upholds inv (fun _ => True) (Eval.helper scope name arguments)
  pairs : ∀ {iterable}, fit iterable →
    Upholds inv (fun pairs => ∀ pair ∈ pairs, fit pair.1 ∧ fit pair.2) (Eval.allPairs iterable)
  enter : ∀ item second {pair}, fit pair.1 → fit pair.2 →
    Upholds inv (fun _ => True) (Eval.enter (loopFrame item second pair))
  leave : Upholds inv (fun _ => True) Eval.leave
  bindLocal : ∀ name {value}, fit value → Upholds inv (fun _ => True) (Eval.bind name value)

/-- Of no value need anything be known. -/
theorem Upheld.trivial (scope : Scope σ) (config : Config) :
    Upheld scope config (fun _ => True) fun _ => True := by
  constructor <;> intros <;> exact fun _ _ => ⟨True.intro, by simp⟩

end Eval

/-! ### The law -/

namespace Journaled

/-- **A property of a plain step and the same step with notes** that goes on to their sequences; of the
value of a step something may be known. -/
structure Law (index : Nat) (scope : Scope σ) (config : Config) (fit : Value → Prop)
    (inv : Pass σ → Prop) (outlet : Node → Piece → Prop)
    (holds : ∀ {α : Type}, (α → Prop) → Eval σ α → (Bounds → Journaled σ α) → Prop) : Prop where
  upheld : Eval.Upheld scope config fit inv
  doing : ∀ {α : Type} {post : α → Prop} {step : Eval σ α}, step.Idle → step.Upholds inv post →
    holds post step fun _ => doing step
  bind : ∀ {α β : Type} {post : α → Prop} {last : β → Prop} {run : Eval σ α} {next : α → Eval σ β}
    {noted : Bounds → Journaled σ α} {others : Bounds → α → Journaled σ β}, holds post run noted →
    (∀ value, post value → holds last (next value) fun bounds => others bounds value) →
    holds last (run >>= next) fun bounds => noted bounds >>= others bounds
  imp : ∀ {α : Type} {post weaker : α → Prop} {run : Eval σ α} {noted : Bounds → Journaled σ α},
    holds post run noted → (∀ value, post value → weaker value) → holds weaker run noted
  value : ∀ {expr : Expr} {run : Eval σ Value} {noted : Bounds → Journaled σ Value},
    holds (fun value => expr.buildsText = false → expr.asksScope = false → fit value) run noted →
    holds fit run fun bounds => Journaled.noted index expr (noted bounds)
  put : ∀ {node piece}, outlet node piece →
    holds (fun _ => True) (Eval.push config piece) fun bounds => put bounds index config node piece
  count : holds (fun _ => True) (Eval.count config) fun bounds => count bounds index config

namespace Law

variable {scope : Scope σ} {index : Nat} {config : Config} {fit : Value → Prop}
  {inv : Pass σ → Prop} {outlet : Node → Piece → Prop}
  {holds : ∀ {α : Type}, (α → Prop) → Eval σ α → (Bounds → Journaled σ α) → Prop}

section

variable (law : Law index scope config fit inv outlet holds)

include law

theorem pure {post : α → Prop} {value : α} (ends : post value) :
    holds post (Pure.pure value) fun _ => Pure.pure value :=
  law.doing (fun _ => rfl) (.still fun _ same => Except.ok.inj same ▸ ends)

theorem refuse {post : α → Prop} (reason : String) :
    holds post (Eval.refuse reason) fun _ => Journaled.doing (Eval.refuse reason) :=
  law.doing (fun _ => rfl) (.still fun _ same => nomatch same)

theorem textOf (value : Value) :
    holds (fun _ => True) (Eval.textOf value) fun _ => Journaled.doing (Eval.textOf value) :=
  law.doing (fun _ => rfl) (.textOf inv value)

/-! ### Expressions -/

mutual

/-- **The law holds of every expression** whose literals have the property. -/
theorem expr : ∀ expr : Expr, (∀ value ∈ expr.literals, fit (Eval.literal value)) →
    holds fit (Eval.expr scope config expr) fun _ => Journaled.expr index scope config expr
  | .literal value, fits => law.value (law.pure fun _ _ => fits value (List.mem_singleton.mpr rfl))
  | .list items, fits => law.value <| law.bind (exprs items fits) fun _ each =>
    law.imp (law.doing (fun _ => rfl) (law.upheld.newList each)) fun _ fit _ _ => fit
  | .name name, _ => law.value <|
    law.imp (law.doing (Eval.idle_lookup scope config name) (law.upheld.lookup name)) fun _ fit _ _ => fit
  | .field target name, fits => law.value <| law.bind (expr target fits) fun _ fit =>
    law.imp (law.doing (fun _ => rfl) (law.upheld.field name fit)) fun _ known plain _ =>
      known (by simpa [Expr.buildsText] using plain)
  | .index target place, fits => law.value <|
    law.bind (expr target (List.forall_mem_append.mp fits).1) fun _ fit =>
      law.bind (expr place (List.forall_mem_append.mp fits).2) fun _ _ =>
        law.imp (law.doing (fun _ => rfl) (law.upheld.index fit)) fun _ fit _ _ => fit
  | .method receiver name arguments, fits => law.value <|
    law.bind (expr receiver (List.forall_mem_append.mp fits).1) fun _ fit =>
      law.bind (exprs arguments (List.forall_mem_append.mp fits).2) fun values _ =>
        law.imp (law.doing (fun _ => rfl) (law.upheld.method name values fit)) fun _ known plain _ =>
          known (by simpa [Expr.buildsText] using plain)
  | .call name arguments, fits => by
    refine law.value ?_
    unfold Eval.expr
    by_cases raw : name = "raw"
    · subst raw
      refine law.bind (exprs arguments fits) fun values _ => ?_
      rcases values with _ | ⟨value, _ | _⟩
      · exact law.refuse _
      · exact law.bind (law.textOf value) fun _ _ =>
          law.pure fun plain => absurd plain (by simp [Expr.buildsText])
      · exact law.refuse _
    have asks : (Expr.call name arguments).asksScope ≠ false := by simpa [Expr.asksScope] using raw
    simp only [if_neg raw]
    split
    · split
      · exact law.refuse _
      · refine law.bind (texts arguments fits) fun texts _ => ?_
        rcases texts with _ | ⟨className, _ | ⟨id, _ | _⟩⟩
        · exact law.refuse _
        · exact law.refuse _
        · exact law.bind (law.doing (Eval.idle_child scope className id) (law.upheld.child className id))
            fun _ _ => law.pure fun _ other => absurd other asks
        · exact law.refuse _
    · exact law.bind (exprs arguments fits) fun values each =>
        law.imp (law.doing (Eval.idle_helper scope name values) (law.upheld.helper name each))
          fun _ _ _ other => absurd other asks
  | .unary op operand, fits => law.value <| law.bind (expr operand fits) fun value _ =>
    law.imp (law.doing (fun _ => rfl) (law.upheld.unary op value)) fun _ fit _ _ => fit
  | .binary op left right, fits => by
    have ⟨first, second⟩ := List.forall_mem_append.mp fits
    have other : holds (fun value => (Expr.binary op left right).buildsText = false →
        (Expr.binary op left right).asksScope = false → fit value)
        (Eval.expr scope config right) fun _ => Journaled.expr index scope config right :=
      law.imp (expr right second) fun _ fit _ _ => fit
    refine law.value ?_
    unfold Eval.expr
    refine law.bind (expr left first) fun value fit => ?_
    -- the right side of two of the operators runs only if it is needed
    cases op with
    | and =>
      dsimp only
      split
      · exact other
      · exact law.pure fun _ _ => fit
    | or =>
      dsimp only
      split
      · exact law.pure fun _ _ => fit
      · exact other
    | _ =>
      exact law.bind (expr right second) fun _ another =>
        law.imp (law.doing (fun _ => rfl) (law.upheld.binary _ fit another)) fun _ fit _ _ => fit
  | .conditional test affirmed denied, fits => by
    have ⟨outer, third⟩ := List.forall_mem_append.mp fits
    have ⟨first, second⟩ := List.forall_mem_append.mp outer
    refine law.value ?_
    unfold Eval.expr
    refine law.bind (expr test first) fun value _ => ?_
    split
    · exact law.imp (expr affirmed second) fun _ fit _ _ => fit
    · exact law.imp (expr denied third) fun _ fit _ _ => fit

theorem exprs : ∀ exprs : List Expr,
    (∀ value ∈ Expr.literalsOf exprs, fit (Eval.literal value)) →
    holds (fun values => ∀ value ∈ values, fit value) (Eval.exprs scope config exprs)
      fun _ => Journaled.exprs index scope config exprs
  | [], _ => law.pure nofun
  | first :: rest, fits =>
    law.bind (expr first (List.forall_mem_append.mp fits).1) fun _ fit =>
      law.bind (exprs rest (List.forall_mem_append.mp fits).2) fun _ each =>
        law.pure (List.forall_mem_cons.mpr ⟨fit, each⟩)

theorem texts : ∀ exprs : List Expr,
    (∀ value ∈ Expr.literalsOf exprs, fit (Eval.literal value)) →
    holds (fun _ => True) (Eval.texts scope config exprs)
      fun _ => Journaled.texts index scope config exprs
  | [], _ => law.pure trivial
  | first :: rest, fits =>
    law.bind (expr first (List.forall_mem_append.mp fits).1) fun _ _ =>
      law.bind (law.textOf _) fun _ _ =>
        law.bind (texts rest (List.forall_mem_append.mp fits).2) fun _ _ => law.pure trivial

end

theorem output (raw : Bool) : ∀ value : Expr,
    (∀ literal ∈ value.literals, fit (Eval.literal literal)) →
    holds (value.Fills raw) (Eval.output scope config raw value)
      fun _ => Journaled.output index scope config raw value
  | .conditional test affirmed denied, fits => by
    have ⟨outer, third⟩ := List.forall_mem_append.mp fits
    have ⟨first, second⟩ := List.forall_mem_append.mp outer
    unfold Eval.output Journaled.output
    refine law.bind (law.expr test first) fun value _ => ?_
    split
    · exact law.imp (output raw affirmed second) fun _ fills plain bare =>
        fills plain (Bool.or_eq_false_iff.mp bare).1
    · exact law.imp (output raw denied third) fun _ fills plain bare =>
        fills plain (Bool.or_eq_false_iff.mp bare).2
  | .call name arguments, fits => by
    unfold Eval.output Journaled.output
    by_cases safe : name = "raw"
    · subst safe
      have markup (text : String) : (Expr.call "raw" arguments).Fills raw (.markup text) :=
        fun _ bare => absurd bare (by simp [Expr.isMarkup])
      simp only [if_pos]
      split
      · exact law.refuse _
      · refine law.bind (law.exprs arguments fits) fun values _ => ?_
        rcases values with _ | ⟨value, _ | _⟩
        · exact law.refuse _
        · exact law.bind (law.textOf value) fun text _ => law.pure (markup text)
        · exact law.refuse _
    by_cases nested : name = "child"
    · subst nested
      have markup (text : String) : (Expr.call "child" arguments).Fills raw (.markup text) :=
        fun _ bare => absurd bare (by simp [Expr.isMarkup])
      simp only [if_neg safe, if_pos]
      split
      · exact law.refuse _
      · refine law.bind (law.texts arguments fits) fun texts _ => ?_
        rcases texts with _ | ⟨className, _ | ⟨id, _ | _⟩⟩
        · exact law.refuse _
        · exact law.refuse _
        · exact law.bind (law.doing (Eval.idle_child scope className id)
            (law.upheld.child className id)) fun html _ => law.pure (markup html)
        · exact law.refuse _
    simp only [if_neg safe, if_neg nested]
    exact law.bind (law.expr _ fits) fun _ _ => law.bind (law.textOf _) fun text _ =>
      law.pure (Eval.fills_piece _ raw text)
  | .literal _, fits | .list _, fits | .name _, fits | .field _ _, fits | .index _ _, fits
  | .method _ _ _, fits | .unary _ _, fits | .binary _ _ _, fits =>
    law.bind (law.expr _ fits) fun _ _ => law.bind (law.textOf _) fun text _ =>
      law.pure (Eval.fills_piece _ raw text)

/-! ### Nodes -/

theorem forM {turn : Value × Value → Eval σ PUnit} {noted : Bounds → Value × Value → Journaled σ PUnit}
    (each : ∀ pair, fit pair.1 ∧ fit pair.2 →
      holds (fun _ => True) (turn pair) fun bounds => noted bounds pair) :
    ∀ pairs : List (Value × Value), (∀ pair ∈ pairs, fit pair.1 ∧ fit pair.2) →
      holds (fun _ => True) (pairs.forM turn) fun bounds => pairs.forM (noted bounds)
  | [], _ => law.pure trivial
  | first :: rest, fits =>
    law.bind (each first (List.forall_mem_cons.mp fits).1) fun _ _ =>
      forM each rest (List.forall_mem_cons.mp fits).2

mutual

/-- **The law holds of every node** whose literals have the property, and of whose texts and output tags
it is known that they put out what they may. -/
theorem node : ∀ node : Node, (∀ literal ∈ node.literals, fit (Eval.literal literal)) →
    (∀ place ∈ node.outlets, ∀ piece, place.Puts piece → outlet place piece) →
    holds (fun _ => True) (Eval.node scope config node)
      fun bounds => Journaled.node bounds index config scope node
  | .text text, _, outlets => law.put (outlets _ (List.mem_singleton.mpr rfl) _ rfl)
  | .output value raw, fits, outlets =>
    law.bind (law.output raw value fits) fun piece fills =>
      law.put (outlets _ (List.mem_singleton.mpr rfl) piece fills)
  | .choice choices, fits, outlets => branches choices fits outlets
  | .loop item second iterable body, fits, outlets => by
    rw [Eval.loop_eq]
    refine law.bind (law.expr iterable (List.forall_mem_append.mp fits).1) fun value fit => ?_
    refine law.bind (law.doing (Eval.idle_allPairs value) (law.upheld.pairs fit)) fun pairs each => ?_
    refine law.forM (fun pair fit => ?_) pairs each
    refine law.bind law.count fun _ _ => ?_
    refine law.bind (law.doing (fun _ => rfl) (law.upheld.enter item second fit.1 fit.2)) fun _ _ => ?_
    refine law.bind (nodes body (List.forall_mem_append.mp fits).2 outlets) fun _ _ => ?_
    exact law.doing (fun _ => rfl) law.upheld.leave
  | .bind name value, fits, _ =>
    law.bind (law.expr value fits) fun value fit =>
      law.doing (Eval.idle_bind name value) (law.upheld.bindLocal name fit)

theorem branches : ∀ choices : Branches,
    (∀ literal ∈ choices.literals, fit (Eval.literal literal)) →
    (∀ place ∈ choices.outlets, ∀ piece, place.Puts piece → outlet place piece) →
    holds (fun _ => True) (Eval.branches scope config choices)
      fun bounds => Journaled.branches bounds index config scope choices
  | .otherwise body, fits, outlets => nodes body fits outlets
  | .branch test body rest, fits, outlets => by
    have ⟨outer, third⟩ := List.forall_mem_append.mp fits
    have ⟨first, second⟩ := List.forall_mem_append.mp outer
    have ⟨here, there⟩ := List.forall_mem_append.mp outlets
    unfold Eval.branches
    refine law.bind (law.expr test first) fun value _ => ?_
    split
    · exact nodes body second here
    · exact branches rest third there

theorem nodes : ∀ nodes : List Node,
    (∀ literal ∈ Node.literalsOf nodes, fit (Eval.literal literal)) →
    (∀ place ∈ Node.outletsOf nodes, ∀ piece, place.Puts piece → outlet place piece) →
    holds (fun _ => True) (Eval.nodes scope config nodes)
      fun bounds => Journaled.nodes bounds index config scope nodes
  | [], _, _ => law.pure trivial
  | first :: rest, fits, outlets =>
    law.bind (node first (List.forall_mem_append.mp fits).1 (List.forall_mem_append.mp outlets).1)
      fun _ _ => nodes rest (List.forall_mem_append.mp fits).2 (List.forall_mem_append.mp outlets).2

end

end

end Law

end Journaled

end Render

end ReactiveView
