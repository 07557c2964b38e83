/-
**An output tag shows the value of its expression.**

An output tag does not take the value of its expression: it goes through conditionals by itself, and takes the
texts of `raw` and `child` where it finds them. Yet what it puts out is the text of the value. So the value
may as well get a name first, and the name be put out: the client has the same markup and the same children,
and the surroundings are asked the same questions in the same order.

* `Eval.Concur`, `Eval.concur_output` — an output tag and the value of its expression fail together, or
  do the same.
* `Eval.output_of_ok` — what an output tag puts out is the text of the value.
* `Scope.tallying`, `Render.asked` — the questions of a rendering, in order.
* `Render.output_of_named` — a rendering of an expression, and one where its value has a name first.
-/

import ReactiveView.Proofs.Render.Calls
import ReactiveView.Proofs.Render.Idle
import ReactiveView.Proofs.Template.Naming

namespace ReactiveView

variable {σ α β : Type}

namespace Render

namespace Eval

/-! ### Steps that fail together -/

/-- A step fails with a pass. -/
def Fails (step : Eval σ α) (pass : Pass σ) : Prop := ∃ error after, step pass = (.error error, after)

/-- A sequence fails if what is left of it fails wherever its first step leads. -/
theorem Fails.behind {step : Eval σ α} {next : α → Eval σ β} {pass : Pass σ}
    (later : ∀ value after, step pass = (.ok value, after) → Fails (next value) after) :
    Fails (step >>= next) pass := by
  unfold Fails
  rw [bind_apply]
  rcases ran : step pass with ⟨error | value, after⟩
  · exact ⟨error, after, rfl⟩
  · exact later value after ran

/-- **Two steps that do the same, unless both fail.** -/
def Concur (step other : Eval σ α) : Prop :=
  ∀ pass, step pass = other pass ∨ Fails step pass ∧ Fails other pass

namespace Concur

theorem refl (step : Eval σ α) : Concur step step := fun _ => Or.inl rfl

/-- Steps concur if they begin alike and go on with steps that concur. -/
theorem bind (step : Eval σ α) {next other : α → Eval σ β}
    (later : ∀ value, Concur (next value) (other value)) : Concur (step >>= next) (step >>= other) := by
  intro pass
  unfold Fails
  rw [bind_apply, bind_apply]
  rcases step pass with ⟨error | value, after⟩
  · exact Or.inl rfl
  · exact later value after

end Concur

/-! ### Output tags -/

variable (scope : Scope σ) (config : Config)

/-- There are as many values as expressions. -/
theorem length_of_exprs {expressions : List Expr} {pass after : Pass σ} {values : List Value}
    (ran : exprs scope config expressions pass = (.ok values, after)) :
    values.length = expressions.length := by
  induction expressions generalizing pass after values with
  | nil =>
    cases ran
    rfl
  | cons first rest ih =>
    unfold exprs at ran
    rw [bind_apply] at ran
    split at ran
    · rw [bind_apply] at ran
      split at ran
      · next middle others _ behind =>
        cases ran
        rw [List.length_cons, List.length_cons, ih behind]
      · cases ran
    · cases ran

/-- The markup that the value of an expression is, as it is put out. -/
def shown (value : Expr) : Eval σ Piece := do
  let value ← expr scope config value
  return .markup (← textOf value)

/-- A tag with `raw` counts the arguments before it evaluates them, the value counts them behind: where there is
another number of them than one, both fail. -/
theorem concur_raw (arguments : List Expr) :
    Concur (output scope config true (.call "raw" arguments))
      (shown scope config (.call "raw" arguments)) := by
  unfold output shown expr
  simp only [if_true, bind_assoc]
  split
  · next arity =>
    refine fun pass => Or.inr ⟨⟨_, pass, rfl⟩, .behind fun values after ran => ?_⟩
    rw [← length_of_exprs scope config ran] at arity
    rcases values with _ | ⟨_, _ | ⟨_, _⟩⟩
    · exact ⟨_, after, rfl⟩
    · exact absurd rfl arity
    · exact ⟨_, after, rfl⟩
  · refine .bind _ fun values pass => ?_
    rcases values with _ | ⟨_, _ | ⟨_, _⟩⟩ <;> exact Or.inl rfl

theorem concur_child (arguments : List Expr) :
    Concur (output scope config true (.call "child" arguments))
      (shown scope config (.call "child" arguments)) := by
  unfold output shown expr
  simp only [if_true, String.reduceEq, if_false]
  split
  · exact fun pass => Or.inl rfl
  · rw [bind_assoc]
    refine .bind _ fun texts => ?_
    rcases texts with _ | ⟨className, _ | ⟨id, _ | ⟨_, _⟩⟩⟩
    · exact .refl _
    · exact .refl _
    · simp only [bind_assoc, pure_bind]
      exact .refl _
    · exact .refl _

/-- **An output tag and the value of its expression concur.** -/
theorem concur_output : ∀ value : Expr,
    Concur (output scope config true value) (shown scope config value)
  | .conditional test affirmed denied => by
    rw [output, shown, expr, bind_assoc]
    refine .bind _ fun value => ?_
    split
    · exact concur_output affirmed
    · exact concur_output denied
  | .call name arguments => by
    by_cases raw : name = "raw"
    · subst raw
      exact concur_raw scope config arguments
    by_cases child : name = "child"
    · subst child
      exact concur_child scope config arguments
    · unfold output
      rw [if_neg raw, if_neg child]
      exact .refl _
  | .literal _ | .list _ | .name _ | .field _ _ | .index _ _ | .method _ _ _ | .unary _ _
  | .binary _ _ _ => .refl _

/-! ### The text of a value -/

variable {scope config} {value : Expr} {pass after : Pass σ} {result : Value}

/-- An output tag fails if its expression does. -/
theorem fails_output (fails : Fails (expr scope config value) pass) :
    Fails (output scope config true value) pass := by
  obtain ⟨error, after, failed⟩ := fails
  have shows : Fails (shown scope config value) pass := by
    refine ⟨error, after, ?_⟩
    rw [shown, bind_apply, failed]
  rcases concur_output scope config value pass with same | ⟨fails, _⟩
  · unfold Fails
    rwa [same]
  · exact fails

/-- **What an output tag puts out is the text of the value of its expression.** -/
theorem output_of_ok (ran : expr scope config value pass = (.ok result, after)) :
    output scope config true value pass = (.ok (.markup (result.text after.store)), after) := by
  have puts : shown scope config value pass = (.ok (.markup (result.text after.store)), after) := by
    rw [shown, bind_apply, ran]
    rfl
  rcases concur_output scope config value pass with same | ⟨_, error, failed, fails⟩
  · rw [same, puts]
  · rw [puts] at fails
    cases fails

/-- A name that was just given is read without asking. -/
theorem lookup_rebound {name : String} {frames : Frames} (opened : frames ≠ [])
    (given : pass.frames = rebound name result frames) :
    lookup scope config name pass = (.ok result, pass) := by
  rw [Lockstep.lookup_apply, given, Lockstep.findLocal_rebound_self opened]
  rfl

/-! ### One tag and two -/

/-- An output tag adds the text of the value to the output. -/
theorem node_output (ran : expr scope config value pass = (.ok result, after)) :
    node scope config (.output value true) pass =
      push config (.markup (result.text after.store)) after := by
  unfold node
  rw [bind_apply, output_of_ok ran]

theorem fails_node_output (fails : Fails (expr scope config value) pass) :
    Fails (node scope config (.output value true)) pass := by
  obtain ⟨error, after, failed⟩ := fails_output fails
  refine ⟨error, after, ?_⟩
  unfold node
  rw [bind_apply, failed]

/-- A tag that gives the value a name prints nothing. -/
theorem node_bind (name : String) (ran : expr scope config value pass = (.ok result, after)) :
    node scope config (.bind name value) pass =
      (.ok (), { after with frames := rebound name result after.frames }) := by
  unfold node
  rw [bind_apply, ran]
  exact bind_eq name result after

theorem fails_node_bind (name : String) (fails : Fails (expr scope config value) pass) :
    Fails (node scope config (.bind name value)) pass := by
  obtain ⟨error, after, failed⟩ := fails
  refine ⟨error, after, ?_⟩
  unfold node
  rw [bind_apply, failed]

end Eval

/-! ### Renderings -/

section

variable {scope : Scope σ} {config : Config} {dense : Bool} {dirty : Dirty} {index : Nat}
  {dirtyLocals : NameSet} {part : DynamicPart} {rest : List Part} {pass after : Pass σ}

theorem runParts_rendered (affected : isAffected dense dirty dirtyLocals part = true)
    (ran : Eval.node scope config part.node (pass.openPart true) = (.ok (), after)) :
    runParts scope config dense dirty index dirtyLocals (.dynamic part :: rest) pass =
      (runParts scope config dense dirty (index + 1) (dirtyLocals.union part.locals) rest >>=
        fun others => Pure.pure (after.slot :: others.1, after.rendered ++ others.2)) after := by
  rw [runParts, if_pos affected, Eval.bind_apply, inPart, runPart_of_ok ran]
  rfl

theorem fails_runParts (affected : isAffected dense dirty dirtyLocals part = true)
    (fails : Eval.Fails (Eval.node scope config part.node) (pass.openPart true)) :
    Eval.Fails (runParts scope config dense dirty index dirtyLocals (.dynamic part :: rest)) pass := by
  obtain ⟨error, after, failed⟩ := fails
  refine ⟨.render index part.source error, after, ?_⟩
  rw [runParts, if_pos affected, Eval.bind_apply, inPart, runPart_of_error failed]

/-- A pass whose output is some markup. -/
def Pass.printing (pass : Pass σ) (html : String) : Pass σ :=
  { pass with pieces := [.markup html], size := html.utf8ByteSize }

theorem slot_printing (html : String) : (pass.printing html).slot = ⟨some html, some pass.direct⟩ := by
  simp [Pass.slot, Pass.printing, Piece.join, Piece.html, String.join]

/-- Markup that is no larger than the limit is all of an output that was empty. -/
theorem push_markup {html : String} (pieces : pass.pieces = []) (size : pass.size = 0)
    (fits : html.utf8ByteSize ≤ config.maxOutputLength) :
    Eval.push config (.markup html) pass = (.ok (), pass.printing html) := by
  rw [Eval.push_apply, pieces, size, Nat.zero_add]
  exact if_neg (Nat.not_lt.mpr fits)

theorem fails_push_markup {html : String} (size : pass.size = 0)
    (tooLong : config.maxOutputLength < html.utf8ByteSize) :
    Eval.Fails (Eval.push config (.markup html)) pass := by
  unfold Eval.Fails
  rw [Eval.push_apply, size, Nat.zero_add]
  exact ⟨_, pass, if_pos tooLong⟩

/-- **A value with a name first.** -/
theorem runParts_named {value : Expr} {name : String} {whole front back : DynamicPart}
    (output : whole.node = .output value true) (binds : front.node = .bind name value)
    (outputs : back.node = .output (.name name) true) (opened : pass.frames ≠ []) :
    (Eval.Fails (runParts scope config true dirty 0 NameSet.empty [.dynamic whole]) pass ∧
      Eval.Fails (runParts scope config true dirty 0 NameSet.empty [.dynamic front, .dynamic back]) pass) ∨
    ∃ html children inside after last,
      runParts scope config true dirty 0 NameSet.empty [.dynamic whole] pass =
        (.ok ([⟨some html, some children⟩], inside), after) ∧
      runParts scope config true dirty 0 NameSet.empty [.dynamic front, .dynamic back] pass =
        (.ok ([⟨some "", some children⟩, ⟨some html, some []⟩], inside), last) ∧
      last.around = after.around := by
  rcases ran : Eval.expr scope config value (pass.openPart true) with ⟨error | result, after⟩
  · have fails : Eval.Fails (Eval.expr scope config value) (pass.openPart true) := ⟨error, after, ran⟩
    refine Or.inl ⟨fails_runParts isAffected_dense ?_, fails_runParts isAffected_dense ?_⟩
    · rw [output]
      exact Eval.fails_node_output fails
    · rw [binds]
      exact Eval.fails_node_bind name fails
  · have books := (Eval.idle scope config).expr value (pass.openPart true)
    have frames := (((Eval.keeps scope config).expr value).1 (pass.openPart true)).2 result (by rw [ran])
    rw [ran] at books frames
    obtain ⟨pieces, size, -⟩ : after.pieces = [] ∧ after.size = 0 ∧ _ := by
      simpa [Pass.books, Pass.openPart] using books
    have still : after.frames ≠ [] := frames ▸ opened
    let named : Pass σ := { after with frames := Eval.rebound name result after.frames }
    have gives : Eval.node scope config front.node (pass.openPart true) = (.ok (), named) := by
      rw [binds]
      exact Eval.node_bind name ran
    have reads : Eval.expr scope config (.name name) (named.openPart true) =
        (.ok result, named.openPart true) := Eval.lookup_rebound still rfl
    by_cases fits : (result.text after.store).utf8ByteSize ≤ config.maxOutputLength
    · have shows : Eval.node scope config whole.node (pass.openPart true) =
          (.ok (), after.printing (result.text after.store)) := by
        rw [output, Eval.node_output ran]
        exact push_markup pieces size fits
      have shown : Eval.node scope config back.node (named.openPart true) =
          (.ok (), (named.openPart true).printing (result.text after.store)) := by
        rw [outputs, Eval.node_output reads]
        exact push_markup rfl rfl fits
      refine Or.inr ⟨result.text after.store, after.direct, after.rendered,
        after.printing (result.text after.store),
        (named.openPart true).printing (result.text after.store), ?_, ?_, rfl⟩
      · rw [runParts_rendered isAffected_dense shows, slot_printing, runParts, pure_bind, List.append_nil]
        rfl
      · have silent : named.slot = ⟨some "", some after.direct⟩ := by
          rw [Pass.slot, show named.pieces = [] from pieces]
          rfl
        rw [runParts_rendered isAffected_dense gives, silent, Eval.bind_apply,
          runParts_rendered isAffected_dense shown, slot_printing, runParts, pure_bind]
        exact congrArg (fun inside => (Except.ok (_, inside), _)) (List.append_nil after.rendered)
    · have tooLong : config.maxOutputLength < (result.text after.store).utf8ByteSize :=
        Nat.lt_of_not_le fits
      refine Or.inl ⟨fails_runParts isAffected_dense ?_, ?_⟩
      · rw [output]
        unfold Eval.Fails
        rw [Eval.node_output ran]
        exact fails_push_markup size tooLong
      · have fails : Eval.Fails (Eval.node scope config back.node) (named.openPart true) := by
          rw [outputs]
          unfold Eval.Fails
          rw [Eval.node_output reads]
          exact fails_push_markup rfl tooLong
        obtain ⟨error, last, failed⟩ := fails_runParts isAffected_dense fails
        refine ⟨error, last, ?_⟩
        rw [runParts_rendered isAffected_dense gives, Eval.bind_apply, failed]

end

end Render

/-! ### Questions -/

/-- A question to a scope. -/
inductive Scope.Question where
  | lookup (name : String)
  | call (name : String) (arguments : List Value)
  | child (className id : String)

/-- A scope that notes what it is asked, in order. -/
def Scope.tallying (scope : Scope σ) : Scope (σ × List Scope.Question) where
  lookup name world store :=
    let (result, after, stored) := scope.lookup name world.1 store
    (result, (after, world.2 ++ [.lookup name]), stored)
  call name arguments world store :=
    let (result, after, stored) := scope.call name arguments world.1 store
    (result, (after, world.2 ++ [.call name arguments]), stored)
  renderChild className id world store :=
    let (result, after, stored) := scope.renderChild className id world.1 store
    (result, (after, world.2 ++ [.child className id]), stored)

theorem Scope.tallying_mirrors (scope : Scope σ) :
    scope.Mirrors scope.tallying (fun world noted => world = noted.1) fun _ => False where
  lookup := by
    rintro _ noted rfl name store
    exact .same rfl
  call := by
    rintro _ noted rfl name arguments store
    exact .same rfl
  child := by
    rintro _ noted rfl className id store
    exact .same rfl
  lookupOut := nofun
  callOut := nofun
  childOut := nofun

namespace Render

/-- **The questions of a rendering**, in order. -/
def asked (template : Template) (dirty : Dirty) (view : ClientView) (scope : Scope σ)
    (config : Config) (world : σ) (store : Store) : List Scope.Question :=
  (render template dirty view scope.tallying config (world, []) store).2.2.1.2

/-- A rendering is the same when its questions are noted. -/
theorem render_tallying (template : Template) (dirty : Dirty) (view : ClientView) (scope : Scope σ)
    (config : Config) (world : σ) (store : Store) :
    let (result, seen, after, stored) := render template dirty view scope config world store
    render template dirty view scope.tallying config (world, []) store =
      (result, seen, (after, asked template dirty view scope config world store), stored) :=
  render_with_notes scope.tallying_mirrors template dirty view config world [] store

/-! ### Two templates -/

/-- **Two renderings that show the same**: both fail, or both succeed, and then the client has the same markup
and the same live children from both, the same was rendered inside, and the surroundings are the same. -/
inductive ShowsAlike : Except Error Rendered × ClientView × σ × Store →
    Except Error Rendered × ClientView × σ × Store → Prop
  | failed {first second : Error} {left right : ClientView × σ × Store} :
    ShowsAlike (.error first, left) (.error second, right)
  | shown {first second : Rendered} {seen beheld : ClientView} {around : σ × Store}
    (html : seen.html = beheld.html) (children : seen.liveChildren = beheld.liveChildren)
    (inside : first.renderedChildren = second.renderedChildren) :
    ShowsAlike (.ok first, seen, around) (.ok second, beheld, around)

section

variable {direct named : Template} {value : Expr} {name : String} {whole front back : DynamicPart}
  {dirty : Dirty} {view : ClientView} (alone : direct.parts = [.dynamic whole])
  (apart : named.parts = [.dynamic front, .dynamic back]) (variant : named.variant = direct.variant)
  (output : whole.node = .output value true) (binds : front.node = .bind name value)
  (outputs : back.node = .output (.name name) true) (dense : isDense direct dirty view = true)

include alone apart variant output binds outputs dense

/-- A template of an output tag, and one where the value has a name first, show the same. -/
theorem showsAlike_of_parts (scope : Scope σ) (config : Config) (world : σ) (store : Store) :
    ShowsAlike (render direct dirty view scope config world store)
      (render named dirty view scope config world store) := by
  have denseNamed : isDense named dirty view = true := by
    rw [← dense, isDense, isDense, variant]
  have opened : (Pass.start world store).frames ≠ [] := List.cons_ne_nil _ _
  unfold render
  simp only [ExceptT.run, dense, denseNamed, alone, apart]
  have either := @runParts_named _ scope config dirty _ _ _ _ _ _ output binds outputs opened
  rcases either with ⟨⟨error, after, failed⟩, other, last, fails⟩ |
    ⟨html, children, inside, after, last, shows, shown, around⟩
  · rw [failed, fails]
    exact .failed
  · obtain ⟨same, stored⟩ := Prod.mk.inj around
    rw [shows, shown]
    simp only [same, stored]
    refine .shown ?_ ?_ rfl
    · simp [ClientView.commit, ClientView.html, Rendered.markup, String.join]
    · simp [ClientView.commit, ClientView.liveChildren]

/-- Where both succeed they have asked the same. -/
theorem asked_of_parts {scope : Scope σ} {config : Config} {world : σ} {store : Store}
    {rendered : Rendered} (ran : (render direct dirty view scope config world store).1 = .ok rendered) :
    asked direct dirty view scope config world store =
      asked named dirty view scope config world store := by
  -- when notes are taken of the questions, the surroundings are the same down to the notes
  have noted := showsAlike_of_parts alone apart variant output binds outputs dense scope.tallying config
    (world, []) store
  have succeeds : (render direct dirty view scope.tallying config (world, []) store).1 = .ok rendered := by
    rw [render_tallying]
    exact ran
  unfold asked
  generalize render direct dirty view scope.tallying config (world, []) store = first,
    render named dirty view scope.tallying config (world, []) store = second at noted succeeds ⊢
  cases noted with
  | failed => cases succeeds
  | shown => rfl

end

/--
**An output tag shows the value of its expression.** Whatever the expression is, and whatever name its value
gets first, also one that the expression reads: a rendering of all of `<%== e %>` and one of
`<% let v = e %><%== v %>` both fail, or both succeed. Then they show the same, and have asked the scope for
the same names, calls and children in the same order.
-/
theorem output_of_named {name code : String} {value : Expr} (fits : Token.isName name = true)
    (accepts : Expr.ofText? code.toList = some value) (className variant : String) :
    ∃ direct named,
      Template.compile className variant (Template.outputSource true code) = .ok direct ∧
      Template.compile className variant (Template.namedSource name code) = .ok named ∧
      ∀ {σ : Type} (scope : Scope σ) (config : Config) (dirty : Dirty) (view : ClientView) (world : σ)
        (store : Store), isDense direct dirty view = true →
        ShowsAlike (render direct dirty view scope config world store)
          (render named dirty view scope config world store) ∧
        ((∃ rendered, (render direct dirty view scope config world store).1 = .ok rendered) →
          asked direct dirty view scope config world store =
            asked named dirty view scope config world store) := by
  obtain ⟨whole, output, compiled⟩ :=
    Template.exists_compile_outputTag accepts true className variant
  obtain ⟨front, back, binds, outputs, compiledNamed⟩ :=
    Template.exists_compile_namedSource fits accepts className variant
  let direct : Template := ⟨className, variant, Template.outputSource true code, [.dynamic whole]⟩
  let named : Template :=
    ⟨className, variant, Template.namedSource name code, [.dynamic front, .dynamic back]⟩
  have alone : direct.parts = [.dynamic whole] := rfl
  have apart : named.parts = [.dynamic front, .dynamic back] := rfl
  refine ⟨direct, named, compiled, compiledNamed,
    fun scope config dirty view world store dense => ⟨?_, ?_⟩⟩
  · exact showsAlike_of_parts alone apart rfl output binds outputs dense scope config world store
  · rintro ⟨rendered, ran⟩
    exact asked_of_parts alone apart rfl output binds outputs dense ran

/-- A conditional with `raw`, `child` and another conditional in it. -/
def nestedMarkup : String := " ok ? raw(title) : (other ? child(\"Item\", id) : raw(1, 2)) "

theorem output_of_named_of_nestedMarkup :
    ∃ value, Expr.ofText? nestedMarkup.toList = some value ∧
      ∃ direct named,
        Template.compile "Page" "html" ("<%==" ++ nestedMarkup ++ "%>") = .ok direct ∧
        Template.compile "Page" "html" ("<% let v =" ++ nestedMarkup ++ "%><%== v %>") = .ok named ∧
        ∀ values : OrderedMap String Value,
          ShowsAlike
            (render direct .all .empty (Scope.ofVariables values) Config.default () Store.empty)
            (render named .all .empty (Scope.ofVariables values) Config.default () Store.empty) := by
  have read : (Expr.ofText? nestedMarkup.toList).isSome = true := by decide +kernel
  obtain ⟨value, accepts⟩ := Option.isSome_iff_exists.mp read
  obtain ⟨direct, named, compiled, compiledNamed, alike⟩ :=
    output_of_named (show Token.isName "v" = true by decide) accepts "Page" "html"
  exact ⟨value, accepts, direct, named, compiled, compiledNamed,
    fun values => (alike (Scope.ofVariables values) Config.default .all .empty () Store.empty rfl).1⟩

end Render

end ReactiveView
