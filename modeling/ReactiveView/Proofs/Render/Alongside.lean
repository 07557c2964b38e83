/-
**Whole renderings side by side.**

Two renderings of one template whose calls are answered alike, in surroundings that correspond as closely
as can be, bring the same for every part, or fail with the same error; and in either case they end in
corresponding surroundings.

* `Lockstep.abreast_runParts` — the parts, one after the other.
* `Lockstep.alike_render` — two renderings.
* `render_eq_of_dense` — what a dense rendering brings does not depend on what counts as changed.
-/

import ReactiveView.Proofs.Render.Parts

namespace ReactiveView.Render

variable {σ τ α β : Type}

namespace Lockstep

/-- Two runs between parts: everything is known alike. -/
structure Level (lock : Lockstep σ τ) (stage : lock.Stage) (frames others : Frames) : Prop where
  openLeft : frames ≠ []
  openRight : others ≠ []
  met : ∀ name, lock.Met stage name (Eval.findLocal frames name) (Eval.findLocal others name)

section

variable {lock : Lockstep σ τ} {frames others : Frames} {stage : lock.Stage}

theorem abreast_inPart {next : lock.Stage → Frames → Frames → α → β → Prop} {run : Eval σ α}
    {other : Eval τ β} (abreast : lock.Abreast .exact frames others stage next run other)
    (index : Nat) (source : String) :
    lock.Abreast .exact frames others stage next (inPart index source run)
      (inPart index source other) := by
  intro left right beside
  have met := abreast left right beside
  unfold inPart
  generalize run left = reached, other right = arrived at met ⊢
  cases met with
  | ok later le then' beside => exact .ok later le then' beside
  | errors same => exact .errors fun exact => (same exact).imp_left (congrArg (Error.render _ _))
  | leftFails apart => exact absurd rfl apart
  | rightFails apart => exact absurd rfl apart

variable {left : Scope σ} {right : Scope τ} (law : lock.Lawful left right) (config : Config)
include law

/-- One part, whether its output is wanted or only its locals. -/
theorem abreast_runPart {node : Node} (answered : ∀ name ∈ node.calls, lock.Answered name)
    (rendersChildren : Bool) (level : lock.Level stage frames others) :
    lock.Abreast .exact frames others stage
      (fun later fs os output other => output = other ∧ lock.Level later fs os)
      (runPart left config rendersChildren node) (runPart right config rendersChildren node) := by
  have opened : lock.Abreast .exact frames others stage
      (fun later fs os _ _ => later = stage ∧ fs = frames ∧ os = others)
      (modify fun pass => { pass with
        pieces := [], size := 0, rendersChildren, direct := [], rendered := [] } : Eval σ Unit)
      (modify fun pass => { pass with
        pieces := [], size := 0, rendersChildren, direct := [], rendered := [] } : Eval τ Unit) :=
    fun _ _ beside => .ok stage le_rfl ⟨rfl, beside.frames, beside.others⟩
      ⟨beside.around, rfl, rfl, fun _ => ⟨rfl, rfl, rfl, rfl⟩, fun _ _ => rfl, beside.counted⟩
  have fitting : lock.Fitting .exact left right := ⟨law, fun hidden => nomatch hidden⟩
  refine opened.bind fun later le fs os _ _ same => ?_
  obtain ⟨rfl, rfl, rfl⟩ := same
  have prepared : lock.Prepared .exact fs os later node.reads node.decisions node.calls :=
    .of_visible (by decide) (fun name _ => level.met name) fun name member =>
      Or.inr (answered name member)
  refine ((abreast_node fitting node level.openLeft level.openRight prepared).shifted
    (Eval.takes_node left config node) (Eval.takes_node right config node)).bind
    fun last more fs' os' _ _ found => ?_
  obtain ⟨carries, shifted, opposed⟩ := found
  intro l r beside
  have shown := beside.shown (by decide)
  refine .ok last le_rfl ⟨?_, beside.frames ▸ shifted.opened level.openLeft,
    beside.others ▸ opposed.opened level.openRight, fun name => ?_⟩ ?_
  · rw [shown.pieces, shown.direct, shown.rendered]
  · rw [beside.frames, beside.others]
    exact carries.kept name (level.met name)
  · exact ⟨beside.around, rfl, rfl, beside.shown, beside.children, beside.counted⟩

/-- **The parts of a template side by side.** -/
theorem abreast_runParts {parts : List Part}
    (answered : ∀ part, Part.dynamic part ∈ parts → ∀ name ∈ part.node.calls, lock.Answered name)
    (dense : Bool) (dirty : Dirty) (index : Nat) (dirtyLocals : NameSet)
    (level : lock.Level stage frames others) :
    lock.Abreast .exact frames others stage (fun _ _ _ brought other => brought = other)
      (runParts left config dense dirty index dirtyLocals parts)
      (runParts right config dense dirty index dirtyLocals parts) := by
  have done {stage : lock.Stage} {frames others : Frames}
      (brought : List Slot × List String) :
      lock.Abreast .exact frames others stage (fun _ _ _ brought other => brought = other)
        (pure brought : Eval σ _) (pure brought : Eval τ _) := fun _ _ beside =>
    .ok stage le_rfl rfl ⟨beside.around, rfl, rfl, beside.shown, beside.children, beside.counted⟩
  induction parts generalizing index dirtyLocals stage frames others with
  | nil => exact done _
  | cons part rest ih =>
    have others {stage : lock.Stage} {frames others : Frames} (index : Nat) (dirtyLocals : NameSet)
        (level : lock.Level stage frames others) :=
      ih (fun part member => answered part (List.mem_cons_of_mem _ member)) index dirtyLocals level
    cases part with
    | fixed text =>
      refine (others _ _ level).bind fun _ _ _ _ _ _ same => ?_
      subst same
      exact done _
    | dynamic part =>
      have here (rendersChildren : Bool) := abreast_inPart (abreast_runPart law config
        (answered part List.mem_cons_self) rendersChildren level) index part.source
      unfold runParts
      split
      · refine (here true).bind fun _ _ _ _ _ _ found => ?_
        obtain ⟨rfl, level⟩ := found
        refine (others _ _ level).bind fun _ _ _ _ _ _ same => ?_
        subst same
        exact done _
      · split
        · refine (others _ _ level).bind fun _ _ _ _ _ _ same => ?_
          subst same
          exact done _
        · refine (here false).bind fun _ _ _ _ _ _ found => ?_
          refine (others _ _ found.2).bind fun _ _ _ _ _ _ same => ?_
          subst same
          exact done _

/-- **Two renderings side by side** give the same, and end in corresponding surroundings. -/
theorem alike_render {template : Template}
    (answered : ∀ part, Part.dynamic part ∈ template.parts → ∀ name ∈ part.node.calls,
      lock.Answered name)
    (dirty : Dirty) (view : ClientView) {world : σ} {other : τ} {store opposed : Store}
    (around : lock.Around stage (world, store) (other, opposed))
    (met : ∀ name, lock.Met stage name none none) :
    let (result, seen, after) := render template dirty view left config world store
    let (answer, shown, opposite) := render template dirty view right config other opposed
    result = answer ∧ seen = shown ∧ ∃ later, lock.Around later after opposite := by
  have level : lock.Level stage [OrderedMap.empty] [OrderedMap.empty] :=
    ⟨List.cons_ne_nil _ _, List.cons_ne_nil _ _, met⟩
  have beside : lock.Beside .exact stage [OrderedMap.empty] [OrderedMap.empty]
      (Pass.start world store) (Pass.start other opposed) :=
    ⟨around, rfl, rfl, fun _ => ⟨rfl, rfl, rfl, rfl⟩, fun _ _ => rfl, fun _ => rfl⟩
  have ended := abreast_runParts law config answered (isDense template dirty view) dirty 0
    NameSet.empty level _ _ beside
  simp only [render, ExceptT.run]
  generalize runParts left config _ dirty 0 NameSet.empty template.parts (Pass.start world store) =
    reached, runParts right config _ dirty 0 NameSet.empty template.parts
    (Pass.start other opposed) = arrived at ended ⊢
  cases ended with
  | ok later _ same beside =>
    subst same
    exact ⟨rfl, rfl, later, beside.around⟩
  | errors same =>
    obtain ⟨rfl, later, around⟩ := same rfl
    exact ⟨rfl, rfl, later, around⟩
  | leftFails apart => exact absurd rfl apart
  | rightFails apart => exact absurd rfl apart

end

end Lockstep

/-! ### Dense renderings -/

variable (scope : Scope σ) (config : Config)

/-- Where every part is rendered it does not matter what counts as changed. -/
theorem runParts_eq_of_dense (dirty other : Dirty) (index : Nat) (dirtyLocals others : NameSet)
    (parts : List Part) :
    runParts scope config true dirty index dirtyLocals parts =
      runParts scope config true other index others parts := by
  induction parts generalizing index dirtyLocals others with
  | nil => rfl
  | cons part rest ih =>
    cases part with
    | fixed text => simp only [runParts, ih (index + 1) dirtyLocals others]
    | dynamic part =>
      simp only [runParts, isAffected_dense, if_true,
        ih (index + 1) (dirtyLocals.union part.locals) (others.union part.locals)]

/-- **What a dense rendering brings** does not depend on what counts as changed, nor on the view. -/
theorem render_eq_of_dense {template : Template} {dirty other : Dirty} {view before : ClientView}
    (dense : isDense template dirty view = true) (whole : isDense template other before = true)
    (world : σ) (store : Store) :
    (render template dirty view scope config world store).1 =
        (render template other before scope config world store).1 ∧
      (render template dirty view scope config world store).2.2 =
        (render template other before scope config world store).2.2 := by
  simp only [render, dense, whole, runParts_eq_of_dense scope config dirty other 0 NameSet.empty
    NameSet.empty template.parts]
  generalize (runParts scope config true other 0 NameSet.empty template.parts).run
    (Pass.start world store) = reached
  obtain ⟨error | brought, pass⟩ := reached <;> exact ⟨rfl, rfl⟩

end ReactiveView.Render
