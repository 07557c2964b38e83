/-
**A rendering, part by part.**

What a rendering brings for each part is told here by one equation for each kind of part: fixed
text, a part that is rendered, one that is skipped, and a block that runs for its locals alone.

* `slots_rendered`, `slots_skipped`, `slots_silent` — the slot of a part, and those of the rest.
* `exists_of_rendered`, `exists_of_skipped`, `exists_of_silent` — what a success is made of.
* `render_eq`, `slots_of_render` — a rendering and the view after it, by its slots.
-/

import ReactiveView.Render.Basic
import ReactiveView.Proofs.Render.Abreast

namespace ReactiveView.Render

variable {σ τ : Type}

/-- The pass as a part finds it: with empty output. -/
def Pass.openPart (pass : Pass σ) (rendersChildren : Bool) : Pass σ :=
  { pass with pieces := [], size := 0, rendersChildren, direct := [], rendered := [] }

/-- What a part that was rendered brings. -/
def Pass.slot (pass : Pass σ) : Slot := ⟨some (Piece.join pass.pieces.reverse), some pass.direct⟩

theorem Pass.ShowsSame.slot {left : Pass σ} {right : Pass τ} (shows : left.ShowsSame right) :
    left.slot.html = right.slot.html := by
  simp only [Pass.slot, shows.pieces]

/-- What a part that was not rendered brings. -/
def noSlot : Slot := ⟨none, none⟩

/-- What some parts bring. -/
def slots (scope : Scope σ) (config : Config) (dense : Bool) (dirty : Dirty) (index : Nat)
    (dirtyLocals : NameSet) (parts : List Part) (pass : Pass σ) : Except Error (List Slot) :=
  (runParts scope config dense dirty index dirtyLocals parts pass).1.map Prod.fst

section

variable {scope : Scope σ} {config : Config} {dense : Bool} {dirty : Dirty} {index : Nat}
  {dirtyLocals : NameSet} {part : DynamicPart} {rest : List Part} {pass after : Pass σ}

/-! ### One part -/

theorem runPart_of_ok {rendersChildren : Bool} {node : Node}
    (ran : Eval.node scope config node (pass.openPart rendersChildren) = (.ok (), after)) :
    runPart scope config rendersChildren node pass =
      (.ok ⟨after.pieces.reverse, after.direct, after.rendered⟩, after) := by
  unfold runPart
  rw [Eval.bind_apply]
  change ((Eval.node scope config node >>= _ : Eval σ PartOutput) (pass.openPart _)) = _
  rw [Eval.bind_apply, ran]
  rfl

theorem runPart_of_error {rendersChildren : Bool} {node : Node} {error : Error}
    (ran : Eval.node scope config node (pass.openPart rendersChildren) = (.error error, after)) :
    runPart scope config rendersChildren node pass = (.error error, after) := by
  unfold runPart
  rw [Eval.bind_apply]
  change ((Eval.node scope config node >>= _ : Eval σ PartOutput) (pass.openPart _)) = _
  rw [Eval.bind_apply, ran]

/-! ### The slots -/

theorem slots_nil : slots scope config dense dirty index dirtyLocals [] pass = .ok [] := rfl

theorem slots_fixed (text : String) :
    slots scope config dense dirty index dirtyLocals (.fixed text :: rest) pass =
      (slots scope config dense dirty (index + 1) dirtyLocals rest pass).map
        (⟨if dense then some text else none, none⟩ :: ·) := by
  unfold slots
  rw [runParts, Eval.bind_apply]
  rcases runParts scope config dense dirty (index + 1) dirtyLocals rest pass with
    ⟨_ | ⟨slots, rendered⟩, last⟩ <;> rfl

/-- A part that is rendered. -/
theorem slots_rendered (affected : isAffected dense dirty dirtyLocals part = true)
    (ran : Eval.node scope config part.node (pass.openPart true) = (.ok (), after)) :
    slots scope config dense dirty index dirtyLocals (.dynamic part :: rest) pass =
      (slots scope config dense dirty (index + 1) (dirtyLocals.union part.locals) rest after).map
        (after.slot :: ·) := by
  unfold slots
  rw [runParts, if_pos affected, Eval.bind_apply, inPart, runPart_of_ok ran]
  simp only
  rw [Eval.bind_apply]
  rcases runParts scope config dense dirty (index + 1) (dirtyLocals.union part.locals) rest after with
    ⟨_ | ⟨slots, rendered⟩, last⟩ <;> rfl

theorem slots_rendered_error {error : Error}
    (affected : isAffected dense dirty dirtyLocals part = true)
    (ran : Eval.node scope config part.node (pass.openPart true) = (.error error, after)) :
    slots scope config dense dirty index dirtyLocals (.dynamic part :: rest) pass =
      .error (.render index part.source error) := by
  unfold slots
  rw [runParts, if_pos affected, Eval.bind_apply, inPart, runPart_of_error ran]
  rfl

/-- An output that is not affected is skipped. -/
theorem slots_skipped (unaffected : isAffected dense dirty dirtyLocals part = false)
    (kind : part.kind = .expression) :
    slots scope config dense dirty index dirtyLocals (.dynamic part :: rest) pass =
      (slots scope config dense dirty (index + 1) dirtyLocals rest pass).map (noSlot :: ·) := by
  unfold slots
  rw [runParts, if_neg (by simp [unaffected]), kind]
  simp only
  rw [Eval.bind_apply]
  rcases runParts scope config dense dirty (index + 1) dirtyLocals rest pass with
    ⟨_ | ⟨slots, rendered⟩, last⟩ <;> rfl

/-- A block that is not affected runs, and its output is dropped. -/
theorem slots_silent (unaffected : isAffected dense dirty dirtyLocals part = false)
    (kind : part.kind = .block)
    (ran : Eval.node scope config part.node (pass.openPart false) = (.ok (), after)) :
    slots scope config dense dirty index dirtyLocals (.dynamic part :: rest) pass =
      (slots scope config dense dirty (index + 1) dirtyLocals rest after).map (noSlot :: ·) := by
  unfold slots
  rw [runParts, if_neg (by simp [unaffected]), kind]
  simp only
  rw [Eval.bind_apply, inPart, runPart_of_ok ran]
  simp only
  rw [Eval.bind_apply]
  rcases runParts scope config dense dirty (index + 1) dirtyLocals rest after with
    ⟨_ | ⟨slots, rendered⟩, last⟩ <;> rfl

theorem slots_silent_error {error : Error}
    (unaffected : isAffected dense dirty dirtyLocals part = false) (kind : part.kind = .block)
    (ran : Eval.node scope config part.node (pass.openPart false) = (.error error, after)) :
    slots scope config dense dirty index dirtyLocals (.dynamic part :: rest) pass =
      .error (.render index part.source error) := by
  unfold slots
  rw [runParts, if_neg (by simp [unaffected]), kind]
  simp only
  rw [Eval.bind_apply, inPart, runPart_of_error ran]
  rfl

/-- In a dense rendering every part is rendered. -/
theorem isAffected_dense : isAffected true dirty dirtyLocals part = true := rfl

/-! ### Renderings that succeed -/

theorem exists_of_map_ok {α β : Type} {result : Except Error α} {f : α → β} {value : β}
    (ok : result.map f = .ok value) : ∃ before, result = .ok before ∧ f before = value := by
  cases result with
  | error error => cases ok
  | ok before =>
    cases ok
    exact ⟨before, rfl, rfl⟩

variable {all : List Slot}

theorem exists_of_rendered (affected : isAffected dense dirty dirtyLocals part = true)
    (ok : slots scope config dense dirty index dirtyLocals (.dynamic part :: rest) pass = .ok all) :
    ∃ after others, Eval.node scope config part.node (pass.openPart true) = (.ok (), after) ∧
      slots scope config dense dirty (index + 1) (dirtyLocals.union part.locals) rest after =
        .ok others ∧ after.slot :: others = all := by
  rcases ran : Eval.node scope config part.node (pass.openPart true) with ⟨error | ⟨⟩, after⟩
  · rw [slots_rendered_error affected ran] at ok
    cases ok
  · rw [slots_rendered affected ran] at ok
    obtain ⟨others, brought, same⟩ := exists_of_map_ok ok
    exact ⟨after, others, rfl, brought, same⟩

theorem exists_of_skipped (unaffected : isAffected dense dirty dirtyLocals part = false)
    (kind : part.kind = .expression)
    (ok : slots scope config dense dirty index dirtyLocals (.dynamic part :: rest) pass = .ok all) :
    ∃ others, slots scope config dense dirty (index + 1) dirtyLocals rest pass = .ok others ∧
      noSlot :: others = all := by
  rw [slots_skipped unaffected kind] at ok
  exact exists_of_map_ok ok

theorem exists_of_silent (unaffected : isAffected dense dirty dirtyLocals part = false)
    (kind : part.kind = .block)
    (ok : slots scope config dense dirty index dirtyLocals (.dynamic part :: rest) pass = .ok all) :
    ∃ after others, Eval.node scope config part.node (pass.openPart false) = (.ok (), after) ∧
      slots scope config dense dirty (index + 1) dirtyLocals rest after = .ok others ∧
      noSlot :: others = all := by
  rcases ran : Eval.node scope config part.node (pass.openPart false) with ⟨error | ⟨⟩, after⟩
  · rw [slots_silent_error unaffected kind ran] at ok
    cases ok
  · rw [slots_silent unaffected kind ran] at ok
    obtain ⟨others, brought, same⟩ := exists_of_map_ok ok
    exact ⟨after, others, rfl, brought, same⟩

/-- There is one slot for each part. -/
theorem length_of_slots {parts : List Part}
    (ok : slots scope config dense dirty index dirtyLocals parts pass = .ok all) :
    all.length = parts.length := by
  induction parts generalizing index dirtyLocals pass all with
  | nil =>
    cases ok
    rfl
  | cons part rest ih =>
    cases part with
    | fixed text =>
      rw [slots_fixed] at ok
      obtain ⟨others, brought, rfl⟩ := exists_of_map_ok ok
      rw [List.length_cons, ih brought, List.length_cons]
    | dynamic part =>
      cases affected : isAffected dense dirty dirtyLocals part with
      | true =>
        obtain ⟨after, others, _, brought, rfl⟩ := exists_of_rendered affected ok
        rw [List.length_cons, ih brought, List.length_cons]
      | false =>
        cases kind : part.kind with
        | expression =>
          obtain ⟨others, brought, rfl⟩ := exists_of_skipped affected kind ok
          rw [List.length_cons, ih brought, List.length_cons]
        | block =>
          obtain ⟨after, others, _, brought, rfl⟩ := exists_of_silent affected kind ok
          rw [List.length_cons, ih brought, List.length_cons]

end

/-! ### The rendering -/

/-- **A rendering, by its slots.** -/
theorem render_eq (template : Template) (dirty : Dirty) (view : ClientView) (scope : Scope σ)
    (config : Config) (world : σ) (store : Store) :
    (∃ error, slots scope config (isDense template dirty view) dirty 0 NameSet.empty template.parts
        (Pass.start world store) = .error error ∧
      (render template dirty view scope config world store).1 = .error error ∧
      (render template dirty view scope config world store).2.1 = view) ∨
    ∃ rendered, slots scope config (isDense template dirty view) dirty 0 NameSet.empty
        template.parts (Pass.start world store) = .ok rendered.slots ∧
      rendered.dense = isDense template dirty view ∧
      (render template dirty view scope config world store).1 = .ok rendered ∧
      (render template dirty view scope config world store).2.1 =
        view.commit template.variant rendered := by
  unfold slots render
  simp only [ExceptT.run]
  rcases runParts scope config (isDense template dirty view) dirty 0 NameSet.empty template.parts
    (Pass.start world store) with ⟨error | ⟨slots, children⟩, pass⟩
  · exact Or.inl ⟨error, rfl, rfl, rfl⟩
  · exact Or.inr ⟨⟨slots, _, children⟩, rfl, rfl, rfl, rfl⟩

/-- What a rendering that succeeds is made of, and the view after it. -/
theorem slots_of_render {template : Template} {dirty : Dirty} {view : ClientView} {scope : Scope σ}
    {config : Config} {world : σ} {store : Store} {rendered : Rendered}
    (ran : (render template dirty view scope config world store).1 = .ok rendered) :
    slots scope config (isDense template dirty view) dirty 0 NameSet.empty template.parts
        (Pass.start world store) = .ok rendered.slots ∧
      rendered.dense = isDense template dirty view ∧
      (render template dirty view scope config world store).2.1 =
        view.commit template.variant rendered := by
  rcases render_eq template dirty view scope config world store with
    ⟨error, _, failed, _⟩ | ⟨_, brought, dense, succeeded, committed⟩
  · rw [ran] at failed
    cases failed
  · rw [ran] at succeeded
    cases succeeded
    exact ⟨brought, dense, committed⟩

end ReactiveView.Render
