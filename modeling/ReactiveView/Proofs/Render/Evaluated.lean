/-
**What the parts of a template are evaluated to.**

A rendering goes from part to part, and each of them finds the locals and the surroundings that the parts before
it have left. A part that depends on a changed name is evaluated there, and so is every part of a dense
rendering: its slot is what the evaluation gives. A part that is not evaluated is left out.

* `arrival` — the pass with which a rendering comes to a part.
* `evaluated?` — what a part is evaluated to.
* `yields_of_slots`, `yields_of_render` — a part brings what it is evaluated to, or nothing.
* `markup_of_affected` — an affected part brings what it is evaluated to.
-/

import ReactiveView.Proofs.Render.Parts

namespace ReactiveView.Render

variable {σ : Type} {scope : Scope σ} {config : Config} {dense : Bool} {dirty : Dirty} {index : Nat}
  {dirtyLocals : NameSet} {part : DynamicPart} {rest : List Part} {pass after : Pass σ} {position : Nat}

/-! ### Affected parts -/

/-- A part that is affected by changed names is affected whatever locals have changed besides. -/
theorem isAffected_mono (affected : isAffected dense dirty NameSet.empty part = true)
    (dirtyLocals : NameSet) : isAffected dense dirty dirtyLocals part = true := by
  unfold isAffected at affected ⊢
  rw [Bool.or_eq_true, List.any_eq_true] at affected ⊢
  refine affected.imp id fun ⟨name, member, changed⟩ => ⟨name, member, ?_⟩
  have own : dirty.contains name = true := by simpa using changed
  rw [own, Bool.true_or]

/-- A part that depends on a changed name is affected. -/
theorem isAffected_of_mem {name : String} (member : name ∈ part.dependencies)
    (changed : dirty.contains name = true) (dense : Bool) (dirtyLocals : NameSet) :
    isAffected dense dirty dirtyLocals part = true := by
  rw [isAffected, Bool.or_eq_true, List.any_eq_true]
  exact Or.inr ⟨name, member, by rw [changed, Bool.true_or]⟩

/-! ### On the way to a part -/

/-- **The pass with which a rendering comes to a part**: the parts before it have run. -/
def arrival (scope : Scope σ) (config : Config) (dense : Bool) (dirty : Dirty) (index : Nat)
    (dirtyLocals : NameSet) (parts : List Part) (position : Nat) (pass : Pass σ) : Pass σ :=
  (runParts scope config dense dirty index dirtyLocals (parts.take position) pass).2

theorem arrival_fixed (text : String) :
    arrival scope config dense dirty index dirtyLocals (.fixed text :: rest) (position + 1) pass =
      arrival scope config dense dirty (index + 1) dirtyLocals rest position pass := by
  unfold arrival
  rw [List.take_succ_cons, runParts, Eval.bind_apply]
  rcases runParts scope config dense dirty (index + 1) dirtyLocals (rest.take position) pass with
    ⟨_ | ⟨slots, rendered⟩, last⟩ <;> rfl

theorem arrival_rendered (affected : isAffected dense dirty dirtyLocals part = true)
    (ran : Eval.node scope config part.node (pass.openPart true) = (.ok (), after)) :
    arrival scope config dense dirty index dirtyLocals (.dynamic part :: rest) (position + 1) pass =
      arrival scope config dense dirty (index + 1) (dirtyLocals.union part.locals) rest position
        after := by
  unfold arrival
  rw [List.take_succ_cons, runParts, if_pos affected, Eval.bind_apply, inPart, runPart_of_ok ran]
  simp only
  rw [Eval.bind_apply]
  rcases runParts scope config dense dirty (index + 1) (dirtyLocals.union part.locals)
    (rest.take position) after with ⟨_ | ⟨slots, rendered⟩, last⟩ <;> rfl

theorem arrival_skipped (unaffected : isAffected dense dirty dirtyLocals part = false)
    (kind : part.kind = .expression) :
    arrival scope config dense dirty index dirtyLocals (.dynamic part :: rest) (position + 1) pass =
      arrival scope config dense dirty (index + 1) dirtyLocals rest position pass := by
  unfold arrival
  rw [List.take_succ_cons, runParts, if_neg (by simp [unaffected]), kind]
  simp only
  rw [Eval.bind_apply]
  rcases runParts scope config dense dirty (index + 1) dirtyLocals (rest.take position) pass with
    ⟨_ | ⟨slots, rendered⟩, last⟩ <;> rfl

theorem arrival_silent (unaffected : isAffected dense dirty dirtyLocals part = false)
    (kind : part.kind = .block)
    (ran : Eval.node scope config part.node (pass.openPart false) = (.ok (), after)) :
    arrival scope config dense dirty index dirtyLocals (.dynamic part :: rest) (position + 1) pass =
      arrival scope config dense dirty (index + 1) dirtyLocals rest position after := by
  unfold arrival
  rw [List.take_succ_cons, runParts, if_neg (by simp [unaffected]), kind]
  simp only
  rw [Eval.bind_apply, inPart, runPart_of_ok ran]
  simp only
  rw [Eval.bind_apply]
  rcases runParts scope config dense dirty (index + 1) dirtyLocals (rest.take position) after with
    ⟨_ | ⟨slots, rendered⟩, last⟩ <;> rfl

/-! ### What a part brings -/

/-- **What comes of a part** to which a rendering comes with a pass: it is evaluated, or it is not affected by
what has changed, and left out. -/
inductive Yields (scope : Scope σ) (config : Config) (dense : Bool) (dirty : Dirty) (part : DynamicPart)
    (before : Pass σ) : Slot → Prop
  | evaluated {after : Pass σ}
    (ran : Eval.node scope config part.node (before.openPart true) = (.ok (), after)) :
    Yields scope config dense dirty part before after.slot
  | bare (unaffected : isAffected dense dirty NameSet.empty part = false) :
    Yields scope config dense dirty part before noSlot

/-- **Every part is evaluated or left out.** -/
theorem yields_of_slots {parts : List Part} {all : List Slot}
    (ok : slots scope config dense dirty index dirtyLocals parts pass = .ok all)
    (there : parts[position]? = some (.dynamic part)) : ∃ slot, all[position]? = some slot ∧
      Yields scope config dense dirty part
        (arrival scope config dense dirty index dirtyLocals parts position pass) slot := by
  induction parts generalizing index dirtyLocals pass all position with
  | nil => cases there
  | cons first rest ih =>
    cases first with
    | fixed text =>
      rw [slots_fixed] at ok
      obtain ⟨others, brought, rfl⟩ := exists_of_map_ok ok
      cases position with
      | zero => cases there
      | succ place =>
        rw [arrival_fixed]
        exact ih brought there
    | dynamic other =>
      cases chosen : isAffected dense dirty dirtyLocals other with
      | true =>
        obtain ⟨reached, others, ran, brought, rfl⟩ := exists_of_rendered chosen ok
        cases position with
        | zero =>
          cases there
          exact ⟨_, rfl, .evaluated ran⟩
        | succ place =>
          rw [arrival_rendered chosen ran]
          exact ih brought there
      | false =>
        have unaffected : isAffected dense dirty NameSet.empty other = false := by
          cases affected : isAffected dense dirty NameSet.empty other with
          | false => rfl
          | true =>
            rw [isAffected_mono affected] at chosen
            cases chosen
        cases kind : other.kind with
        | expression =>
          obtain ⟨others, brought, rfl⟩ := exists_of_skipped chosen kind ok
          cases position with
          | zero =>
            cases there
            exact ⟨_, rfl, .bare unaffected⟩
          | succ place =>
            rw [arrival_skipped chosen kind]
            exact ih brought there
        | block =>
          obtain ⟨reached, others, ran, brought, rfl⟩ := exists_of_silent chosen kind ok
          cases position with
          | zero =>
            cases there
            exact ⟨_, rfl, .bare unaffected⟩
          | succ place =>
            rw [arrival_silent chosen kind ran]
            exact ih brought there

/-! ### A rendering -/

/-- **What a part is evaluated to** by a rendering that comes to it; none if its evaluation fails. -/
def evaluated? (template : Template) (dirty : Dirty) (view : ClientView) (scope : Scope σ)
    (config : Config) (world : σ) (store : Store) (position : Nat) : Option String :=
  match template.parts[position]? with
  | some (.dynamic part) =>
    match Eval.node scope config part.node ((arrival scope config (isDense template dirty view) dirty 0
      NameSet.empty template.parts position (Pass.start world store)).openPart true) with
    | (.ok (), after) => after.slot.html
    | (.error _, _) => none
  | _ => none

variable {template : Template} {view : ClientView} {world : σ} {store : Store} {rendered : Rendered}

/-- **What comes of a part in a rendering that succeeds.** -/
theorem yields_of_render (ok : (render template dirty view scope config world store).1 = .ok rendered)
    (there : template.parts[position]? = some (.dynamic part)) :
    ∃ slot, rendered.slots[position]? = some slot ∧
      ((slot.html = evaluated? template dirty view scope config world store position ∧
        slot.html.isSome = true ∧ slot.children.isSome = true) ∨
      (slot = noSlot ∧ isAffected (isDense template dirty view) dirty NameSet.empty part = false)) := by
  obtain ⟨slot, found, yields⟩ := yields_of_slots (slots_of_render ok).1 there
  refine ⟨slot, found, ?_⟩
  cases yields with
  | evaluated ran =>
    refine Or.inl ⟨?_, rfl, rfl⟩
    unfold evaluated?
    rw [there]
    simp only
    rw [ran]
  | bare unaffected => exact Or.inr ⟨rfl, unaffected⟩

/-- **An affected part brings what it is evaluated to.** -/
theorem markup_of_affected (ok : (render template dirty view scope config world store).1 = .ok rendered)
    (there : template.parts[position]? = some (.dynamic part))
    (affected : isAffected (isDense template dirty view) dirty NameSet.empty part = true) :
    ∃ html, rendered.markup[position]? = some (some html) ∧
      evaluated? template dirty view scope config world store position = some html := by
  obtain ⟨slot, found, ⟨same, filled, _⟩ | ⟨_, unaffected⟩⟩ := yields_of_render ok there
  · obtain ⟨html, new⟩ := Option.isSome_iff_exists.mp filled
    refine ⟨html, ?_, same.symm.trans new⟩
    rw [Rendered.markup, List.getElem?_map, found, ← new]
    rfl
  · rw [unaffected] at affected
    cases affected

end ReactiveView.Render
