/-
**Parts that are nothing but a child.**

A part that is the tag of a child brings the markup of the child as it is, and the call for the child
is the last one that the part makes. So the slots of a rendering tell which of its calls was answered
with the markup of such a part.

* `Node.IsChild` — the tag of a child.
* `Eval.exists_of_tag` — what the tag of a child does.
* `Noted`, `noted_render` — the calls of a rendering, and which of them fill the tags of children.
-/

import ReactiveView.Proofs.Render.Calls
import ReactiveView.Proofs.Render.Idle

namespace ReactiveView

variable {σ α β : Type}

/-- **The tag of a child**, and nothing else. -/
def Node.IsChild (node : Node) : Prop :=
  ∃ className id raw, node = .output (.call "child" [className, id]) raw

instance (node : Node) : Decidable node.IsChild :=
  decidable_of_iff ((match node with
      | .output (.call name [_, _]) _ => name == "child"
      | _ => false) = true) <| by
    unfold Node.IsChild
    split
    · next name className id raw =>
      rw [beq_iff_eq]
      constructor
      · rintro rfl
        exact ⟨className, id, raw, rfl⟩
      · rintro ⟨_, _, _, same⟩
        cases same
        rfl
    · next other =>
      refine ⟨fun impossible => (by cases impossible), ?_⟩
      rintro ⟨className, id, raw, rfl⟩
      exact absurd rfl (other "child" className id raw)

namespace Render

/-! ### The tag of a child -/

namespace Eval

variable {scope : Scope σ} {config : Config}

/-- The piece that the tag of a child puts out, by the texts of its arguments. -/
def tagOf (scope : Scope σ) : List String → Eval σ Piece
  | [className, id] => do return .markup (← child scope className id)
  | _ => refuse childArity

/-- **What the tag of a child does**: it takes the class and the id, renders the child, and puts out its
markup as it is. -/
theorem exists_of_tag {first second : Expr} {raw : Bool} {pass after : Pass σ}
    (renders : pass.rendersChildren = true)
    (ran : Eval.node scope config (.output (.call "child" [first, second]) raw) pass =
      (.ok (), after)) : ∃ className id middle child,
      Eval.texts scope config [first, second] pass = (.ok [className, id], middle) ∧
      scope.renderChild className id middle.world middle.store =
        (.ok child, after.world, after.store) ∧
      after.pieces = .markup child.html :: pass.pieces := by
  have same : Eval.node scope config (.output (.call "child" [first, second]) raw) =
      (Eval.texts scope config [first, second] >>= tagOf scope) >>= push config := by
    change (output scope config raw (.call "child" [first, second]) >>= push config) = _
    rw [output, if_neg (by decide), if_pos rfl]
    exact congrArg (· >>= push config) (if_neg (by simp))
  have quiet := congrArg Prod.fst ((idle scope config).texts [first, second] pass)
  have hidden := (Eval.shows scope config).texts [first, second] pass
  rw [same, bind_apply, bind_apply] at ran
  rcases taken : Eval.texts scope config [first, second] pass with ⟨error | texts, middle⟩
  · rw [taken] at ran
    cases ran
  · rw [taken] at ran quiet hidden
    obtain ⟨_, shows⟩ := hidden texts rfl
    rcases texts with _ | ⟨className, _ | ⟨id, _ | _⟩⟩
    · cases ran
    · cases ran
    · dsimp only at ran
      rw [tagOf, bind_apply, child_apply, if_pos (shows.children.trans renders), bind_apply] at ran
      rcases answer : scope.renderChild className id middle.world middle.store with
        ⟨error | child, world, store⟩
      · simp only [asking, answer] at ran
        cases ran
      · simp only [asking, answer] at ran
        change push config (.markup child.html) _ = _ at ran
        rw [push_apply] at ran
        split at ran
        · cases ran
        · cases ran
          refine ⟨className, id, middle, child, rfl, answer, ?_⟩
          exact congrArg _ quiet
    · cases ran

end Eval

/-! ### The calls of a part -/

end Render

/-- A call is answered with a child of the given markup. -/
def Scope.Fills (scope : Scope σ) (html : String) (call : Scope.Call σ) : Prop :=
  ∃ child after, scope.renderChild call.className call.id call.world call.store = (.ok child, after) ∧
    child.html = html

namespace Render

variable {scope : Scope σ} {config : Config}

/-- **The calls of a part that was rendered**: they are for the children that it shows, and the last
call of the tag of a child is for its markup. -/
theorem exists_calls_of_runPart {node : Node} {pass after : Pass (σ × List (Scope.Call σ))}
    {output : PartOutput}
    (ran : runPart scope.noting config true node pass = (.ok output, after)) :
    ∃ calls, after.world.2 = pass.world.2 ++ calls ∧ output.direct = calls.map Scope.Call.id ∧
      (node.IsChild → ∃ call, calls.getLast? = some call ∧
        scope.Fills (Piece.join output.pieces) call) := by
  obtain ⟨shown, run, direct, _, _⟩ := exists_run_of_runPart ran
  obtain ⟨calls, noted, answered⟩ := run.noted
  refine ⟨calls, noted, direct.trans (Scope.map_id_of_answers answered).symm, ?_⟩
  rintro ⟨first, second, raw, rfl⟩
  rcases run : Eval.node scope.noting config (.output (.call "child" [first, second]) raw)
    (pass.openPart true) with ⟨error | ⟨⟩, reached⟩
  · rw [runPart_of_error run] at ran
    cases ran
  · rw [runPart_of_ok run] at ran
    cases ran
    obtain ⟨className, id, middle, child, taken, rendered, pieces⟩ := Eval.exists_of_tag rfl run
    -- the calls inside of the arguments come first
    have inner := (Eval.shows scope.noting config).texts [first, second] (pass.openPart true)
    rw [taken] at inner
    obtain ⟨inside, shows⟩ := inner [className, id] rfl
    obtain ⟨early, before, _⟩ := shows.run.noted
    rcases answer : scope.renderChild className id middle.world.1 middle.store with
      ⟨result, world, store⟩
    simp only [Scope.noting, answer] at rendered
    obtain ⟨rfl, around⟩ := Prod.mk.inj rendered
    have kept := congrArg (fun around => around.1.2) around
    have all : calls = early ++ [⟨className, id, middle.world.1, middle.store⟩] := by
      refine List.append_cancel_left (noted.symm.trans (kept.symm.trans ?_))
      rw [← List.append_assoc]
      exact congrArg (· ++ _) before
    refine ⟨_, by rw [all, List.getLast?_concat], child, _, answer, ?_⟩
    rw [pieces]
    simp [Pass.openPart, Piece.join, Piece.html]

/-! ### The calls of some parts -/

/-- **The calls that some parts make**: they are for the children that the slots name, and the tag of a
child is filled by the last call of its part. -/
structure Noted (scope : Scope σ) (parts : List Part) (slots : List Slot)
    (calls : List (Scope.Call σ)) : Prop where
  named : childrenOf slots = calls.map Scope.Call.id
  tags : ∀ {part : Nat} {dynamic : DynamicPart} {slot : Slot} {html : String},
    parts[part]? = some (.dynamic dynamic) → dynamic.node.IsChild → slots[part]? = some slot →
    slot.html = some html → ∃ index call, (childrenOf (slots.take (part + 1))).length = index + 1 ∧
      calls[index]? = some call ∧ (slot.children.getD []).getLast? = some call.id ∧
      scope.Fills html call

/-- The slot of one more part, in front. -/
theorem Noted.cons {part : Part} {rest : List Part} {slot : Slot} {slots : List Slot}
    {early late : List (Scope.Call σ)} (noted : Noted scope rest slots late)
    (named : slot.children.getD [] = early.map Scope.Call.id)
    (tag : ∀ {dynamic : DynamicPart} {html : String}, part = .dynamic dynamic →
      dynamic.node.IsChild → slot.html = some html →
      ∃ call, early.getLast? = some call ∧ scope.Fills html call) :
    Noted scope (part :: rest) (slot :: slots) (early ++ late) where
  named := by
    rw [List.map_append, ← noted.named, ← named]
    rfl
  tags {place} := by
    intro dynamic other html there isChild found new
    have length (slots : List Slot) : (childrenOf (slot :: slots)).length =
        early.length + (childrenOf slots).length := by
      rw [← List.length_map Scope.Call.id, ← named]
      exact List.length_append
    cases place with
    | zero =>
      cases there
      cases found
      obtain ⟨call, last, fills⟩ := tag rfl isChild new
      obtain ⟨front, rfl⟩ := List.getLast?_eq_some_iff.mp last
      refine ⟨front.length, call, ?_, by simp, ?_, fills⟩
      · rw [List.take_succ_cons, length, List.length_append]
        rfl
      · rw [named, List.map_append]
        exact List.getLast?_concat
    | succ place =>
      obtain ⟨index, call, position, called, last, fills⟩ := noted.tags there isChild found new
      refine ⟨early.length + index, call, ?_, ?_, last, fills⟩
      · rw [List.take_succ_cons, length, position]
        rfl
      · rwa [List.getElem?_append_right (Nat.le_add_right _ _), Nat.add_sub_cancel_left]

/-- The slot of one more part without calls, in front. -/
theorem Noted.skip {part : Part} {rest : List Part} {html : Option String} {slots : List Slot}
    {calls : List (Scope.Call σ)} (noted : Noted scope rest slots calls)
    (bare : ∀ dynamic, part = .dynamic dynamic → html = none) :
    Noted scope (part :: rest) (⟨html, none⟩ :: slots) calls := by
  have unnamed : (Slot.mk html none).children.getD [] =
      ([] : List (Scope.Call σ)).map Scope.Call.id := rfl
  refine noted.cons unnamed fun same _ new => ?_
  cases (bare _ same).symm.trans new

theorem noted_runParts {dense : Bool} {dirty : Dirty} {parts : List Part} {index : Nat}
    {dirtyLocals : NameSet} {pass after : Pass (σ × List (Scope.Call σ))} {slots : List Slot}
    {rendered : List String}
    (ran : runParts scope.noting config dense dirty index dirtyLocals parts pass =
      (.ok (slots, rendered), after)) :
    ∃ calls, after.world.2 = pass.world.2 ++ calls ∧ Noted scope parts slots calls := by
  refine runParts_induct (motive := fun parts pass slots _ after =>
    ∃ calls, after.world.2 = pass.world.2 ++ calls ∧ Noted scope parts slots calls) ?_ ?_ ?_ ?_ ran
  · exact fun pass => ⟨[], (List.append_nil _).symm, rfl, nofun⟩
  · rintro part html _ _ _ _ _ _ bare ⟨calls, noted, brings⟩
    exact ⟨calls, noted, brings.skip bare⟩
  · rintro part _ _ _ _ _ _ _ run ⟨late, second, brings⟩
    obtain ⟨early, first, direct, last⟩ := exists_calls_of_runPart run
    refine ⟨early ++ late, by rw [second, first, List.append_assoc], brings.cons direct ?_⟩
    intro dynamic html same isChild new
    cases same
    cases new
    exact last isChild
  · rintro part _ _ _ _ _ _ _ _ run ⟨calls, noted, brings⟩
    refine ⟨calls, ?_, brings.skip fun _ _ => rfl⟩
    obtain ⟨shown, run, _, _, hidden⟩ := exists_run_of_runPart run
    obtain ⟨none, first, answered⟩ := run.noted
    rw [hidden rfl] at answered
    cases answered
    rw [noted]
    exact congrArg (· ++ _) (first.trans (List.append_nil _))

/-- **The calls of a rendering that succeeds** are for the children that its slots name, and they fill
the tags of children. -/
theorem noted_render {template : Template} {dirty : Dirty} {view after : ClientView} {world reached : σ}
    {store stored : Store} {rendered : Rendered}
    (ran : render template dirty view scope config world store =
      (.ok rendered, after, reached, stored)) : Noted scope template.parts rendered.slots
        (calls template dirty view scope config world store) := by
  have noted := render_noting template dirty view scope config world store
  rw [ran] at noted
  simp only [render, ExceptT.run] at noted
  rcases run : runParts scope.noting config (isDense template dirty view) dirty 0 NameSet.empty
    template.parts (Pass.start (world, []) store) with ⟨error | ⟨slots, children⟩, pass⟩
  · rw [run] at noted
    cases noted
  · rw [run] at noted
    obtain ⟨calls, same, brings⟩ := noted_runParts run
    have brought : slots = rendered.slots :=
      congrArg Rendered.slots (Except.ok.inj (congrArg Prod.fst noted))
    have told : pass.world.2 = Render.calls template dirty view scope config world store :=
      congrArg (fun outcome => outcome.2.2.1.2) noted
    rw [← brought, ← told, same]
    exact brings

end Render

end ReactiveView
