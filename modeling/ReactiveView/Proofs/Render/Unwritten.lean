/-
**A rendering writes nothing.**

Templates look into values, combine them and call methods that make new ones. Where the answers of the
scope write nothing, a rendering writes nothing either, whether or not it succeeds: each list, map and
record holds what it held, whoever shares it, and nothing is marked. At most bindings are added.

* `Store.Unwritten` — nothing is written from one store to a later one.
* `Scope.WritesNothing` — the answers of a scope write nothing, as far as a rendering may lead.
* `Eval.unwriting` — every step of a template writes nothing.
* `unwritten_of_render` — so does the whole rendering.
-/

import ReactiveView.Proofs.Render.Faults
import ReactiveView.Proofs.Template.Names
import ReactiveView.Template.Basic

namespace ReactiveView

variable {σ α β : Type}

/--
**Nothing is written**: every list, map and record holds what it held, every changeset holds the names
that it held, no observer is retired, and values lose no binding.
-/
structure Store.Unwritten (before after : Store) : Prop extends before.Extends after where
  bindings : ∀ {ref : Ref} {binding : Binding}, binding ∈ before.bindings ref →
    binding ∈ after.bindings ref
  changesets : ∀ {changeset : ChangesetId} {names : Option NameSet},
    before.changesets[changeset]? = some names → after.changesets[changeset]? = some names
  observers : ∀ {observer : ObserverId} {owner : Option ChangesetId},
    before.observers[observer]? = some owner → after.observers[observer]? = some owner

namespace Store.Unwritten

variable {before after later : Store}

theorem refl (store : Store) : store.Unwritten store := ⟨.refl store, id, id, id⟩

theorem trans (first : before.Unwritten after) (second : after.Unwritten later) :
    before.Unwritten later where
  toExtends := first.toExtends.trans second.toExtends
  bindings member := second.bindings (first.bindings member)
  changesets there := second.changesets (first.changesets there)
  observers there := second.observers (first.observers there)

/-- Reading writes nothing. -/
theorem of_reads (reads : before.Reads after) : before.Unwritten after where
  toExtends := reads.toGrows.extends
  bindings := reads.bindings
  changesets there := by rw [reads.changesets, there]
  observers there := by rw [reads.observers, there]

end Store.Unwritten

/-- **The answers of a scope write nothing**, as far as a rendering may lead from here on. -/
structure Scope.WritesNothing (scope : Scope σ) (start : σ × Store) : Prop where
  lookup : ∀ {world store}, Relation.ReflTransGen scope.Move start (world, store) → ∀ name,
    store.Unwritten (scope.lookup name world store).2.2
  call : ∀ {world store}, Relation.ReflTransGen scope.Move start (world, store) → ∀ name arguments,
    store.Unwritten (scope.call name arguments world store).2.2
  child : ∀ {world store}, Relation.ReflTransGen scope.Move start (world, store) → ∀ className id,
    store.Unwritten (scope.renderChild className id world store).2.2

namespace Render

/-- **A step that writes nothing**, wherever a rendering may lead to it. -/
structure Eval.Unwriting (scope : Scope σ) (start : σ × Store) (run : Eval σ α) : Prop
    extends Eval.Raising scope run where
  unwritten : ∀ pass : Pass σ, Relation.ReflTransGen scope.Move start pass.around →
    pass.store.Unwritten (run pass).2.store

namespace Eval.Unwriting

variable {scope : Scope σ} {start : σ × Store} {run : Eval σ α}

theorem bind (unwriting : Unwriting scope start run) {next : α → Eval σ β}
    (after : ∀ value, Unwriting scope start (next value)) : Unwriting scope start (run >>= next) := by
  refine ⟨unwriting.toRaising.bind fun value => (after value).toRaising, fun pass reached => ?_⟩
  have moved := unwriting.moved pass
  have first := unwriting.unwritten pass reached
  rw [bind_apply]
  generalize run pass = arrived at moved first ⊢
  obtain ⟨error | value, middle⟩ := arrived
  · exact first
  · exact first.trans ((after value).unwritten middle (reached.trans moved))

/-- A step that at most reads. -/
theorem of_reads (raising : Raising scope run)
    (reads : ∀ pass : Pass σ, pass.store.Reads (run pass).2.store) : Unwriting scope start run :=
  ⟨raising, fun pass _ => .of_reads (reads pass)⟩

/-- A step that does not touch the store. -/
theorem still (raising : Raising scope run) (same : ∀ pass, (run pass).2.store = pass.store) :
    Unwriting scope start run :=
  .of_reads raising fun pass => (same pass).symm ▸ .refl pass.store

/-- A question to the scope. -/
theorem asking {f : σ → Store → Answer σ α} (raising : Raising scope (Eval.asking f))
    (unwritten : ∀ {world store}, Relation.ReflTransGen scope.Move start (world, store) →
      store.Unwritten (f world store).2.2) : Unwriting scope start (Eval.asking f) :=
  ⟨raising, fun _ reached => unwritten reached⟩

theorem lookup (quiet : scope.WritesNothing start) (config : Config) (name : String) :
    Unwriting scope start (Eval.lookup scope config name) := by
  have asked (known : Option Value) :
      Unwriting scope start (Eval.asking (answerFor scope name known)) := by
    cases known with
    | some value => exact .still (.answerFor scope name (some value)) fun _ => rfl
    | none => exact .asking (.answerFor scope name none) fun reached => quiet.lookup reached name
  have found (known : Option Value) : Unwriting scope start
      (Eval.asking (answerFor scope name known) >>= fun found =>
        Eval.settled (Lockstep.foundOr config name found)) :=
    (asked known).bind fun found =>
      .still (.still (fun _ => rfl) fun _ => innate_foundOr config name found) fun _ => rfl
  refine ⟨.lookup scope config name, fun pass reached => ?_⟩
  rw [Lockstep.lookup_apply]
  exact (found (findLocal pass.frames name)).unwritten pass reached

theorem helper (quiet : scope.WritesNothing start) (name : String) (arguments : List Value) :
    Unwriting scope start (Eval.helper scope name arguments) := by
  have asked : Unwriting scope start (Eval.asking (scope.call name arguments)) :=
    .asking (.call scope name arguments) fun reached => quiet.call reached name arguments
  refine asked.bind fun found => ?_
  cases found with
  | some value => exact .still (.still (fun _ => rfl) fun _ => .ok _) fun _ => rfl
  | none => exact .still (.still (fun _ => rfl) fun _ => .eval _) fun _ => rfl

theorem child (quiet : scope.WritesNothing start) (className id : String) :
    Unwriting scope start (Eval.child scope className id) := by
  have asked : Unwriting scope start (Eval.asking (scope.renderChild className id)) :=
    .asking (.renderChild scope className id) fun reached => quiet.child reached className id
  have shown : Unwriting scope start (Eval.asking (scope.renderChild className id) >>= fun child => do
      modify fun pass =>
        { pass with direct := pass.direct ++ [id], rendered := pass.rendered ++ child.rendered }
      return child.html) :=
    asked.bind fun child => .still (.still (fun _ => rfl) fun _ => .ok _) fun _ => rfl
  refine ⟨.child scope className id, fun pass reached => ?_⟩
  rw [child_apply]
  split
  · exact shown.unwritten pass reached
  · exact .refl _

theorem pairs (config : Config) (iterable : Value) :
    Unwriting scope start (Eval.pairs config iterable) := by
  refine .of_reads (.pairs config iterable) fun pass => ?_
  cases iterable with
  | list list => exact (TrackedList.peruses_iterate list pass.store).toReads
  | map map => exact (TrackedMap.peruses_iterate map pass.store).toReads
  | _ => exact .refl _

/-- A part writes no more than what runs in it. -/
theorem inPart (unwriting : Unwriting scope start run) (index : Nat) (source : String) :
    Unwriting scope start (Render.inPart index source run) := by
  refine ⟨unwriting.toRaising.inPart index source, fun pass reached => ?_⟩
  have inside := unwriting.unwritten pass reached
  unfold Render.inPart
  generalize run pass = arrived at inside ⊢
  obtain ⟨error | value, middle⟩ := arrived <;> exact inside

end Eval.Unwriting

/-- **All steps of a template write nothing**, if the answers of the scope do not. -/
theorem Eval.unwriting {scope : Scope σ} {start : σ × Store} (quiet : scope.WritesNothing start)
    (config : Config) : Eval.Law scope config fun run => Eval.Unwriting scope start run where
  pure value := .still ((Eval.raising scope config).pure value) fun _ => rfl
  bind unwriting after := unwriting.bind after
  refuse reason := .still ((Eval.raising scope config).refuse reason) fun _ => rfl
  textOf value := .still ((Eval.raising scope config).textOf value) fun _ => rfl
  newList values := .of_reads ((Eval.raising scope config).newList values) fun pass =>
    (Store.peruses_newList pass.store values).toReads
  field target name := .of_reads ((Eval.raising scope config).field target name) fun pass =>
    (peruses_readField target name pass.store).toReads
  index target place := .of_reads ((Eval.raising scope config).index target place) fun pass =>
    (peruses_readIndex target place pass.store).toReads
  method receiver name arguments :=
    .of_reads ((Eval.raising scope config).method receiver name arguments) fun pass =>
      (peruses_callMethod receiver name arguments pass.store).toReads
  unary op value := .still ((Eval.raising scope config).unary op value) fun _ => rfl
  binary op left right := .of_reads ((Eval.raising scope config).binary op left right) fun pass =>
    (peruses_binary op config.maxOutputLength left right pass.store).toReads
  lookup name := .lookup quiet config name
  child className id := .child quiet className id
  helper name arguments := .helper quiet name arguments
  push piece := by
    refine .still (.push config piece) fun pass => ?_
    rw [push_apply]
    split <;> rfl
  pairs iterable := .pairs config iterable
  count := by
    refine .still (.count config) fun pass => ?_
    rw [count_apply]
    split <;> rfl
  enter frame := .still ((Eval.raising scope config).enter frame) fun _ => rfl
  leave := .still (Eval.raising scope config).leave fun _ => rfl
  bindLocal name value := by
    refine .still ((Eval.raising scope config).bindLocal name value) fun pass => ?_
    rw [bind_eq]
  start rendersChildren := .still ((Eval.raising scope config).start rendersChildren) fun _ => rfl
  finish := .still (Eval.raising scope config).finish fun _ => rfl
  inPart index source _ unwriting := unwriting.inPart index source

/--
**A rendering writes nothing.** Whatever the template, the settings, what has changed and what the client
has, and whatever values are shared and watched: if the answers of the scope write nothing, then after a
rendering, whether or not it succeeds, every list, map and record holds what it held, and no name is
marked anywhere. At most bindings are added.
-/
theorem unwritten_of_render (template : Template) (dirty : Dirty) (view : ClientView) (scope : Scope σ)
    (config : Config) (world : σ) (store : Store) (quiet : scope.WritesNothing (world, store)) :
    store.Unwritten (render template dirty view scope config world store).2.2.2 := by
  have unwritten := ((Eval.unwriting quiet config).runParts (isDense template dirty view) dirty 0
    NameSet.empty template.parts).unwritten (Pass.start world store) .refl
  simp only [render, ExceptT.run]
  generalize runParts scope config (isDense template dirty view) dirty 0 NameSet.empty template.parts
    (Pass.start world store) = outcome at unwritten ⊢
  obtain ⟨error | ⟨slots, children⟩, pass⟩ := outcome <;> exact unwritten

/-- The variables of a plain map are only looked up. -/
theorem writesNothing_ofVariables (values : OrderedMap String Value) (start : Unit × Store) :
    (Scope.ofVariables values).WritesNothing start :=
  ⟨fun _ _ => .refl _, fun _ _ _ => .refl _, fun _ _ _ => .refl _⟩

/-- A list that holds one list twice, watched under a name: the name is passed on, and nothing is
written. -/
theorem unwritten_of_render_of_shared :
    let scope := Scope.ofVariables (.ofList [("rows", .list 1)])
    let watched : Binding := ⟨0, "rows"⟩
    let store : Store := ⟨#[⟨.list [.int 3, .int 1], []⟩, ⟨.list [.list 0, .list 0], [watched]⟩],
      #[some 0], #[some NameSet.empty], OrderedMap.empty⟩
    ∃ template, Template.compile "Page" "default"
        "<% for row in rows %><%= row.sorted().join(\",\") %> <% end %><%= rows.push(1) %>" =
          .ok template ∧
      let reached := (render template .all ClientView.empty scope Config.default () store).2.2.2
      store.Unwritten reached ∧ watched ∉ store.bindings 0 ∧ watched ∈ reached.bindings 0 := by
  intro scope watched store
  have checked : Template.isCompiledTo (Template.compile "Page" "default"
        "<% for row in rows %><%= row.sorted().join(\",\") %> <% end %><%= rows.push(1) %>")
      (fun template => decide (watched ∈ (render template .all ClientView.empty scope Config.default ()
        store).2.2.2.bindings 0)) = true := by decide +kernel
  obtain ⟨template, compiled, passes⟩ := Template.exists_of_isCompiledTo checked
  exact ⟨template, compiled,
    unwritten_of_render template .all ClientView.empty scope Config.default () store
      (writesNothing_ofVariables _ _), by decide, of_decide_eq_true passes⟩

end Render

end ReactiveView
