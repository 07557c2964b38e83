/-
**The calls for children that a rendering makes.**

Whether or not a rendering succeeds, it takes its surroundings along a path: names and helpers are
asked for, the store grows, and children are rendered. A scope can note the calls for children; the
rendering is the same with notes as without, so the calls of a rendering are known.

* `moves_of_render` — a rendering moves its surroundings.
* `Scope.Path`, `path_of_render` — the path of a rendering, with its calls for children.
* `answers_of_render` — where a rendering succeeds, its calls are answered with what it shows.
-/

import ReactiveView.Proofs.Render.Shown

namespace ReactiveView

variable {σ α β : Type}

namespace Render

variable {scope : Scope σ} {config : Config}

/-! ### Moves of a rendering -/

theorem takes_inPart {run : Eval σ α} (takes : Eval.Takes scope (fun _ _ => True) run) (index : Nat)
    (source : String) : Eval.Takes scope (fun _ _ => True) (inPart index source run) := by
  intro pass
  have here := (takes pass).1
  unfold inPart
  generalize run pass = reached at here ⊢
  obtain ⟨error | value, reached⟩ := reached <;> exact ⟨here, fun _ _ => trivial⟩

theorem takes_runPart (rendersChildren : Bool) (node : Node) :
    Eval.Takes scope (fun _ _ => True) (runPart scope config rendersChildren node) := by
  intro pass
  refine ⟨?_, fun _ _ => trivial⟩
  have here : Pass.Follows scope pass
      (Eval.node scope config node (pass.openPart rendersChildren)).2 :=
    ⟨(Eval.takes_node scope config node (pass.openPart rendersChildren)).1.moved,
      (Eval.takes_node scope config node (pass.openPart rendersChildren)).1.iterations⟩
  rcases run : Eval.node scope config node (pass.openPart rendersChildren) with ⟨error | ⟨⟩, reached⟩
  · rw [run] at here
    rw [runPart_of_error run]
    exact here
  · rw [run] at here
    rw [runPart_of_ok run]
    exact here

theorem takes_runParts (dense : Bool) (dirty : Dirty) (parts : List Part) (index : Nat)
    (dirtyLocals : NameSet) : Eval.Takes scope (fun _ _ => True)
      (runParts scope config dense dirty index dirtyLocals parts) := by
  have pure {β : Type} (value : β) : Eval.Takes scope (fun _ _ => True) (pure value : Eval σ β) :=
    (Eval.Keeps.pure value).1.imp fun _ _ _ => trivial
  induction parts generalizing index dirtyLocals with
  | nil => exact pure _
  | cons part rest ih =>
    cases part with
    | fixed text => exact (ih _ _).bind (fun _ => pure _) fun _ _ => trivial
    | dynamic part =>
      unfold runParts
      split
      · exact (takes_inPart (takes_runPart true part.node) _ _).bind
          (fun _ => (ih _ _).bind (fun _ => pure _) fun _ _ => trivial) fun _ _ => trivial
      · split
        · exact (ih _ _).bind (fun _ => pure _) fun _ _ => trivial
        · exact (takes_inPart (takes_runPart false part.node) _ _).bind
            (fun _ => (ih _ _).bind (fun _ => pure _) fun _ _ => trivial) fun _ _ => trivial

/-- A rendering, whether or not it succeeds, moves its surroundings. -/
theorem moves_of_render (template : Template) (dirty : Dirty) (view : ClientView) (scope : Scope σ)
    (config : Config) (world : σ) (store : Store) :
    Relation.ReflTransGen scope.Move (world, store)
      (render template dirty view scope config world store).2.2 := by
  have follows : Pass.Follows scope (Pass.start world store)
      (runParts scope config (isDense template dirty view) dirty 0 NameSet.empty template.parts
        (Pass.start world store)).2 := (takes_runParts _ dirty template.parts 0 _ _).1
  have moved := follows.moved
  simp only [render, ExceptT.run]
  generalize runParts scope config (isDense template dirty view) dirty 0 NameSet.empty
    template.parts (Pass.start world store) = reached at moved ⊢
  obtain ⟨error | value, pass⟩ := reached <;> exact moved

/-- **A rendering is the same when notes are taken of it**: whatever the scope that takes them notes, it answers
like the other one. -/
theorem render_with_notes {τ : Type} {scope : Scope σ} {taking : Scope (σ × τ)}
    (mirrors : scope.Mirrors taking (fun world noted => world = noted.1) fun _ => False)
    (template : Template) (dirty : Dirty) (view : ClientView) (config : Config) (world : σ) (notes : τ)
    (store : Store) :
    let (result, seen, after, stored) := render template dirty view scope config world store
    let noted := render template dirty view taking config (world, notes) store
    noted = (result, seen, (after, noted.2.2.1.2), stored) := by
  have mirrored := mirrored_render mirrors config template dirty view
    (show world = (world, notes).1 from rfl) store
  generalize render template dirty view scope config world store = plain,
    render template dirty view taking config (world, notes) store = noted at mirrored ⊢
  obtain ⟨result, seen, after, stored⟩ := plain
  obtain ⟨answer, shown, ⟨around, taken⟩, kept⟩ := noted
  rcases mirrored with ⟨rfl, rfl, rfl, rfl⟩ | ⟨_, impossible⟩
  · rfl
  · exact impossible.elim

end Render

/-! ### Calls for children -/

/-- A call for a child: its class and its id, and the world and the store that it finds. -/
structure Scope.Call (σ : Type) where
  className : String
  id : String
  world : σ
  store : Store

/-- A scope that notes the calls for children, in order. -/
def Scope.noting (scope : Scope σ) : Scope (σ × List (Scope.Call σ)) where
  lookup name world store :=
    let (result, after, stored) := scope.lookup name world.1 store
    (result, (after, world.2), stored)
  call name arguments world store :=
    let (result, after, stored) := scope.call name arguments world.1 store
    (result, (after, world.2), stored)
  renderChild className id world store :=
    let (result, after, stored) := scope.renderChild className id world.1 store
    (result, (after, world.2 ++ [⟨className, id, world.1, store⟩]), stored)

/-- **What a run does to its surroundings**, failing or not, and the calls for children it makes. -/
inductive Scope.Path (scope : Scope σ) : σ × Store → List (Scope.Call σ) → σ × Store → Prop
  | start (around : σ × Store) : Path scope around [] around
  | quiet {before middle after : σ × Store} {calls : List (Scope.Call σ)}
    (path : Path scope before calls middle) (move : scope.Quiet middle after) :
    Path scope before calls after
  | child {before : σ × Store} {calls : List (Scope.Call σ)} {world : σ} {store : Store}
    (path : Path scope before calls (world, store)) (className id : String) :
    Path scope before (calls ++ [⟨className, id, world, store⟩])
      (scope.renderChild className id world store).2

section

variable {scope : Scope σ}

/-- A quiet move is a move. -/
theorem Scope.Quiet.move {before after : σ × Store} (quiet : scope.Quiet before after) :
    scope.Move before after := by
  cases quiet with
  | lookup name world store => exact .lookup name world store
  | call name arguments world store => exact .call name arguments world store
  | grow world grows => exact .grow world grows

/-- **What every move keeps** holds where a path leads, and where its calls are made. -/
theorem Scope.Path.kept {motive : σ × Store → Prop}
    (moves : ∀ {before after}, scope.Move before after → motive before → motive after)
    {before after : σ × Store} {calls : List (Scope.Call σ)} (path : scope.Path before calls after)
    (start : motive before) :
    motive after ∧ ∀ call ∈ calls, motive (call.world, call.store) := by
  induction path with
  | start => exact ⟨start, by simp⟩
  | quiet _ quiet ih => exact ⟨moves quiet.move ih.1, ih.2⟩
  | @child calls world store _ className id ih =>
    refine ⟨moves (.child className id world store) ih.1, fun call member => ?_⟩
    rcases List.mem_append.mp member with early | last
    · exact ih.2 call early
    · cases List.mem_singleton.mp last
      exact ih.1

theorem Scope.noting_mirrors :
    scope.Mirrors scope.noting (fun world noted => world = noted.1) fun _ => False where
  lookup := by
    rintro _ noted rfl name store
    exact .same rfl
  call := by
    rintro _ noted rfl name arguments store
    exact .same rfl
  child := by
    rintro _ noted rfl className id store
    exact .same rfl
  lookupOut := nofun
  callOut := nofun
  childOut := nofun

/-- What a scope that takes notes moves quietly, it leaves its notes at. -/
theorem Scope.Quiet.of_noting {before after : (σ × List (Scope.Call σ)) × Store}
    (move : scope.noting.Quiet before after) :
    scope.Quiet (before.1.1, before.2) (after.1.1, after.2) ∧ after.1.2 = before.1.2 := by
  cases move with
  | lookup name noted store => exact ⟨.lookup name noted.1 store, rfl⟩
  | call name arguments noted store => exact ⟨.call name arguments noted.1 store, rfl⟩
  | grow noted grows => exact ⟨.grow noted.1 grows, rfl⟩

/-- The moves of a scope that takes notes are a path with the calls that it has noted. -/
theorem Scope.Path.of_noting {before after : (σ × List (Scope.Call σ)) × Store}
    (empty : before.1.2 = []) (moved : Relation.ReflTransGen scope.noting.Move before after) :
    scope.Path (before.1.1, before.2) after.1.2 (after.1.1, after.2) := by
  induction moved with
  | refl => exact empty ▸ .start _
  | tail _ move ih =>
    cases move with
    | lookup name noted store => exact ih.quiet (.lookup name noted.1 store)
    | call name arguments noted store => exact ih.quiet (.call name arguments noted.1 store)
    | child className id noted store => exact ih.child className id
    | grow noted grows => exact ih.quiet (.grow noted.1 grows)

/-- A call for a child is answered with a child that is shown. -/
def Scope.Answers (scope : Scope σ) (call : Scope.Call σ) (shown : Shown) : Prop :=
  ∃ child after, scope.renderChild call.className call.id call.world call.store = (.ok child, after) ∧
    shown = ⟨call.id, child.rendered⟩

theorem Scope.map_id_of_answers {calls : List (Scope.Call σ)} {shown : List Shown}
    (answered : List.Forall₂ scope.Answers calls shown) :
    calls.map Scope.Call.id = shown.map Shown.id := by
  induction answered with
  | nil => rfl
  | cons answer _ ih =>
    obtain ⟨child, after, _, rfl⟩ := answer
    rw [List.map_cons, List.map_cons, ih]

/-- What was noted while some children were shown: the calls that were answered with them. -/
theorem Scope.Run.noted {before after : (σ × List (Scope.Call σ)) × Store} {shown : List Shown}
    (run : scope.noting.Run before shown after) :
    ∃ calls, after.1.2 = before.1.2 ++ calls ∧ List.Forall₂ scope.Answers calls shown := by
  induction run with
  | start => exact ⟨[], (List.append_nil _).symm, .nil⟩
  | quiet _ move ih => rwa [move.of_noting.2]
  | @child _ _ world store className id child _ rendered ih =>
    obtain ⟨calls, noted, answered⟩ := ih
    rcases here : scope.renderChild className id world.1 store with ⟨result, around, stored⟩
    simp only [Scope.noting, here] at rendered
    cases rendered
    refine ⟨calls ++ [⟨className, id, world.1, store⟩], ?_, ?_⟩
    · rw [← List.append_assoc, ← noted]
    · exact List.rel_append answered (.cons ⟨child, _, here, rfl⟩ .nil)

end

namespace Render

variable (template : Template) (dirty : Dirty) (view : ClientView) (scope : Scope σ)
  (config : Config) (world : σ) (store : Store)

/-- The calls for children that a rendering makes, in order. -/
def calls : List (Scope.Call σ) :=
  (render template dirty view scope.noting config (world, []) store).2.2.1.2

/-- A rendering is the same when its calls are noted. -/
theorem render_noting :
    let (result, seen, after, stored) := render template dirty view scope config world store
    render template dirty view scope.noting config (world, []) store =
      (result, seen, (after, calls template dirty view scope config world store), stored) :=
  render_with_notes scope.noting_mirrors template dirty view config world [] store

/-- **A rendering takes its surroundings along a path** with its calls. -/
theorem path_of_render :
    scope.Path (world, store) (calls template dirty view scope config world store)
      (render template dirty view scope config world store).2.2 := by
  have noted := render_noting template dirty view scope config world store
  have path := Scope.Path.of_noting rfl
    (moves_of_render template dirty view scope.noting config (world, []) store)
  rw [noted] at path
  exact path

/-- **Where a rendering succeeds, its calls are answered** with the children that it shows. -/
theorem answers_of_render {rendered : Rendered} {after : ClientView} {reached : σ} {stored : Store}
    (ran : render template dirty view scope config world store =
      (.ok rendered, after, reached, stored)) :
    ∃ shown, List.Forall₂ scope.Answers (calls template dirty view scope config world store) shown ∧
      childrenOf rendered.slots = shown.map Shown.id ∧
      rendered.renderedChildren = shown.flatMap Shown.rendered := by
  have noted := render_noting template dirty view scope config world store
  rw [ran] at noted
  obtain ⟨⟨shown, run, named, within⟩, _⟩ := exists_run_of_render noted
  obtain ⟨calls, same, answered⟩ := run.noted
  dsimp only at same
  rw [List.nil_append] at same
  subst same
  exact ⟨shown, answered, named, within⟩

end Render

end ReactiveView
