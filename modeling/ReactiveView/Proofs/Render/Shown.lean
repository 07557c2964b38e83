/-
**The children that a rendering shows.**

A run that succeeds has asked for names and helpers, let the store grow, and rendered children, one
after the other, each of them with success. The slots of a rendering name exactly the children that
were rendered for them, in order, and with them comes all that was rendered inside of those.

* `Scope.Run` — what a run that succeeds does to its surroundings, and the children it shows.
* `Eval.shows` — a run of a node is one of these.
* `runParts_induct` — induction over the parts of a rendering.
* `exists_run_of_render` — so is a rendering; its slots name the children.
* `view_of_render` — the view after a rendering that succeeds.
-/

import ReactiveView.Proofs.Render.Mirror
import ReactiveView.Proofs.Render.Parts

namespace ReactiveView

variable {σ α β : Type}

/-- A child that was rendered, with everything that was rendered inside of it. -/
structure Shown where
  id : String
  rendered : List String

/-- A question for a name or a helper, or growth of the store. -/
inductive Scope.Quiet (scope : Scope σ) : σ × Store → σ × Store → Prop
  | lookup (name : String) (world : σ) (store : Store) :
    Quiet scope (world, store) (scope.lookup name world store).2
  | call (name : String) (arguments : List Value) (world : σ) (store : Store) :
    Quiet scope (world, store) (scope.call name arguments world store).2
  | grow (world : σ) {before after : Store} (grows : before.Grows after) :
    Quiet scope (world, before) (world, after)

/-- **What a run does to its surroundings as long as nothing fails**, and the children it shows. -/
inductive Scope.Run (scope : Scope σ) : σ × Store → List Shown → σ × Store → Prop
  | start (around : σ × Store) : Run scope around [] around
  | quiet {before middle after : σ × Store} {shown : List Shown} (run : Run scope before shown middle)
    (move : scope.Quiet middle after) : Run scope before shown after
  | child {before after : σ × Store} {shown : List Shown} {world : σ} {store : Store}
    {className id : String} {child : ChildRender} (run : Run scope before shown (world, store))
    (rendered : scope.renderChild className id world store = (.ok child, after)) :
    Run scope before (shown ++ [⟨id, child.rendered⟩]) after

theorem Scope.Run.trans {scope : Scope σ} {before middle after : σ × Store}
    {shown more : List Shown} (first : scope.Run before shown middle)
    (second : scope.Run middle more after) : scope.Run before (shown ++ more) after := by
  induction second with
  | start => exact (List.append_nil shown).symm ▸ first
  | quiet _ move ih => exact ih.quiet move
  | child _ rendered ih =>
    rw [← List.append_assoc]
    exact ih.child rendered

namespace Render

/-- What has become of a pass that went on without a failure, showing some children. -/
structure Pass.Shows (scope : Scope σ) (before : Pass σ) (shown : List Shown) (after : Pass σ) :
    Prop where
  run : scope.Run before.around shown after.around
  direct : after.direct = before.direct ++ shown.map Shown.id
  rendered : after.rendered = before.rendered ++ shown.flatMap Shown.rendered
  children : after.rendersChildren = before.rendersChildren
  hidden : before.rendersChildren = false → shown = []

namespace Eval

/-- A step that shows some children whenever it succeeds. -/
def Shows (scope : Scope σ) (run : Eval σ α) : Prop := ∀ (pass : Pass σ) (value : α),
  (run pass).1 = .ok value → ∃ shown, Pass.Shows scope pass shown (run pass).2

namespace Shows

variable {scope : Scope σ} {run : Eval σ α}

theorem bind (first : Shows scope run) {next : α → Eval σ β}
    (after : ∀ value, Shows scope (next value)) : Shows scope (run >>= next) := by
  intro pass value ok
  have here := first pass
  rw [bind_apply] at ok ⊢
  generalize run pass = reached at here ok ⊢
  obtain ⟨error | middle, reached⟩ := reached
  · cases ok
  · obtain ⟨shown, shows⟩ := here middle rfl
    obtain ⟨more, further⟩ := after middle reached value ok
    refine ⟨shown ++ more, shows.run.trans further.run, ?_, ?_, ?_, fun hidden => ?_⟩
    · rw [further.direct, shows.direct, List.append_assoc, List.map_append]
    · rw [further.rendered, shows.rendered, List.append_assoc, List.flatMap_append]
    · exact further.children.trans shows.children
    · rw [shows.hidden hidden, further.hidden (shows.children.trans hidden), List.append_nil]

/-- A step without children. -/
theorem of_quiet (moved : ∀ pass value, (run pass).1 = .ok value →
      (run pass).2.around = pass.around ∨ scope.Quiet pass.around (run pass).2.around)
    (direct : ∀ pass, (run pass).2.direct = pass.direct)
    (rendered : ∀ pass, (run pass).2.rendered = pass.rendered)
    (children : ∀ pass, (run pass).2.rendersChildren = pass.rendersChildren) :
    Shows scope run := by
  intro pass value ok
  refine ⟨[], ?_, ?_, ?_, children pass, fun _ => rfl⟩
  · rcases moved pass value ok with same | move
    · exact same ▸ .start _
    · exact .quiet (.start _) move
  · simp only [direct, List.map_nil, List.append_nil]
  · simp only [rendered, List.flatMap_nil, List.append_nil]

/-- A step that leaves its surroundings alone. -/
theorem still (around : ∀ pass, (run pass).2.around = pass.around)
    (direct : ∀ pass, (run pass).2.direct = pass.direct)
    (rendered : ∀ pass, (run pass).2.rendered = pass.rendered)
    (children : ∀ pass, (run pass).2.rendersChildren = pass.rendersChildren) :
    Shows scope run :=
  of_quiet (fun pass _ _ => Or.inl (around pass)) direct rendered children

theorem pure (value : α) : Shows scope (Pure.pure value : Eval σ α) :=
  .still (fun _ => rfl) (fun _ => rfl) (fun _ => rfl) fun _ => rfl

theorem settled (result : Except Error α) : Shows scope (Eval.settled result) :=
  .still (fun _ => rfl) (fun _ => rfl) (fun _ => rfl) fun _ => rfl

theorem refuse (reason : String) : Shows scope (Eval.refuse reason : Eval σ α) :=
  fun _ _ ok => by cases ok

theorem textOf (value : Value) : Shows scope (Eval.textOf value) :=
  .still (fun _ => rfl) (fun _ => rfl) (fun _ => rfl) fun _ => rfl

/-- A question that moves the surroundings quietly. -/
theorem asking {f : σ → Store → Answer σ α}
    (move : ∀ world store, scope.Quiet (world, store) (f world store).2) :
    Shows scope (Eval.asking f) :=
  .of_quiet (fun pass _ _ => Or.inr (move pass.world pass.store)) (fun _ => rfl) (fun _ => rfl)
    fun _ => rfl

theorem onStore {f : Store → Outcome} (grows : ∀ store : Store, store.Grows (f store).2) :
    Shows scope (Eval.onStore f) :=
  .of_quiet (fun pass _ _ => Or.inr (.grow pass.world (grows pass.store))) (fun _ => rfl)
    (fun _ => rfl) fun _ => rfl

theorem make {f : Store → Value × Store} (grows : ∀ store : Store, store.Grows (f store).2) :
    Shows scope (Eval.make f) :=
  .of_quiet (fun pass _ _ => Or.inr (.grow pass.world (grows pass.store))) (fun _ => rfl)
    (fun _ => rfl) fun _ => rfl

end Shows

variable (scope : Scope σ) (config : Config)

theorem shows_lookup (name : String) : Shows scope (lookup scope config name) := by
  have found (frames : Frames) : Shows scope
      (Eval.asking (answerFor scope name (findLocal frames name)) >>= fun found =>
        Eval.settled (Lockstep.foundOr config name found)) := by
    refine Shows.bind ?_ fun _ => .settled _
    cases findLocal frames name with
    | some value => exact .asking fun world store => .grow world (.refl store)
    | none => exact .asking fun world store => .lookup name world store
  intro pass value ok
  rw [Lockstep.lookup_apply] at ok ⊢
  exact found pass.frames pass value ok

/-- **A child that is rendered is shown**; one that is left alone is not. -/
theorem shows_child (className id : String) : Shows scope (child scope className id) := by
  intro pass value ok
  rw [child_apply] at ok ⊢
  split at ok
  · next renders =>
    rw [if_pos renders]
    rw [bind_apply] at ok ⊢
    rcases answer : scope.renderChild className id pass.world pass.store with
      ⟨error | child, world, store⟩
    · have asked : Eval.asking (scope.renderChild className id) pass =
          (.error error, { pass with world, store }) := by simp only [Eval.asking, answer]
      rw [asked] at ok
      cases ok
    · have asked : Eval.asking (scope.renderChild className id) pass =
          (.ok child, { pass with world, store }) := by simp only [Eval.asking, answer]
      rw [asked]
      refine ⟨[⟨id, child.rendered⟩], .child (.start pass.around) answer, rfl, ?_, rfl,
        fun hidden => ?_⟩
      · simp only [List.flatMap_cons, List.flatMap_nil, List.append_nil]
        rfl
      · rw [hidden] at renders
        cases renders
  · next hidden =>
    rw [if_neg hidden]
    exact ⟨[], .start _, (List.append_nil _).symm, (List.append_nil _).symm, rfl, fun _ => rfl⟩

theorem shows_helper (name : String) (arguments : List Value) :
    Shows scope (helper scope name arguments) := by
  refine (Shows.asking fun world store => .call name arguments world store).bind fun found => ?_
  split
  · exact .pure _
  · exact .refuse _

/-! ### Nodes -/

theorem shows_push (piece : Piece) : Shows scope (push config piece) := by
  refine .still (fun pass => ?_) (fun pass => ?_) (fun pass => ?_) fun pass => ?_ <;>
    rw [push_apply] <;> split <;> rfl

theorem shows_pairs (iterable : Value) : Shows scope (pairs config iterable) := by
  cases iterable with
  | list list =>
    exact .of_quiet (fun pass _ _ => Or.inr
      (.grow pass.world (TrackedList.peruses_iterate list _).toGrows))
      (fun _ => rfl) (fun _ => rfl) fun _ => rfl
  | map map =>
    exact .of_quiet (fun pass _ _ => Or.inr
      (.grow pass.world (TrackedMap.peruses_iterate map _).toGrows))
      (fun _ => rfl) (fun _ => rfl) fun _ => rfl
  | _ => exact .still (fun _ => rfl) (fun _ => rfl) (fun _ => rfl) fun _ => rfl

theorem shows_count : Shows scope (count config) := by
  refine .still (fun pass => ?_) (fun pass => ?_) (fun pass => ?_) fun pass => ?_ <;>
    rw [count_apply] <;> split <;> rfl

theorem shows_bind (name : String) (value : Value) : Shows scope (bind name value) := by
  refine .still (fun pass => ?_) (fun pass => ?_) (fun pass => ?_) fun pass => ?_ <;> rw [bind_eq]
  rfl

/-- **A node shows the children that it renders**: all its steps do. -/
theorem shows : NodeLaw scope config fun run => Shows scope run where
  pure value := .pure value
  bind first after := first.bind after
  refuse reason := .refuse reason
  textOf value := .textOf value
  newList _ := .make fun _ => (Store.peruses_newList ..).toGrows
  field _ _ := .onStore fun _ => (peruses_readField ..).toGrows
  index _ _ := .onStore fun _ => (peruses_readIndex ..).toGrows
  method _ _ _ := .onStore fun _ => (peruses_callMethod ..).toGrows
  unary op value := .settled (Render.unary op value)
  binary _ _ _ := .onStore fun _ => (peruses_binary ..).toGrows
  lookup name := shows_lookup scope config name
  child className id := shows_child scope className id
  helper name arguments := shows_helper scope name arguments
  push piece := shows_push scope config piece
  pairs iterable := shows_pairs scope config iterable
  count := shows_count scope config
  enter _ := .still (fun _ => rfl) (fun _ => rfl) (fun _ => rfl) fun _ => rfl
  leave := .still (fun _ => rfl) (fun _ => rfl) (fun _ => rfl) fun _ => rfl
  bindLocal name value := shows_bind scope name value

end Eval

/-! ### Parts -/

/-- The children that some slots name. -/
def childrenOf (slots : List Slot) : List String := slots.flatMap fun slot => slot.children.getD []

variable {scope : Scope σ} {config : Config}

/-- A part that ran has shown the children of its output, and none if they are left alone. -/
theorem exists_run_of_runPart {rendersChildren : Bool} {node : Node} {pass after : Pass σ}
    {output : PartOutput} (ran : runPart scope config rendersChildren node pass = (.ok output, after)) :
    ∃ shown, scope.Run pass.around shown after.around ∧ output.direct = shown.map Shown.id ∧
      output.rendered = shown.flatMap Shown.rendered ∧ (rendersChildren = false → shown = []) := by
  rcases run : Eval.node scope config node (pass.openPart rendersChildren) with ⟨error | ⟨⟩, reached⟩
  · rw [runPart_of_error run] at ran
    cases ran
  · rw [runPart_of_ok run] at ran
    cases ran
    have shows := (Eval.shows scope config).node node (pass.openPart rendersChildren) ()
    rw [run] at shows
    obtain ⟨shown, shows⟩ := shows rfl
    exact ⟨shown, shows.run, shows.direct, shows.rendered, shows.hidden⟩

/-- What some parts have brought: the children of their slots were rendered, and a part without new
markup names none. -/
structure Brings (scope : Scope σ) (dense : Bool) (before : Pass σ) (slots : List Slot)
    (rendered : List String) (after : Pass σ) : Prop where
  run : ∃ shown, scope.Run before.around shown after.around ∧
    childrenOf slots = shown.map Shown.id ∧ rendered = shown.flatMap Shown.rendered
  blank : ∀ slot ∈ slots, slot.html = none → slot.children = none ∧ dense = false

/-- The slot of one more part, in front. -/
theorem Brings.cons {dense : Bool} {before middle after : Pass σ} {slots : List Slot}
    {rendered inside : List String} {slot : Slot} {shown : List Shown}
    (run : scope.Run before.around shown middle.around)
    (direct : slot.children.getD [] = shown.map Shown.id)
    (within : inside = shown.flatMap Shown.rendered)
    (blank : slot.html = none → slot.children = none ∧ dense = false)
    (rest : Brings scope dense middle slots rendered after) :
    Brings scope dense before (slot :: slots) (inside ++ rendered) after where
  run := by
    obtain ⟨more, further, named, all⟩ := rest.run
    refine ⟨shown ++ more, run.trans further, ?_, ?_⟩
    · rw [List.map_append, ← named, ← direct]
      rfl
    · rw [List.flatMap_append, within, all]
  blank other member := by
    rcases List.mem_cons.mp member with rfl | member
    · exact blank
    · exact rest.blank other member

/-- The slot of one more part that shows no children, in front. -/
theorem Brings.skip {dense : Bool} {before middle after : Pass σ} {slots : List Slot}
    {rendered : List String} {html : Option String} (run : scope.Run before.around [] middle.around)
    (blank : html = none → dense = false) (rest : Brings scope dense middle slots rendered after) :
    Brings scope dense before (⟨html, none⟩ :: slots) rendered after := by
  have within : ([] : List String) = ([] : List Shown).flatMap Shown.rendered := rfl
  exact rest.cons run rfl within fun none => ⟨rfl, blank none⟩

/-- **Induction over the parts of a rendering that succeeds**: a part is rendered, or it adds no
children. -/
theorem runParts_induct {dense : Bool} {dirty : Dirty}
    {motive : List Part → Pass σ → List Slot → List String → Pass σ → Prop}
    (nil : ∀ pass, motive [] pass [] [] pass)
    (skipped : ∀ (part : Part) (html : Option String) {rest before slots rendered after},
      (html = none → dense = false) → (∀ dynamic, part = .dynamic dynamic → html = none) →
      motive rest before slots rendered after →
      motive (part :: rest) before (⟨html, none⟩ :: slots) rendered after)
    (shown : ∀ (part : DynamicPart) {rest before output middle slots rendered after},
      runPart scope config true part.node before = (.ok output, middle) →
      motive rest middle slots rendered after →
      motive (.dynamic part :: rest) before
        (⟨some (Piece.join output.pieces), some output.direct⟩ :: slots) (output.rendered ++ rendered)
        after)
    (silent : ∀ (part : DynamicPart) {rest before output middle slots rendered after},
      dense = false → runPart scope config false part.node before = (.ok output, middle) →
      motive rest middle slots rendered after →
      motive (.dynamic part :: rest) before (⟨none, none⟩ :: slots) rendered after)
    {parts : List Part} {index : Nat} {dirtyLocals : NameSet} {pass after : Pass σ}
    {slots : List Slot} {rendered : List String}
    (ran : runParts scope config dense dirty index dirtyLocals parts pass =
      (.ok (slots, rendered), after)) : motive parts pass slots rendered after := by
  induction parts generalizing index dirtyLocals pass slots rendered with
  | nil =>
    cases ran
    exact nil _
  | cons part rest ih =>
    -- the other parts, whose slots come behind
    have behind {before : Pass σ} {locals : NameSet} {f : List Slot × List String →
        List Slot × List String}
        (ran : (runParts scope config dense dirty (index + 1) locals rest >>= fun others =>
          return f others) before = (.ok (slots, rendered), after)) :
        ∃ others more, motive rest before others more after ∧ f (others, more) = (slots, rendered) := by
      rw [Eval.bind_apply] at ran
      rcases reached : runParts scope config dense dirty (index + 1) locals rest before with
        ⟨error | ⟨others, more⟩, last⟩
      · rw [reached] at ran
        cases ran
      · rw [reached] at ran
        obtain ⟨same, rfl⟩ := Prod.mk.inj ran
        exact ⟨others, more, ih reached, Except.ok.inj same⟩
    cases part with
    | fixed text =>
      obtain ⟨others, more, later, same⟩ := behind ran
      cases same
      refine skipped (.fixed text) _ (fun none => ?_) (fun _ => nofun) later
      cases dense with
      | true => cases none
      | false => rfl
    | dynamic part =>
      unfold runParts at ran
      split at ran
      · rw [Eval.bind_apply] at ran
        unfold inPart at ran
        rcases run : runPart scope config true part.node pass with ⟨error | output, middle⟩
        · rw [run] at ran
          cases ran
        · rw [run] at ran
          obtain ⟨others, more, later, same⟩ := behind ran
          cases same
          exact shown part run later
      · next unaffected =>
        have sparse : dense = false := by
          rw [isAffected, Bool.or_eq_true, not_or, Bool.not_eq_true] at unaffected
          exact unaffected.1
        cases kind : part.kind with
        | expression =>
          rw [kind] at ran
          obtain ⟨others, more, later, same⟩ := behind ran
          cases same
          exact skipped (.dynamic part) none (fun _ => sparse) (fun _ _ => rfl) later
        | block =>
          simp only [kind] at ran
          rw [Eval.bind_apply] at ran
          unfold inPart at ran
          rcases run : runPart scope config false part.node pass with ⟨error | output, middle⟩
          · rw [run] at ran
            cases ran
          · rw [run] at ran
            obtain ⟨others, more, later, same⟩ := behind ran
            cases same
            exact silent part sparse run later

theorem brings_runParts {dense : Bool} {dirty : Dirty} {parts : List Part} {index : Nat}
    {dirtyLocals : NameSet} {pass after : Pass σ} {slots : List Slot} {rendered : List String}
    (ran : runParts scope config dense dirty index dirtyLocals parts pass =
      (.ok (slots, rendered), after)) : Brings scope dense pass slots rendered after := by
  refine runParts_induct (motive := fun _ pass slots rendered after =>
    Brings scope dense pass slots rendered after) ?_ ?_ ?_ ?_ ran
  · exact fun pass => ⟨⟨[], .start _, rfl, rfl⟩, fun slot member => by cases member⟩
  · exact fun _ _ _ _ _ _ _ blank _ brings => brings.skip (.start _) blank
  · intro _ _ _ _ _ _ _ _ run brings
    obtain ⟨shown, run, direct, within, _⟩ := exists_run_of_runPart run
    exact brings.cons run direct within (fun none => by cases none)
  · intro _ _ _ _ _ _ _ _ sparse run brings
    obtain ⟨shown, run, _, _, hidden⟩ := exists_run_of_runPart run
    exact brings.skip (hidden rfl ▸ run) fun _ => sparse

/-! ### Renderings -/

section

variable {template : Template} {dirty : Dirty} {view after : ClientView} {world reached : σ}
  {store stored : Store} {rendered : Rendered}

/-- **What a rendering that succeeds has done**, and which children it shows. -/
theorem exists_run_of_render (ran : render template dirty view scope config world store =
      (.ok rendered, after, reached, stored)) :
    (∃ shown, scope.Run (world, store) shown (reached, stored) ∧
      childrenOf rendered.slots = shown.map Shown.id ∧
      rendered.renderedChildren = shown.flatMap Shown.rendered) ∧
    ∀ slot ∈ rendered.slots, slot.html = none →
      slot.children = none ∧ isDense template dirty view = false := by
  simp only [render, ExceptT.run] at ran
  rcases run : runParts scope config (isDense template dirty view) dirty 0 NameSet.empty
    template.parts (Pass.start world store) with ⟨error | ⟨slots, children⟩, pass⟩
  · rw [run] at ran
    cases ran
  · rw [run] at ran
    cases ran
    have brings := brings_runParts run
    exact ⟨brings.run, brings.blank⟩

/-- A rendering without new markup shows no children. -/
theorem renderedChildren_of_isEmpty (ran : render template dirty view scope config world store =
      (.ok rendered, after, reached, stored)) (empty : rendered.isEmpty = true) :
    rendered.renderedChildren = [] := by
  obtain ⟨⟨shown, _, named, all⟩, blank⟩ := exists_run_of_render ran
  have none : childrenOf rendered.slots = [] := by
    rw [childrenOf, List.flatMap_eq_nil_iff]
    intro slot member
    have bare := List.all_eq_true.mp empty slot member
    rw [(blank slot member (Option.isNone_iff_eq_none.mp bare)).1]
    rfl
  rw [none, eq_comm, List.map_eq_nil_iff] at named
  rw [all, named]
  rfl

/-! ### Views after a rendering -/

/-- After a rendering that succeeds, the view is one of the template. -/
theorem view_of_render (ran : render template dirty view scope config world store =
      (.ok rendered, after, reached, stored)) :
    after.variant = some template.variant ∧ after.staticSent = true ∧
      after.fragments.length = template.parts.length ∧
      rendered.slots.length = template.parts.length := by
  obtain ⟨brought, dense, committed⟩ := slots_of_render (congrArg Prod.fst ran)
  rw [ran] at committed
  subst committed
  have length := length_of_slots brought
  unfold ClientView.commit
  split
  · exact ⟨rfl, rfl, by rw [← length]; exact List.length_map .., length⟩
  · next thin =>
    rw [dense, isDense, Bool.or_eq_true, not_or, ClientView.needsDense, Bool.not_eq_true,
      Bool.not_eq_true, Bool.or_eq_false_iff, Bool.not_eq_false', bne_eq_false_iff_eq] at thin
    exact ⟨thin.2.2, thin.2.1, by rw [← length]; exact ClientView.length_overlay .., length⟩

/-- A rendering that is not dense is one for a client that has the template. -/
theorem sent_of_thin (ran : render template dirty view scope config world store =
      (.ok rendered, after, reached, stored)) (thin : rendered.dense = false) :
    view.staticSent = true ∧ view.variant = some template.variant := by
  obtain ⟨_, dense, _⟩ := slots_of_render (congrArg Prod.fst ran)
  rw [dense, isDense, ClientView.needsDense, Bool.or_eq_false_iff, Bool.or_eq_false_iff,
    Bool.not_eq_false', bne_eq_false_iff_eq] at thin
  exact thin.2

/-- A dense rendering brings every part. -/
theorem dense_of_full (ran : render template dirty view scope config world store =
      (.ok rendered, after, reached, stored)) (blank : none ∈ rendered.markup) :
    rendered.dense = false := by
  obtain ⟨slot, member, none⟩ := List.mem_map.mp blank
  rw [(slots_of_render (congrArg Prod.fst ran)).2.1]
  exact ((exists_run_of_render ran).2 slot member none).2

end

end Render

end ReactiveView
