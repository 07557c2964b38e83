/-
**What a sparse rendering shows.**

A block that is not affected runs for its locals, and its children are left alone: a call of a child
gives no text there. A local that got its value from such a call is stale: it is not what a dense
rendering would give it. Every part that reads no stale local shows what a dense rendering shows.

* `sparse_slot_eq_dense` — a slot of a part that reads no stale local.
* `faithful_of_childless` — no local is stale where only outputs call children.
* `sparse_slot_differs` — a stale local in the next output.
-/

import ReactiveView.Proofs.Render.Incremental

namespace ReactiveView.Render

open Template

variable {σ : Type}

/-! ### Stale locals -/

/-- Whether a part reads one of some names. -/
def readsAny (names : NameSet) (part : DynamicPart) : Bool :=
  part.node.reads.any fun name => name ∈ names

/--
The stale locals after a part: its own become stale if it reads a stale one, or if it runs silently
and a child decides on them; what it binds otherwise is not stale any more.
-/
def staleAfter (affected : Bool) (stale : NameSet) (part : DynamicPart) : NameSet :=
  if readsAny stale part || !affected && decide ("child" ∈ part.node.decisions) then
    stale.union part.locals
  else stale.diff (NameSet.ofList part.node.binds)

/-- For each part, whether it reads no stale local in a sparse rendering. -/
def faithful (dirty : NameSet) (dirtyLocals stale : NameSet) : List Part → List Bool
  | [] => []
  | .fixed _ :: rest => true :: faithful dirty dirtyLocals stale rest
  | .dynamic part :: rest =>
    let affected := isAffected false (.names dirty) dirtyLocals part
    (!readsAny stale part) ::
      faithful dirty (if affected then dirtyLocals.union part.locals else dirtyLocals)
        (staleAfter affected stale part) rest

/-- Where a part is faithful and the first slot has a text, the other one has that text. -/
def Shows (marks : List Bool) (new whole : List Slot) : Prop :=
  ∀ index : Nat, marks[index]? = some true → ∀ slot : Slot, new[index]? = some slot →
    ∀ text, slot.html = some text → whole[index]?.bind Slot.html = some text

theorem Shows.cons {marks : List Bool} {new whole : List Slot} (shows : Shows marks new whole)
    {mark : Bool} {first other : Slot}
    (here : mark = true → ∀ text, first.html = some text → other.html = some text) :
    Shows (mark :: marks) (first :: new) (other :: whole) := by
  intro index marked slot found text shown
  cases index with
  | zero =>
    cases found
    exact here (by simpa using marked) text shown
  | succ index => exact shows index marked slot found text shown

namespace Lockstep

variable {scope : Scope σ} {lock : Lockstep σ σ}

/-- A sparse and a dense pass in front of one part: they know alike every name that is not stale. -/
structure Tracking (lock : Lockstep σ σ) (stale : NameSet) (sparse dense : Pass σ)
    (stage : lock.Stage) : Prop where
  openSparse : sparse.frames ≠ []
  openDense : dense.frames ≠ []
  around : lock.Around stage sparse.around dense.around
  met : ∀ name, name ∉ stale → lock.Met stage name (Eval.findLocal sparse.frames name)
    (Eval.findLocal dense.frames name)

section

variable (law : lock.Lawful scope scope) (free : lock.Undisturbed scope scope) {config : Config}
  {stale : NameSet}
  {sparse dense sparseNext denseNext : Pass σ} {stage later : lock.Stage} {part : DynamicPart}

/-- Two runs of a part that stay in lockstep. -/
theorem Tracking.carried (affected : Bool) (tracking : Tracking lock stale sparse dense stage)
    (clear : readsAny stale part = false)
    (decided : affected = true ∨ "child" ∉ part.node.decisions)
    (shifted : Eval.Rebinds part.node.leaves sparse.frames sparseNext.frames)
    (opposed : Eval.Rebinds part.node.leaves dense.frames denseNext.frames)
    (carries : lock.Carries sparse.frames dense.frames stage part.node.binds later
      sparseNext.frames denseNext.frames)
    (around : lock.Around later sparseNext.around denseNext.around) :
    Tracking lock (staleAfter affected stale part) sparseNext denseNext later := by
  refine ⟨shifted.opened tracking.openSparse, opposed.opened tracking.openDense, around,
    fun name fresh => ?_⟩
  have known : name ∉ stale ∨ name ∈ part.node.binds := by
    rw [staleAfter, clear, Bool.false_or, if_neg (by rcases decided with h | h <;> simp [h]),
      NameSet.mem_diff, NameSet.mem_ofList] at fresh
    by_cases bound : name ∈ part.node.binds
    · exact Or.inr bound
    · exact Or.inl fun member => fresh ⟨member, bound⟩
  rcases known with old | bound
  · exact carries.kept name (tracking.met name old)
  · exact carries.bound name bound

include free in
/-- Two runs of a part, each on its own. -/
theorem Tracking.parted (affected : Bool) (analysed : Analysed part)
    (tracking : Tracking lock stale sparse dense stage)
    (stale' : readsAny stale part = true ∨ (affected = false ∧ "child" ∈ part.node.decisions))
    {renders : Bool}
    (thin : Eval.node scope config part.node (sparse.openPart renders) = (.ok (), sparseNext))
    (full : Eval.node scope config part.node (dense.openPart true) = (.ok (), denseNext)) :
    Tracking lock (staleAfter affected stale part) sparseNext denseNext stage := by
  have one := Eval.takes_node scope config part.node (sparse.openPart renders)
  have other := Eval.takes_node scope config part.node (dense.openPart true)
  rw [thin] at one
  rw [full] at other
  have shifted := one.2 () rfl
  have opposed := other.2 () rfl
  refine ⟨shifted.opened tracking.openSparse, opposed.opened tracking.openDense,
    free.moves tracking.around one.1.moved other.1.moved, fun name fresh => ?_⟩
  rw [staleAfter, if_pos (by rcases stale' with h | ⟨h, h'⟩ <;> simp [*]), NameSet.mem_union, not_or,
    analysed.locals, mem_bound_analyze] at fresh
  rw [shifted.findLocal tracking.openSparse fresh.1, opposed.findLocal tracking.openDense fresh.1]
  exact tracking.met name fresh.2

include free in
/-- An output that only the dense run renders. -/
theorem Tracking.skipped (affected : Bool) {value : Expr} {raw : Bool}
    (found : part.node = .output value raw)
    (tracking : Tracking lock stale sparse dense stage) {renders : Bool}
    (full : Eval.node scope config part.node (dense.openPart renders) = (.ok (), denseNext)) :
    Tracking lock (staleAfter affected stale part) sparse denseNext stage := by
  rw [found] at full
  have keeps := (Eval.keeps_outputNode scope config value raw).1 (dense.openPart renders)
  rw [full] at keeps
  have frames : denseNext.frames = dense.frames := (keeps.2 () rfl).symm
  refine ⟨tracking.openSparse, frames ▸ tracking.openDense,
    free.moves tracking.around .refl keeps.1.moved, fun name fresh => ?_⟩
  rw [frames]
  refine tracking.met name fun old => fresh ?_
  rw [staleAfter]
  split
  · exact NameSet.mem_union.mpr (Or.inr old)
  · refine NameSet.mem_diff.mpr ⟨old, ?_⟩
    rw [found]
    simp [Node.binds]

include law free in
/-- Two runs of a part that reads no stale local. -/
theorem Tracking.meets (config : Config) (close : Closeness) (renders : Bool)
    (answered : ∀ name, lock.Answered name) (tracking : Tracking lock stale sparse dense stage)
    (clear : readsAny stale part = false) (apart : close ≠ .exact)
    (decided : "child" ∈ part.node.decisions → close ≠ .hidden)
    (rendered : close ≠ .hidden → renders = true) :
    lock.Meets close stage (fun later fs os _ _ =>
        lock.Carries sparse.frames dense.frames stage part.node.binds later fs os ∧
          Eval.Rebinds part.node.leaves sparse.frames fs ∧
          Eval.Rebinds part.node.leaves dense.frames os)
      (Eval.node scope config part.node (sparse.openPart renders))
      (Eval.node scope config part.node (dense.openPart true)) := by
  have met (name : String) (read : name ∈ part.node.reads) :
      lock.Met stage name (Eval.findLocal sparse.frames name) (Eval.findLocal dense.frames name) := by
    simp only [readsAny, List.any_eq_false, decide_eq_true_eq] at clear
    exact tracking.met name (clear name read)
  have prepared : lock.Prepared close sparse.frames dense.frames stage part.node.reads
      part.node.decisions part.node.calls :=
    ⟨met, fun name member => Or.inr ⟨answered name, fun child => decided (child ▸ member)⟩,
      fun _ name _ => Or.inr (answered name)⟩
  have fitting : lock.Fitting close scope scope := ⟨law, fun _ => free⟩
  exact ((abreast_node fitting part.node tracking.openSparse tracking.openDense prepared).shifted
    (Eval.takes_node scope config part.node) (Eval.takes_node scope config part.node)) _ _
      (.openPart tracking.around (fun visible _ => rendered visible) fun same => absurd same apart)

include law free in
/-- A block that only the dense run shows. -/
theorem Tracking.silent (answered : ∀ name, lock.Answered name) (analysed : Analysed part)
    (tracking : Tracking lock stale sparse dense stage)
    (thin : Eval.node scope config part.node (sparse.openPart false) = (.ok (), sparseNext))
    (full : Eval.node scope config part.node (dense.openPart true) = (.ok (), denseNext)) :
    ∃ later, Tracking lock (staleAfter false stale part) sparseNext denseNext later := by
  by_cases apart : readsAny stale part = true ∨ "child" ∈ part.node.decisions
  · exact ⟨stage, tracking.parted free false analysed
      (apart.imp_right fun member => ⟨rfl, member⟩) thin full⟩
  · obtain ⟨clear, childless⟩ := not_or.mp apart
    have clear := Bool.not_eq_true _ ▸ clear
    have met := tracking.meets law free config .hidden false answered clear
      (fun exact => absurd exact (by decide)) (fun member => absurd member childless)
      (fun visible => absurd rfl visible)
    rw [thin, full] at met
    cases met with
    | ok later _ found beside =>
      exact ⟨later, tracking.carried false clear (Or.inr childless) found.2.1 found.2.2 found.1
        beside.around⟩

include law free in
/-- **Part by part**, a slot of a part that reads no stale local shows what the dense run shows. -/
theorem Tracking.shows (answered : ∀ name, lock.Answered name) {dirty dirtyLocals : NameSet}
    {parts : List Part} (analysed : ∀ part, Part.dynamic part ∈ parts → Analysed part) {index : Nat}
    {fresh : Dirty} {denseLocals : NameSet} {new whole : List Slot}
    (tracking : Tracking lock stale sparse dense stage)
    (thin : slots scope config false (.names dirty) index dirtyLocals parts sparse = .ok new)
    (full : slots scope config true fresh index denseLocals parts dense = .ok whole) :
    Shows (faithful dirty dirtyLocals stale parts) new whole := by
  induction parts generalizing index dirtyLocals denseLocals new whole stale sparse dense stage with
  | nil =>
    intro index marked
    cases marked
  | cons part rest ih =>
    have others := fun part member => analysed part (List.mem_cons_of_mem _ member)
    cases part with
    | fixed text =>
      rw [slots_fixed] at thin full
      obtain ⟨thinRest, thinner, rfl⟩ := exists_of_map_ok thin
      obtain ⟨fullRest, fuller, rfl⟩ := exists_of_map_ok full
      exact (ih others tracking thinner fuller).cons fun _ text shown => by cases shown
    | dynamic part =>
      have here := analysed part List.mem_cons_self
      obtain ⟨denseNext, fullRest, denseRan, fuller, rfl⟩ :=
        exists_of_rendered isAffected_dense full
      cases affected : isAffected false (.names dirty) dirtyLocals part with
      | true =>
        simp only [faithful, affected, if_true]
        obtain ⟨sparseNext, thinRest, sparseRan, thinner, rfl⟩ := exists_of_rendered affected thin
        cases clear : readsAny stale part with
        | true =>
          have next := tracking.parted free true here (Or.inl clear) sparseRan denseRan
          exact (ih others next thinner fuller).cons fun unclear => by cases unclear
        | false =>
          have met := tracking.meets law free config .shown true answered clear
            (fun hidden => absurd hidden (by decide)) (fun _ => by decide) (fun _ => rfl)
          rw [sparseRan, denseRan] at met
          cases met with
          | ok later _ found beside =>
            have next := tracking.carried true clear (Or.inl rfl) found.2.1 found.2.2
              found.1 beside.around
            refine (ih others next thinner fuller).cons fun _ text shown => ?_
            rw [← (beside.shown (by decide)).slot, shown]
      | false =>
        simp only [faithful, affected, Bool.false_eq_true, if_false]
        cases kind : part.kind with
        | expression =>
          obtain ⟨value, raw, found⟩ := here.output kind
          obtain ⟨thinRest, thinner, rfl⟩ := exists_of_skipped affected kind thin
          have next := tracking.skipped free false found denseRan
          exact (ih others next thinner fuller).cons fun _ text shown => by cases shown
        | block =>
          obtain ⟨sparseNext, thinRest, sparseRan, thinner, rfl⟩ :=
            exists_of_silent affected kind thin
          obtain ⟨later, next⟩ := tracking.silent law free answered here sparseRan denseRan
          exact (ih others next thinner fuller).cons fun _ text shown => by cases shown

end

end Lockstep

/-! ### A scope with children -/

/-- The scope of some variables whose children show their class and their id. -/
def withChildren (values : OrderedMap String Value) : Scope Unit :=
  { Scope.ofVariables values with
    renderChild := fun className id world store =>
      (.ok ⟨"<" ++ className ++ " id=" ++ id ++ "/>", [id]⟩, world, store) }

/-- A scope of plain values with children answers as a function. -/
theorem steady_withChildren {values : OrderedMap String Value}
    (plain : ∀ name value, values.get? name = some value → value.ref? = none) :
    (withChildren values).Steady ((), Store.empty) := by
  have still {before after : Unit × Store} (move : (withChildren values).Move before after) :
      before.2.Grows after.2 := by
    cases move with
    | grow _ grows => exact grows
    | _ => exact .refl _
  refine ⟨Store.PairedBeyond fun _ _ => False, fun _ _ => False, ?_, le_rfl, ?_⟩
  · exact {
      paired := fun alike => alike.2
      moveLeft := fun alike move => alike.grow (still move) (.refl _)
      moveRight := fun alike move => alike.grow (.refl _) (still move)
      advance := fun alike advance => ⟨alike.1.trans advance.enlarges, advance.paired⟩
      lookup := fun {larger l r name} alike _ => ⟨larger, le_rfl, alike, .ok (by
        change Option.Rel _ (values.get? name) (values.get? name)
        cases known : values.get? name with
        | none => exact .none
        | some value => exact .some (.scalar (plain name value known)))⟩
      call := fun {larger l r name given others} alike _ _ => ⟨larger, le_rfl, alike, .ok .none⟩
      child := fun {larger l r} alike _ className id => ⟨larger, le_rfl, alike, .ok rfl⟩ }
  · exact .nothing ..

/-- Children beside a number. -/
theorem steady_one : (withChildren (.ofList [("y", .int 1)])).Steady ((), Store.empty) := by
  refine steady_withChildren fun name value known => ?_
  by_cases same : name = "y"
  · subst same
    cases known
    rfl
  · have absent : (OrderedMap.ofList [("y", Value.int 1)]).get? name = none :=
      OrderedMap.get?_insert_of_ne _ same _
    rw [absent] at known
    cases known

/-- The text that a rendering brings for one part. -/
def textAt (result : Except Error Rendered) (index : Nat) : Option String :=
  match result with
  | .ok rendered => rendered.markup[index]?.join
  | .error _ => none

theorem exists_of_textAt {result : Except Error Rendered} {index : Nat} {text : String}
    (shown : textAt result index = some text) :
    ∃ rendered, result = .ok rendered ∧ rendered.markup[index]? = some (some text) := by
  cases result with
  | error _ => cases shown
  | ok rendered => exact ⟨rendered, rfl, Option.join_eq_some_iff.mp shown⟩

/-! ### The rendering -/

/--
**A sparse slot is a dense slot** where its part reads no stale local: under a scope that answers as
a function, whatever was dirty, and whatever the client had.
-/
theorem sparse_slot_eq_dense {className variant source : String} {template : Template}
    (compiled : Template.compile className variant source = .ok template) {scope : Scope σ}
    {world : σ} {store : Store} (steady : scope.Steady (world, store)) (config : Config)
    {dirty : NameSet} {view other : ClientView} {fresh : Dirty} {sparse dense : Rendered}
    (thin : isDense template (.names dirty) view = false)
    (full : isDense template fresh other = true)
    (sparseRan : (render template (.names dirty) view scope config world store).1 = .ok sparse)
    (denseRan : (render template fresh other scope config world store).1 = .ok dense) {index : Nat}
    (clear : (faithful dirty NameSet.empty NameSet.empty template.parts)[index]? = some true)
    {text : String} (emitted : sparse.markup[index]? = some (some text)) :
    dense.markup[index]? = some (some text) := by
  obtain ⟨Alike, pairing, agreement, alike⟩ := steady
  have thinner := (slots_of_render sparseRan).1
  have fuller := (slots_of_render denseRan).1
  rw [thin] at thinner
  rw [full] at fuller
  have tracking : Lockstep.Tracking
      (Scope.Agreement.lockstep (fun _ => True) (fun _ => True) Alike) NameSet.empty
      (Pass.start world store) (Pass.start world store) pairing :=
    ⟨List.cons_ne_nil _ _, List.cons_ne_nil _ _, alike, fun name _ => ⟨.none, fun _ => trivial⟩⟩
  have shows := tracking.shows agreement.lawful agreement.undisturbed (fun _ => trivial)
    (fun part member => Template.analysed_of_compile compiled member) thinner fuller
  rw [Rendered.markup, List.getElem?_map, Option.map_eq_some_iff] at emitted
  obtain ⟨slot, found, shown⟩ := emitted
  have same := shows index clear slot found text shown
  rw [Rendered.markup, List.getElem?_map]
  cases known : dense.slots[index]? with
  | none =>
    rw [known] at same
    cases same
  | some whole =>
    rw [known] at same
    exact congrArg some same

/-- The value of `x` comes from a child; the last output does not read it. -/
theorem sparse_slot_eq_dense_of_clear :
    let scope := withChildren (.ofList [("y", .int 1)])
    ∃ template sparse dense, Template.compile "Page" "default"
        "<% let x = child(\"Row\", \"a\") %><%= x %><%= y %>" = .ok template ∧
      (render template (.names (NameSet.ofList ["y"]))
        (render template .all ClientView.empty scope Config.default () Store.empty).2.1 scope
        Config.default () Store.empty).1 = .ok sparse ∧
      (render template .all ClientView.empty scope Config.default () Store.empty).1 = .ok dense ∧
      sparse.markup[2]? = some (some "1") ∧ dense.markup[2]? = some (some "1") := by
  intro scope
  have checked : Template.isCompiledTo (Template.compile "Page" "default"
        "<% let x = child(\"Row\", \"a\") %><%= x %><%= y %>") (fun template =>
      let first := render template .all ClientView.empty scope Config.default () Store.empty
      let again := render template (.names (NameSet.ofList ["y"])) first.2.1 scope Config.default ()
        Store.empty
      first.1.isOk && !isDense template (.names (NameSet.ofList ["y"])) first.2.1 &&
        (textAt again.1 2 == some "1") &&
        ((faithful (NameSet.ofList ["y"]) NameSet.empty NameSet.empty template.parts)[2]? ==
          some true)) = true := by decide +kernel
  obtain ⟨template, compiled, passes⟩ := Template.exists_of_isCompiledTo checked
  simp only [Bool.and_eq_true, Bool.not_eq_true', beq_iff_eq] at passes
  obtain ⟨⟨⟨succeeds, thin⟩, shown⟩, clear⟩ := passes
  obtain ⟨sparse, sparseRan, emitted⟩ := exists_of_textAt shown
  cases denseRan : (render template .all ClientView.empty scope Config.default () Store.empty).1 with
  | error _ =>
    rw [denseRan] at succeeds
    cases succeeds
  | ok dense =>
    exact ⟨template, sparse, dense, compiled, sparseRan, denseRan, emitted,
      sparse_slot_eq_dense compiled steady_one Config.default thin rfl sparseRan denseRan clear
        emitted⟩

/-- Where only outputs call children no local is stale. -/
theorem faithful_of_childless {dirty dirtyLocals : NameSet} {parts : List Part}
    (childless : ∀ part, Part.dynamic part ∈ parts → "child" ∉ part.node.decisions) {mark : Bool}
    (member : mark ∈ faithful dirty dirtyLocals NameSet.empty parts) : mark = true := by
  induction parts generalizing dirtyLocals with
  | nil => cases member
  | cons part rest ih =>
    have others := fun part member => childless part (List.mem_cons_of_mem _ member)
    cases part with
    | fixed text =>
      rcases List.mem_cons.mp member with rfl | later
      · rfl
      · exact ih others later
    | dynamic part =>
      have clear : readsAny NameSet.empty part = false := by
        simp only [readsAny, List.any_eq_false, decide_eq_true_eq]
        exact fun name _ => NameSet.not_mem_empty
      have still (affected : Bool) : staleAfter affected NameSet.empty part = NameSet.empty := by
        rw [staleAfter, clear, Bool.false_or, decide_eq_false (childless part List.mem_cons_self),
          Bool.and_false, if_neg Bool.false_ne_true]
        rfl
      simp only [faithful, clear, still] at member
      rcases List.mem_cons.mp member with rfl | later
      · rfl
      · exact ih others later

/-- **A child that a local shows is lost**: the block that binds `x` is not affected by `y`, so its
child is left alone, and the output that is affected shows an empty text for it. -/
theorem sparse_slot_differs :
    let scope := withChildren (.ofList [("y", .int 1)])
    scope.Steady ((), Store.empty) ∧ ∃ template view, Template.compile "Page" "default"
        "<% let x = child(\"Row\", \"a\") %><%= x + y %>" = .ok template ∧
      isDense template (.names (NameSet.ofList ["y"])) view = false ∧
      textAt (render template (.names (NameSet.ofList ["y"])) view scope Config.default ()
        Store.empty).1 1 = some "1" ∧
      textAt (render template .all ClientView.empty scope Config.default () Store.empty).1 1 =
        some "&lt;Row id=a&#x2f;&gt;1" := by
  intro scope
  have checked : Template.isCompiledTo (Template.compile "Page" "default"
        "<% let x = child(\"Row\", \"a\") %><%= x + y %>") (fun template =>
      let first := render template .all ClientView.empty scope Config.default () Store.empty
      let again := render template (.names (NameSet.ofList ["y"])) first.2.1 scope Config.default ()
        Store.empty
      !isDense template (.names (NameSet.ofList ["y"])) first.2.1 && (textAt again.1 1 == some "1") &&
        (textAt first.1 1 == some "&lt;Row id=a&#x2f;&gt;1")) = true := by decide +kernel
  obtain ⟨template, compiled, passes⟩ := Template.exists_of_isCompiledTo checked
  simp only [Bool.and_eq_true, Bool.not_eq_true', beq_iff_eq] at passes
  exact ⟨steady_one, template, _, compiled, passes.1.1, passes.1.2, passes.2⟩

end ReactiveView.Render
