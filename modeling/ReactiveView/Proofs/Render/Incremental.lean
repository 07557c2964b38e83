/-
**An incremental rendering is as good as a full one.**

Three runs are compared: the dense one that the client has seen, the sparse one that follows, and
the dense one that the sparse one stands for. The last two go on in lockstep through every part
that the sparse one runs. The first and the last go on in lockstep through every part that is not
affected, and show the same there.

* `Lockstep.recovers_parts` — the parts one after the other.
* `incremental_eq_full` — sparse onto dense gives what dense would have given.
-/

import ReactiveView.Proofs.Render.Agreement
import ReactiveView.Proofs.Render.Parts

namespace ReactiveView.Render

open Template

variable {σ τ : Type}

/-- Nothing in the parts calls a child or binds a name in a branch, and they are analysed. -/
structure Plainly (part : DynamicPart) : Prop where
  analysed : Analysed part
  childless : "child" ∉ part.node.calls
  plain : part.node.branchBinds = []

/-- The new slots laid over the old ones are the full ones, or both runs fail alike. -/
abbrev Recovers (old : List Slot) (sparse full : Except Error (List Slot)) : Prop :=
  AlikeResult (fun new whole => ClientView.overlay none (fun slot => slot.html.map some)
    (old.map Slot.html) new = whole.map Slot.html) sparse full

theorem Recovers.cons {old : List Slot} {sparse full : Except Error (List Slot)}
    (recovers : Recovers old sparse full) {first new whole : Slot}
    (same : (new.html.map some).getD first.html = whole.html) :
    Recovers (first :: old) (sparse.map (new :: ·)) (full.map (whole :: ·)) := by
  cases recovers with
  | error error => exact .error error
  | ok related => exact .ok (by simp only [List.map_cons, ClientView.overlay, same, related])

/-- A part that is not affected depends on nothing dirty. -/
theorem clean_of_unaffected {dirty : NameSet} {dirtyLocals : NameSet} {part : DynamicPart}
    (unaffected : isAffected false (.names dirty) dirtyLocals part = false) {name : String}
    (depends : name ∈ part.dependencies) : name ∉ dirty ∧ name ∉ dirtyLocals := by
  simp only [isAffected, Bool.false_or, List.any_eq_false, Bool.or_eq_true, not_or,
    Dirty.contains, NameSet.contains_iff] at unaffected
  exact unaffected name depends

namespace Lockstep

variable {first : Scope σ} {second : Scope τ} {old : Lockstep σ τ} {new : Lockstep τ τ}

/--
**Three passes in front of one part**: the last two know all names alike and have counted the same
loop runs; the first and the last know alike what is neither dirty nor bound by an affected part.
-/
structure Aligned (old : Lockstep σ τ) (new : Lockstep τ τ) (dirty dirtyLocals : NameSet)
    (before : Pass σ) (sparse full : Pass τ) (early : old.Stage) (late : new.Stage) : Prop where
  openBefore : before.frames ≠ []
  openSparse : sparse.frames ≠ []
  openFull : full.frames ≠ []
  aroundOld : old.Around early before.around full.around
  metOld : ∀ name, name ∉ dirty → name ∉ dirtyLocals →
    old.Met early name (Eval.findLocal before.frames name) (Eval.findLocal full.frames name)
  aroundNew : new.Around late sparse.around full.around
  metNew : ∀ name, new.Met late name (Eval.findLocal sparse.frames name)
    (Eval.findLocal full.frames name)
  counted : sparse.iterations = full.iterations

/-- How a pass finds a part while another one finds it, too. -/
theorem Beside.openPart {lock : Lockstep σ τ} {close : Closeness} {stage : lock.Stage}
    {left : Pass σ} {right : Pass τ} (around : lock.Around stage left.around right.around)
    {renders other : Bool} (children : close ≠ .hidden → lock.Answered "child" → renders = other)
    (counted : close = .exact → left.iterations = right.iterations) :
    lock.Beside close stage left.frames right.frames (left.openPart renders)
      (right.openPart other) :=
  ⟨around, rfl, rfl, fun _ => ⟨rfl, rfl, rfl, rfl⟩, children, counted⟩

section

variable (lawOld : old.Lawful first second) (lawNew : new.Lawful second second)
  (freeOld : old.Undisturbed first second) (freeNew : new.Undisturbed second second)
  {config : Config} {dirty dirtyLocals : NameSet} {before : Pass σ} {sparse full : Pass τ}
  {early : old.Stage} {late : new.Stage} {part : DynamicPart}

include lawNew in
/-- The sparse and the full run of a part without children end alike. -/
theorem meets_new (config : Config) (answered : ∀ name, name ≠ "child" → new.Answered name)
    (silent : ¬ new.Answered "child") (plainly : Plainly part)
    (aligned : Aligned old new dirty dirtyLocals before sparse full early late) (renders : Bool) :
    new.Meets .exact late (fun later fs os _ _ =>
        new.Carries sparse.frames full.frames late part.node.binds later fs os ∧
          Eval.Rebinds part.node.leaves sparse.frames fs ∧
          Eval.Rebinds part.node.leaves full.frames os)
      (Eval.node second config part.node (sparse.openPart renders))
      (Eval.node second config part.node (full.openPart true)) := by
  have prepared : new.Prepared .exact sparse.frames full.frames late part.node.reads
      part.node.decisions part.node.calls :=
    .of_visible (by decide) (fun name _ => aligned.metNew name) fun name member =>
      Or.inr (answered name fun same => plainly.childless (same ▸ member))
  have fitting : new.Fitting .exact second second :=
    ⟨lawNew, fun hidden => absurd hidden (by decide)⟩
  exact ((abreast_node fitting part.node aligned.openSparse aligned.openFull prepared).shifted
    (Eval.takes_node second config part.node) (Eval.takes_node second config part.node)) _ _
      (.openPart aligned.aroundNew (fun _ child => absurd child silent) fun _ => aligned.counted)

/-- A part that is not affected reads nothing of which the first and the full run know different. -/
theorem prepared_of_unaffected
    (answered : componentName ∉ dirty → ∀ name, name ≠ "child" → old.Answered name)
    (plainly : Plainly part)
    (aligned : Aligned old new dirty dirtyLocals before sparse full early late)
    (unaffected : isAffected false (.names dirty) dirtyLocals part = false) :
    old.Prepared .shown before.frames full.frames early part.node.reads part.node.decisions
      part.node.calls := by
  refine .of_visible (by decide) (fun name member => ?_) fun name member => ?_
  · have depends := (mem_dependencies_analyze member).resolve_right (by simp [plainly.plain])
    rw [← plainly.analysed.dependencies] at depends
    obtain ⟨clean, fresh⟩ := clean_of_unaffected unaffected depends
    exact aligned.metOld name clean fresh
  · by_cases builtin : name ∈ builtins
    · simp only [builtins, List.mem_cons, List.not_mem_nil, or_false] at builtin
      exact builtin.imp_right fun same => absurd (same ▸ member) plainly.childless
    · have depends := componentName_mem_analyze member builtin
      rw [← plainly.analysed.dependencies] at depends
      exact Or.inr (answered (clean_of_unaffected unaffected depends).1 name fun same =>
        plainly.childless (same ▸ member))

/-- The first and the full run find a part alike. -/
theorem Aligned.besideOld
    (aligned : Aligned old new dirty dirtyLocals before sparse full early late) :
    old.Beside .shown early before.frames full.frames (before.openPart true) (full.openPart true) :=
  .openPart aligned.aroundOld (fun _ _ => rfl) fun exact => absurd exact (by decide)

include lawOld in
/-- The first and the full run of a part that is not affected show the same. -/
theorem meets_old (config : Config)
    (aligned : Aligned old new dirty dirtyLocals before sparse full early late)
    (prepared : old.Prepared .shown before.frames full.frames early part.node.reads
      part.node.decisions part.node.calls) :
    old.Meets .shown early (fun later fs os _ _ =>
        old.Carries before.frames full.frames early part.node.binds later fs os)
      (Eval.node first config part.node (before.openPart true))
      (Eval.node second config part.node (full.openPart true)) := by
  have fitting : old.Fitting .shown first second :=
    ⟨lawOld, fun hidden => absurd hidden (by decide)⟩
  exact abreast_node fitting part.node aligned.openBefore aligned.openFull prepared _ _
    aligned.besideOld

include freeOld in
/-- After a part that is rendered again, its locals count as dirty. -/
theorem Aligned.rendered (plainly : Plainly part)
    (aligned : Aligned old new dirty dirtyLocals before sparse full early late)
    {beforeNext : Pass σ} {sparseNext fullNext : Pass τ} {later : new.Stage}
    (ran : Eval.node first config part.node (before.openPart true) = (.ok (), beforeNext))
    (again : Eval.node second config part.node (full.openPart true) = (.ok (), fullNext))
    (carries : new.Carries sparse.frames full.frames late part.node.binds later sparseNext.frames
      fullNext.frames)
    (shifted : Eval.Rebinds part.node.leaves sparse.frames sparseNext.frames)
    (beside : new.Beside .exact later sparseNext.frames fullNext.frames sparseNext fullNext) :
    Aligned old new dirty (dirtyLocals.union part.locals) beforeNext sparseNext fullNext early
      later := by
  have one := Eval.takes_node first config part.node (before.openPart true)
  have other := Eval.takes_node second config part.node (full.openPart true)
  rw [ran] at one
  rw [again] at other
  have rebinds := one.2 () rfl
  have opposed := other.2 () rfl
  refine ⟨rebinds.opened aligned.openBefore, shifted.opened aligned.openSparse,
    opposed.opened aligned.openFull, freeOld.moves aligned.aroundOld one.1.moved other.1.moved,
    fun name clean fresh => ?_, beside.around, fun name => carries.kept name (aligned.metNew name),
    beside.counted rfl⟩
  rw [NameSet.mem_union, not_or, plainly.analysed.locals, mem_bound_analyze] at fresh
  rw [rebinds.findLocal aligned.openBefore fresh.1, opposed.findLocal aligned.openFull fresh.1]
  exact aligned.metOld name clean fresh.2

/-- After a block that ran for its locals alone, these are what they would be. -/
theorem Aligned.silent (aligned : Aligned old new dirty dirtyLocals before sparse full early late)
    {beforeNext : Pass σ} {sparseNext fullNext : Pass τ} {earlyNext : old.Stage} {later : new.Stage}
    (ran : Eval.node first config part.node (before.openPart true) = (.ok (), beforeNext))
    (again : Eval.node second config part.node (full.openPart true) = (.ok (), fullNext))
    (carriesOld : old.Carries before.frames full.frames early part.node.binds earlyNext
      beforeNext.frames fullNext.frames)
    (besideOld : old.Beside .shown earlyNext beforeNext.frames fullNext.frames beforeNext fullNext)
    (carries : new.Carries sparse.frames full.frames late part.node.binds later sparseNext.frames
      fullNext.frames)
    (shifted : Eval.Rebinds part.node.leaves sparse.frames sparseNext.frames)
    (beside : new.Beside .exact later sparseNext.frames fullNext.frames sparseNext fullNext) :
    Aligned old new dirty dirtyLocals beforeNext sparseNext fullNext earlyNext later := by
  have one := Eval.takes_node first config part.node (before.openPart true)
  have other := Eval.takes_node second config part.node (full.openPart true)
  rw [ran] at one
  rw [again] at other
  exact ⟨(one.2 () rfl).opened aligned.openBefore, shifted.opened aligned.openSparse,
    (other.2 () rfl).opened aligned.openFull, besideOld.around,
    fun name clean fresh => carriesOld.kept name (aligned.metOld name clean fresh), beside.around,
    fun name => carries.kept name (aligned.metNew name), beside.counted rfl⟩

include lawOld freeNew in
/-- An output that is not affected is skipped: it leaves nothing behind. -/
theorem Aligned.skipped (aligned : Aligned old new dirty dirtyLocals before sparse full early late)
    {beforeNext : Pass σ} {fullNext : Pass τ} {earlyNext : old.Stage} {value : Expr} {raw : Bool}
    (le : early ≤ earlyNext)
    (again : Eval.node second config (.output value raw) (full.openPart true) = (.ok (), fullNext))
    (beside : old.Beside .shown earlyNext before.frames full.frames beforeNext fullNext) :
    Aligned old new dirty dirtyLocals beforeNext sparse fullNext earlyNext late := by
  have keeps := Eval.keeps_outputNode second config value raw
  have moved := (keeps.1 (full.openPart true)).1.moved
  have counted := keeps.2 (full.openPart true) ()
  rw [again] at moved counted
  refine ⟨beside.frames ▸ aligned.openBefore, aligned.openSparse, beside.others ▸ aligned.openFull,
    beside.around, fun name clean fresh => ?_, freeNew.moves aligned.aroundNew .refl moved,
    fun name => ?_, aligned.counted.trans (counted rfl).symm⟩
  · rw [beside.frames, beside.others]
    exact lawOld.metMono le (aligned.metOld name clean fresh)
  · rw [beside.others]
    exact aligned.metNew name

variable {index : Nat} {fresh : Dirty} {fullLocals : NameSet} {rest : List Part} {older : List Slot}
  {beforeNext : Pass σ}

include lawNew freeOld in
/-- A part that is rendered again. -/
theorem recovers_rendered (answered : ∀ name, name ≠ "child" → new.Answered name)
    (silent : ¬ new.Answered "child") (plainly : Plainly part)
    (aligned : Aligned old new dirty dirtyLocals before sparse full early late)
    (affected : isAffected false (.names dirty) dirtyLocals part = true)
    (ran : Eval.node first config part.node (before.openPart true) = (.ok (), beforeNext))
    (further : ∀ {sparseNext fullNext : Pass τ} {later : new.Stage},
      Aligned old new dirty (dirtyLocals.union part.locals) beforeNext sparseNext fullNext early
        later →
      Recovers older
        (slots second config false (.names dirty) (index + 1) (dirtyLocals.union part.locals) rest
          sparseNext)
        (slots second config true fresh (index + 1) (fullLocals.union part.locals) rest fullNext)) :
    Recovers (beforeNext.slot :: older)
      (slots second config false (.names dirty) index dirtyLocals (.dynamic part :: rest) sparse)
      (slots second config true fresh index fullLocals (.dynamic part :: rest) full) := by
  have met := meets_new lawNew config answered silent plainly aligned true
  cases sparseRan : Eval.node second config part.node (sparse.openPart true) with
  | mk sparseResult sparseNext =>
  cases fullRan : Eval.node second config part.node (full.openPart true) with
  | mk fullResult fullNext =>
  rw [sparseRan, fullRan] at met
  cases met with
  | errors same =>
    rw [slots_rendered_error affected sparseRan, slots_rendered_error isAffected_dense fullRan,
      (same rfl).1]
    exact .error _
  | leftFails apart => exact absurd rfl apart
  | rightFails apart => exact absurd rfl apart
  | ok later _ found beside =>
    rw [slots_rendered affected sparseRan, slots_rendered isAffected_dense fullRan]
    have next := aligned.rendered freeOld plainly ran fullRan found.1 found.2.1 beside
    exact (further next).cons (beside.shown (by decide)).slot

include lawOld lawNew in
/-- A block that runs for its locals alone. -/
theorem recovers_silent (answered : ∀ name, name ≠ "child" → new.Answered name)
    (silent : ¬ new.Answered "child") (plainly : Plainly part)
    (aligned : Aligned old new dirty dirtyLocals before sparse full early late)
    (unaffected : isAffected false (.names dirty) dirtyLocals part = false)
    (kind : part.kind = .block)
    (prepared : old.Prepared .shown before.frames full.frames early part.node.reads
      part.node.decisions part.node.calls)
    (ran : Eval.node first config part.node (before.openPart true) = (.ok (), beforeNext))
    (further : ∀ {sparseNext fullNext : Pass τ} {earlyNext : old.Stage} {later : new.Stage},
      Aligned old new dirty dirtyLocals beforeNext sparseNext fullNext earlyNext later →
      Recovers older
        (slots second config false (.names dirty) (index + 1) dirtyLocals rest sparseNext)
        (slots second config true fresh (index + 1) (fullLocals.union part.locals) rest fullNext)) :
    Recovers (beforeNext.slot :: older)
      (slots second config false (.names dirty) index dirtyLocals (.dynamic part :: rest) sparse)
      (slots second config true fresh index fullLocals (.dynamic part :: rest) full) := by
  have met := meets_new lawNew config answered silent plainly aligned false
  have metOld := meets_old lawOld config aligned prepared
  cases sparseRan : Eval.node second config part.node (sparse.openPart false) with
  | mk sparseResult sparseNext =>
  cases fullRan : Eval.node second config part.node (full.openPart true) with
  | mk fullResult fullNext =>
  rw [sparseRan, fullRan] at met
  rw [ran, fullRan] at metOld
  cases met with
  | errors same =>
    rw [slots_silent_error unaffected kind sparseRan,
      slots_rendered_error isAffected_dense fullRan, (same rfl).1]
    exact .error _
  | leftFails apart => exact absurd rfl apart
  | rightFails apart => exact absurd rfl apart
  | ok later _ found beside =>
    cases metOld with
    | ok earlier _ carries besideOld =>
      rw [slots_silent unaffected kind sparseRan, slots_rendered isAffected_dense fullRan]
      have next := aligned.silent ran fullRan carries besideOld found.1 found.2.1 beside
      exact (further next).cons (besideOld.shown (by decide)).slot

include lawOld freeNew in
/-- An output that is skipped. -/
theorem recovers_skipped (plainly : Plainly part)
    (aligned : Aligned old new dirty dirtyLocals before sparse full early late)
    (unaffected : isAffected false (.names dirty) dirtyLocals part = false)
    (kind : part.kind = .expression)
    (prepared : old.Prepared .shown before.frames full.frames early part.node.reads
      part.node.decisions part.node.calls)
    (ran : Eval.node first config part.node (before.openPart true) = (.ok (), beforeNext))
    (further : ∀ {fullNext : Pass τ} {earlyNext : old.Stage},
      Aligned old new dirty dirtyLocals beforeNext sparse fullNext earlyNext late →
      Recovers older
        (slots second config false (.names dirty) (index + 1) dirtyLocals rest sparse)
        (slots second config true fresh (index + 1) (fullLocals.union part.locals) rest fullNext)) :
    Recovers (beforeNext.slot :: older)
      (slots second config false (.names dirty) index dirtyLocals (.dynamic part :: rest) sparse)
      (slots second config true fresh index fullLocals (.dynamic part :: rest) full) := by
  obtain ⟨value, raw, found⟩ := plainly.analysed.output kind
  rw [found] at ran prepared
  have ready : old.Ready .shown before.frames full.frames early value.names value.calls :=
    ⟨prepared.met, fun name member => (prepared.answered (by decide) name member).imp_right
      fun answered => ⟨answered, fun _ => by decide⟩⟩
  have together : old.Together .shown before.frames full.frames early (fun _ _ _ => True)
      (Eval.node first config (.output value raw)) (Eval.node second config (.output value raw)) :=
    together_outputNode lawOld (show Closeness.shown ≠ .hidden by decide) ready
  obtain ⟨earlyNext, le, besideOld, results⟩ := together _ _ aligned.besideOld
  cases fullRan : Eval.node second config (.output value raw) (full.openPart true) with
  | mk fullResult fullNext =>
  rw [ran, fullRan] at besideOld results
  cases fullResult with
  | error error => cases results
  | ok _ =>
    rw [slots_skipped unaffected kind, slots_rendered isAffected_dense (found ▸ fullRan)]
    have next := aligned.skipped lawOld freeNew le fullRan besideOld
    exact (further next).cons (besideOld.shown (by decide)).slot

include lawOld lawNew freeOld freeNew in
/-- **Part by part**, what the sparse run brings completes what the client has to what the full run
brings. -/
theorem recovers_parts
    (answeredOld : componentName ∉ dirty → ∀ name, name ≠ "child" → old.Answered name)
    (answeredNew : ∀ name, name ≠ "child" → new.Answered name)
    (silentNew : ¬ new.Answered "child") {parts : List Part}
    (plainly : ∀ part, Part.dynamic part ∈ parts → Plainly part)
    {earlier : Dirty} {firstLocals : NameSet} {known : List Slot}
    (aligned : Aligned old new dirty dirtyLocals before sparse full early late)
    (ok : slots first config true earlier index firstLocals parts before = .ok known) :
    Recovers known (slots second config false (.names dirty) index dirtyLocals parts sparse)
      (slots second config true fresh index fullLocals parts full) := by
  induction parts generalizing index dirtyLocals firstLocals fullLocals known before sparse full
    early late with
  | nil =>
    rw [slots_nil] at ok
    cases ok
    exact .ok rfl
  | cons part rest ih =>
    have others := fun part member => plainly part (List.mem_cons_of_mem _ member)
    cases part with
    | fixed text =>
      rw [slots_fixed] at ok
      obtain ⟨older, begun, rfl⟩ := exists_of_map_ok ok
      rw [slots_fixed, slots_fixed]
      exact (ih others aligned begun).cons rfl
    | dynamic part =>
      have here := plainly part List.mem_cons_self
      obtain ⟨beforeNext, older, ran, begun, rfl⟩ := exists_of_rendered isAffected_dense ok
      cases affected : isAffected false (.names dirty) dirtyLocals part with
      | true =>
        exact recovers_rendered lawNew freeOld answeredNew silentNew here aligned affected ran
          fun next => ih others next begun
      | false =>
        have prepared := prepared_of_unaffected answeredOld here aligned affected
        cases kind : part.kind with
        | block =>
          exact recovers_silent lawOld lawNew answeredNew silentNew here aligned affected kind
            prepared ran fun next => ih others next begun
        | expression =>
          exact recovers_skipped lawOld freeNew here aligned affected kind prepared ran
            fun next => ih others next begun

end

end Lockstep

/-! ### The rendering -/

theorem isDense_committed {template : Template} {dirty : NameSet} {view : ClientView}
    {rendered : Rendered} (dense : rendered.dense = true) :
    isDense template (.names dirty) (view.commit template.variant rendered) = false := by
  simp [isDense, ClientView.commit, dense, ClientView.needsDense]

theorem isDense_empty (template : Template) (dirty : Dirty) :
    isDense template dirty ClientView.empty = true := by
  simp [isDense, ClientView.needsDense, ClientView.empty]

/--
After a rendering the client has the markup that a full rendering brings; or both fail with the same
error.
-/
def AsGoodAs (incremental full : Except Error Rendered × ClientView × τ × Store) : Prop :=
  match incremental, full with
  | (.ok _, view, _), (.ok whole, _) => view.fragments = whole.markup
  | (.error error, _), (.error other, _) => error = other
  | _, _ => False

/--
**Incremental rendering equals full rendering**: it succeeds exactly if a full rendering of a new
view would, and then the client has what that would bring.
-/
theorem incremental_eq_full {className variant source : String} {template : Template}
    (compiled : Template.compile className variant source = .ok template)
    (childless : ∀ part, Part.dynamic part ∈ template.parts → "child" ∉ part.node.calls)
    (plain : ∀ part, Part.dynamic part ∈ template.parts → part.node.branchBinds = [])
    {first : Scope σ} {second : Scope τ} {dirty : NameSet} {world : σ} {store : Store} {later : τ}
    {after : Store} (agree : Scope.AgreeExcept dirty first (world, store) second (later, after))
    (steady : Scope.AgreeExcept NameSet.empty second (later, after) second (later, after))
    (config : Config) {earlier : Dirty} {before view : ClientView} {rendered : Rendered}
    {rest : σ × Store} (dense : isDense template earlier before = true)
    (seen : render template earlier before first config world store = (.ok rendered, view, rest))
    (fresh : Dirty) :
    AsGoodAs (render template (.names dirty) view second config later after)
      (render template fresh ClientView.empty second config later after) := by
  obtain ⟨Old, early, agreeOld, alikeOld⟩ := agree
  obtain ⟨New, late, agreeNew, alikeNew⟩ := steady
  have begun := slots_of_render (congrArg Prod.fst seen)
  rw [dense, seen] at begun
  obtain ⟨known, whole, rfl⟩ := begun
  have aligned : Lockstep.Aligned
      (Scope.Agreement.lockstep (· ∉ dirty)
        (fun name => name ≠ "child" ∧ componentName ∉ dirty) Old)
      (Scope.Agreement.lockstep (· ∉ NameSet.empty)
        (fun name => name ≠ "child" ∧ componentName ∉ NameSet.empty) New)
      dirty NameSet.empty (Pass.start world store) (Pass.start later after)
      (Pass.start later after) early late :=
    ⟨List.cons_ne_nil _ _, List.cons_ne_nil _ _, List.cons_ne_nil _ _, alikeOld,
      fun name clean _ => ⟨.none, fun _ => clean⟩, alikeNew,
      fun name => ⟨.none, fun _ => NameSet.not_mem_empty⟩, rfl⟩
  have recovers : Recovers rendered.slots
      (slots second config false (.names dirty) 0 NameSet.empty template.parts
        (Pass.start later after))
      (slots second config true fresh 0 NameSet.empty template.parts (Pass.start later after)) :=
    Lockstep.recovers_parts agreeOld.lawful agreeNew.lawful agreeOld.undisturbed
      agreeNew.undisturbed (fun clean name other => ⟨other, clean⟩)
      (fun name other => ⟨other, NameSet.not_mem_empty⟩) (fun answered => absurd rfl answered.1)
      (fun part member => ⟨Template.analysed_of_compile compiled member, childless part member,
        plain part member⟩) aligned known
  have sparse := render_eq template (.names dirty) (before.commit template.variant rendered) second
    config later after
  have full := render_eq template fresh ClientView.empty second config later after
  rw [isDense_committed whole] at sparse
  rw [isDense_empty] at full
  generalize render template (.names dirty) (before.commit template.variant rendered) second config
    later after = incremental at sparse ⊢
  generalize render template fresh ClientView.empty second config later after = complete at full ⊢
  obtain ⟨result, updated, surroundings⟩ := incremental
  obtain ⟨answer, _⟩ := complete
  rcases sparse with ⟨error, slots, rfl, _⟩ | ⟨new, slots, thin, rfl, rfl⟩ <;>
    rcases full with ⟨other, others, rfl, _⟩ | ⟨all, others, _, rfl, _⟩ <;>
    rw [slots, others] at recovers
  · cases recovers
    rfl
  · cases recovers
  · cases recovers
  · cases recovers with
    | ok same =>
      simp only [ClientView.commit, thin, whole, if_true, Bool.false_eq_true, if_false]
      exact same

/-- A loop over a list that stayed as it was, with a number that changed. -/
theorem incremental_eq_full_of_loop :
    let store := (Store.empty.newList [.int 1, .int 2]).2
    let past := Scope.ofVariables (.ofList [("xs", .list 0), ("b", .int 1)])
    let present := Scope.ofVariables (.ofList [("xs", .list 0), ("b", .int 2)])
    ∃ template, Template.compile "Row" "default"
        "<% let t = xs %><% for x in t %><%= x + b %>,<% end %><%= xs %>" = .ok template ∧
      AsGoodAs (render template (.names (NameSet.ofList ["b"]))
          (render template .all ClientView.empty past Config.default () store).2.1 present
          Config.default () store)
        (render template .all ClientView.empty present Config.default () store) := by
  intro store past present
  have checked : Template.isCompiledTo (Template.compile "Row" "default"
        "<% let t = xs %><% for x in t %><%= x + b %>,<% end %><%= xs %>") (fun template =>
      Template.everyPart (fun part => decide ("child" ∉ part.node.calls) &&
          decide (part.node.branchBinds = [])) template.parts &&
        (render template .all ClientView.empty past Config.default () store).1.isOk) = true := by
    decide +kernel
  obtain ⟨template, compiled, passes⟩ := Template.exists_of_isCompiledTo checked
  rw [Bool.and_eq_true] at passes
  obtain ⟨parts, succeeds⟩ := passes
  refine ⟨template, compiled, ?_⟩
  have part {part : DynamicPart} (member : Part.dynamic part ∈ template.parts) :
      "child" ∉ part.node.calls ∧ part.node.branchBinds = [] := by
    simpa using Template.check_of_everyPart parts member
  have none := Store.Paired.nothing Store.empty Store.empty
  have paired : Store.Paired (Pairing.add (fun _ _ => False) 0 0) store store :=
    (Store.Advance.newNode none (.list (.cons (.scalar rfl) (.cons (.scalar rfl) .nil)))
      [] []).paired
  have list : EntryPaired (Pairing.add (fun _ _ => False) 0 0) ("xs", .list 0) ("xs", .list 0) :=
    ⟨rfl, .list (Or.inr ⟨rfl, rfl⟩)⟩
  have agree : Scope.AgreeExcept (NameSet.ofList ["b"]) past ((), store) present ((), store) := by
    refine Scope.agreeExcept_ofVariables paired fun name clean => ?_
    have other : name ≠ "b" := by simpa using clean
    have same (number : Value) : (OrderedMap.ofList [("xs", .list 0), ("b", number)]).get? name =
        (OrderedMap.ofList [("xs", .list 0)]).get? name :=
      OrderedMap.get?_insert_of_ne _ other number
    rw [same, same]
    exact (OrderedMap.Paired.ofList (.cons list .nil)).get? name
  have steady : Scope.AgreeExcept NameSet.empty present ((), store) present ((), store) :=
    Scope.agreeExcept_ofVariables paired fun name _ =>
      (OrderedMap.Paired.ofList (.cons list (.cons ⟨rfl, .scalar rfl⟩ .nil))).get? name
  cases seen : render template .all ClientView.empty past Config.default () store with
  | mk result after =>
  obtain ⟨view, rest⟩ := after
  rw [seen] at succeeds
  cases result with
  | error _ => cases succeeds
  | ok rendered =>
    exact incremental_eq_full compiled (fun _ member => (part member).1)
      (fun _ member => (part member).2) agree steady Config.default rfl seen .all

end ReactiveView.Render
