/-
**What a part asks of its surroundings.**

A recording scope notes every name and every helper that it is asked for. It holds the locals of the
earlier parts too, so that a part which starts without locals takes from it all that it does not bind
itself. Such a run is the run of the part, but for its notes.

* `records_node` — the recorded run, and what it notes.
* `asked_is_dependency` — the analysis of a part lists what the part asks for, except where a branch
  of the part binds the name.
* `asked_beyond_dependencies` — a name that one branch binds and another one reads.
-/

import ReactiveView.Proofs.Render.Abreast

namespace ReactiveView

open Render Template

variable {σ : Type}

/-! ### Recording -/

/-- The names and the helpers that were asked for, last first. -/
structure Questions where
  names : List String
  helpers : List String

namespace Questions

/-- Nothing was asked for yet. -/
def none : Questions := ⟨[], []⟩

def name (questions : Questions) (asked : String) : Questions :=
  { questions with names := asked :: questions.names }

def helper (questions : Questions) (asked : String) : Questions :=
  { questions with helpers := asked :: questions.helpers }

end Questions

/-- An answer with notes beside its world. -/
def Answer.noted {α : Type} (questions : Questions) (answer : Answer σ α) :
    Answer (σ × Questions) α :=
  (answer.1, (answer.2.1, questions), answer.2.2)

/-- A scope that notes what it is asked for, and that some locals hide. -/
def Scope.recording (scope : Scope σ) (locals : OrderedMap String Value) :
    Scope (σ × Questions) where
  lookup name world store :=
    (answerFor scope name (locals.get? name) world.1 store).noted (world.2.name name)
  call name arguments world store :=
    (scope.call name arguments world.1 store).noted (world.2.helper name)
  renderChild className id world store :=
    (scope.renderChild className id world.1 store).noted world.2

namespace Render

/-- A pass without locals that has noted nothing yet. -/
def Pass.recorded (pass : Pass σ) : Pass (σ × Questions) where
  store := pass.store
  world := (pass.world, .none)
  frames := [OrderedMap.empty]
  iterations := pass.iterations
  pieces := pass.pieces
  size := pass.size
  rendersChildren := pass.rendersChildren
  direct := pass.direct
  rendered := pass.rendered

/-- How a run and a recorded run end: alike but for the notes. -/
structure Records (run : Except Error Unit × Pass σ)
    (recorded : Except Error Unit × Pass (σ × Questions)) : Prop where
  result : run.1 = recorded.1
  world : run.2.world = recorded.2.world.1
  store : run.2.store = recorded.2.store
  shown : run.1 = .ok () → run.2.ShowsSame recorded.2 ∧ run.2.iterations = recorded.2.iterations

/-! ### A run and its record -/

/-- The correspondence of a run and a recorded run that notes only some names and some helpers. -/
def recordingLock (σ : Type) (locals : OrderedMap String Value) (names helpers : String → Prop) :
    Lockstep σ (σ × Questions) where
  Stage := Unit
  order :=
    { le _ _ := True
      lt _ _ := False
      le_refl _ := trivial
      le_trans _ _ _ _ _ := trivial
      lt_iff_le_not_ge _ _ := by simp }
  Around _ l r := l = (r.1.1, r.2) ∧ (∀ name ∈ r.1.2.names, names name) ∧
    ∀ name ∈ r.1.2.helpers, helpers name
  Same _ value other := value = other
  Met _ name found known := (found = known ∧ known ≠ none) ∨
    (found = locals.get? name ∧ known = none ∧ names name)
  Answered name := name = "child" ∨ helpers name

section

variable {scope : Scope σ} {locals : OrderedMap String Value} {names helpers : String → Prop}

/-- One and the same outcome on both sides. -/
theorem same_outcome {stage : Unit} {α : Type} {relation : α → α → Prop}
    (refl : ∀ value, relation value value) {l : σ × Store} {r : (σ × Questions) × Store}
    (around : (recordingLock σ locals names helpers).Around stage l r)
    (outcome : Store → Except Error α × Store) :
    (recordingLock σ locals names helpers).Answers stage (fun _ => relation)
      (inWorld l.1 (outcome l.2)) (inWorld r.1 (outcome r.2)) := by
  obtain ⟨rfl, noted⟩ := around
  refine ⟨stage, le_rfl, ⟨rfl, noted⟩, ?_⟩
  change AlikeResult relation (outcome r.2).1 (outcome r.2).1
  cases (outcome r.2).1 with
  | ok value => exact .ok (refl value)
  | error error => exact .error error

/-- One and the same answer, which one side has noted. -/
theorem same_answer {stage : Unit} {α : Type} {relation : α → α → Prop}
    (refl : ∀ value, relation value value) (answer : Answer σ α) {questions : Questions}
    (known : ∀ name ∈ questions.names, names name)
    (called : ∀ name ∈ questions.helpers, helpers name) :
    (recordingLock σ locals names helpers).Answers stage (fun _ => relation) answer
      (answer.noted questions) := by
  refine ⟨stage, le_rfl, ⟨rfl, known, called⟩, ?_⟩
  change AlikeResult relation answer.1 answer.1
  cases answer.1 with
  | ok value => exact .ok (refl value)
  | error error => exact .error error

theorem rel_self (found : Option Value) : Option.Rel Eq found found := by
  cases found with
  | none => exact .none
  | some value => exact .some rfl

/-- **A run and its record stay in lockstep.** -/
theorem recordingLock_lawful :
    (recordingLock σ locals names helpers).Lawful scope (scope.recording locals) where
  sameMono _ _ _ same := same
  metMono _ _ _ _ met := met
  met same _ := Or.inl ⟨congrArg some same, Option.some_ne_none _⟩
  scalar _ _ := rfl
  shape {_ value other} same := by
    cases same
    cases value with
    | list ref => exact Or.inr (Or.inl ⟨ref, ref, rfl, rfl⟩)
    | map ref => exact Or.inr (Or.inr (Or.inl ⟨ref, ref, rfl, rfl⟩))
    | record ref => exact Or.inr (Or.inr (Or.inr ⟨ref, ref, rfl, rfl⟩))
    | _ => exact Or.inl ⟨rfl, rfl⟩
  text around same := by
    obtain ⟨rfl, _⟩ := around
    cases same
    rfl
  newList around same := by
    cases List.forall₂_eq_eq_eq ▸ same
    exact same_outcome (fun _ => rfl) around fun store => given (store.newList _)
  field around same name := by
    cases same
    exact same_outcome (fun _ => rfl) around fun store => readField _ name store
  index around same place := by
    cases same
    cases place
    exact same_outcome (fun _ => rfl) around fun store => readIndex _ _ store
  method around same values name := by
    cases same
    cases List.forall₂_eq_eq_eq ▸ values
    exact same_outcome (fun _ => rfl) around fun store => callMethod _ name _ store
  binary around same other op limit := by
    cases same
    cases other
    exact same_outcome (fun _ => rfl) around fun store => binary op limit _ _ store
  items around same := by
    cases same
    exact same_outcome (fun values => List.forall₂_same.mpr fun _ _ => rfl) around
      fun store => given (TrackedList.iterate _ store)
  entries around same := by
    cases same
    have refl (entries : List (String × Value)) : List.Forall₂
        (fun entry other : String × Value => entry.1 = other.1 ∧ entry.2 = other.2) entries entries :=
      List.forall₂_same.mpr fun _ _ => ⟨rfl, rfl⟩
    exact same_outcome refl around fun store => given (TrackedMap.iterate _ store)
  lookup {_ l r name found known} around met := by
    obtain ⟨rfl, asked, called⟩ := around
    rcases met with ⟨rfl, known⟩ | ⟨rfl, rfl, allowed⟩
    · cases found with
      | none => exact absurd rfl known
      | some value => exact ⟨(), le_rfl, ⟨rfl, asked, called⟩, .ok (.some rfl)⟩
    · refine same_answer rel_self _ (fun other member => ?_) called
      rcases List.mem_cons.mp member with rfl | before
      · exact allowed
      · exact asked other before
  call {_ l r name values others} around answered ordinary same := by
    obtain ⟨rfl, asked, called⟩ := around
    cases List.forall₂_eq_eq_eq ▸ same
    refine same_answer rel_self _ asked fun other member => ?_
    rcases List.mem_cons.mp member with rfl | before
    · exact answered.resolve_left ordinary
    · exact called other before
  child around _ className id := by
    obtain ⟨rfl, asked, called⟩ := around
    exact same_answer (fun _ => rfl) _ asked called

end

/-- **A recorded run** is the run of the node, and it notes only names that the node reads and
helpers that it calls. -/
theorem records_node (scope : Scope σ) (config : Config) (node : Node)
    (locals : OrderedMap String Value) (pass : Pass σ) :
    let recorded := Eval.node (scope.recording locals) config node pass.recorded
    Records (Eval.node scope config node { pass with frames := [locals] }) recorded ∧
      (∀ name ∈ recorded.2.world.2.names, name ∈ node.reads) ∧
      ∀ name ∈ recorded.2.world.2.helpers, name ∈ node.calls ∧ name ∉ builtins := by
  intro recorded
  let lock := recordingLock σ locals (· ∈ node.reads)
    fun name => name ∈ node.calls ∧ name ∉ builtins
  have prepared : lock.Prepared .exact [locals] [OrderedMap.empty] () node.reads node.decisions
      node.calls := by
    refine .of_visible (by decide) (fun name read => Or.inr ⟨?_, rfl, read⟩) fun name called => ?_
    · simp only [Eval.findLocal, List.findSome?_cons, List.findSome?_nil]
      cases locals.get? name <;> rfl
    · by_cases builtin : name ∈ builtins
      · simp only [builtins, List.mem_cons, List.not_mem_nil, or_false] at builtin
        exact builtin.imp_right Or.inl
      · exact Or.inr (Or.inr ⟨called, builtin⟩)
  have fitting : lock.Fitting .exact scope (scope.recording locals) :=
    ⟨recordingLock_lawful, fun hidden => absurd hidden (by decide)⟩
  have met : lock.Meets .exact () _ (Eval.node scope config node { pass with frames := [locals] })
      recorded :=
    Lockstep.abreast_node fitting node (List.cons_ne_nil _ _) (List.cons_ne_nil _ _) prepared _ _
      ⟨⟨rfl, List.forall_mem_nil _, List.forall_mem_nil _⟩, rfl, rfl,
        fun _ => ⟨rfl, rfl, rfl, rfl⟩, fun _ _ => rfl, fun _ => rfl⟩
  generalize Eval.node scope config node { pass with frames := [locals] } = run,
    recorded = arrived at met ⊢
  cases met with
  | ok _ _ _ beside =>
    obtain ⟨same, names, helpers⟩ := beside.around
    exact ⟨⟨rfl, congrArg Prod.fst same, congrArg Prod.snd same,
      fun _ => ⟨beside.shown (by decide), beside.counted rfl⟩⟩, names, helpers⟩
  | errors same =>
    obtain ⟨rfl, _, same, names, helpers⟩ := same rfl
    exact ⟨⟨rfl, congrArg Prod.fst same, congrArg Prod.snd same,
      fun succeeds => by cases succeeds⟩, names, helpers⟩
  | leftFails apart => exact absurd rfl apart
  | rightFails apart => exact absurd rfl apart

/-! ### What the analysis lists -/

/--
**Who asks depends**: whatever the scope, the locals of the earlier parts and the run, a name that a
part takes from outside itself is among its dependencies, or a branch of the part binds it; and if
the part calls a helper, then it depends on the component.
-/
theorem asked_is_dependency {className variant source : String} {template : Template}
    (compiled : Template.compile className variant source = .ok template) {part : DynamicPart}
    (member : Part.dynamic part ∈ template.parts) (scope : Scope σ) (config : Config)
    (locals : OrderedMap String Value) (pass : Pass σ) :
    let run := Eval.node scope config part.node { pass with frames := [locals] }
    let recorded := Eval.node (scope.recording locals) config part.node pass.recorded
    Records run recorded ∧
      (∀ name ∈ recorded.2.world.2.names,
        name ∈ part.dependencies ∨ (name ∈ part.node.reads ∧ name ∈ part.node.branchBinds)) ∧
      (recorded.2.world.2.helpers ≠ [] → componentName ∈ part.dependencies) := by
  obtain ⟨records, names, helpers⟩ := records_node scope config part.node locals pass
  have analysed := Template.analysed_of_compile compiled member
  refine ⟨records, fun name asked => ?_, fun some => ?_⟩
  · rw [analysed.dependencies]
    exact (mem_dependencies_analyze (names name asked)).imp_right
      fun bound => ⟨names name asked, bound⟩
  · obtain ⟨name, called⟩ := List.exists_mem_of_ne_nil _ some
    rw [analysed.dependencies]
    exact componentName_mem_analyze (helpers name called).1 (helpers name called).2

/-- A loop that reads a local of an earlier part. -/
theorem asked_is_dependency_of_loop :
    let scope := Scope.ofVariables .empty
    let locals := OrderedMap.ofList [("n", Value.int 2)]
    ∃ template part, Template.compile "Page" "default" "<% for i in n %><%= i %><% end %>" =
        .ok template ∧ Part.dynamic part ∈ template.parts ∧
      (Eval.node (scope.recording locals) Config.default part.node
        (Pass.start () Store.empty).recorded).2.world.2.names = ["n"] ∧
      "n" ∈ part.dependencies := by
  intro scope locals
  have checked : Template.isCompiledTo
      (Template.compile "Page" "default" "<% for i in n %><%= i %><% end %>") (fun template =>
        Template.somePart (fun part => ((Eval.node (scope.recording locals) Config.default part.node
            (Pass.start () Store.empty).recorded).2.world.2.names == ["n"]) &&
          decide (part.node.branchBinds = [])) template.parts) = true := by decide +kernel
  obtain ⟨template, compiled, found⟩ := Template.exists_of_isCompiledTo checked
  obtain ⟨part, member, passes⟩ := Template.exists_of_somePart found
  rw [Bool.and_eq_true, beq_iff_eq, decide_eq_true_eq] at passes
  obtain ⟨names, plain⟩ := passes
  refine ⟨template, part, compiled, member, names, ?_⟩
  have listed := (asked_is_dependency compiled member scope Config.default locals
    (Pass.start () Store.empty)).2.1 "n" (names ▸ List.mem_singleton_self "n")
  exact listed.resolve_right fun bound => List.not_mem_nil (plain ▸ bound.2)

/-- **A name that one branch binds is not listed where another branch reads it.** -/
theorem asked_beyond_dependencies :
    let scope := Scope.ofVariables (.ofList [("a", .bool false), ("x", .int 1)])
    ∃ template part, Template.compile "Page" "default"
        "<% if a %><% let x = 1 %><% else %><%= x %><% end %>" = .ok template ∧
      Part.dynamic part ∈ template.parts ∧
      "x" ∈ (Eval.node (scope.recording .empty) Config.default part.node
        (Pass.start () Store.empty).recorded).2.world.2.names ∧
      "x" ∉ part.dependencies := by
  intro scope
  have checked : Template.isCompiledTo (Template.compile "Page" "default"
        "<% if a %><% let x = 1 %><% else %><%= x %><% end %>") (fun template =>
      Template.somePart (fun part => decide ("x" ∈ (Eval.node (scope.recording .empty)
          Config.default part.node (Pass.start () Store.empty).recorded).2.world.2.names) &&
        decide ("x" ∉ part.dependencies)) template.parts) = true := by decide +kernel
  obtain ⟨template, compiled, found⟩ := Template.exists_of_isCompiledTo checked
  obtain ⟨part, member, passes⟩ := Template.exists_of_somePart found
  rw [Bool.and_eq_true, decide_eq_true_eq, decide_eq_true_eq] at passes
  exact ⟨template, part, compiled, member, passes.1, passes.2⟩

end Render

end ReactiveView
