/-
**The names of a template, and what the analysis finds of them.**

Which names a node may read, which it certainly binds, and which only one of its branches binds, is
written down from the node itself. The analysis walks through all branches as if they were one row,
so a name bound in one branch counts as bound in the next: that alone it can miss.

* `Template.gathers_node` — a name that a node may read is a dependency, or bound before, or bound
  in a branch; a call of a helper is a dependency on the component.
* `Template.mem_bound_analyze` — the names that a node leaves bound.
* `Template.analysed_of_compile` — what a compiled part says of itself is what the analysis found.
-/

import ReactiveView.Template.Basic

namespace ReactiveView

/-! ### Names and calls -/

mutual

/-- The names that an expression may read. -/
def Expr.names : Expr → List String
  | .literal _ => []
  | .list items => Expr.namesOf items
  | .name asked => [asked]
  | .field target _ => target.names
  | .index target place => target.names ++ place.names
  | .method receiver _ arguments => receiver.names ++ Expr.namesOf arguments
  | .call _ arguments => Expr.namesOf arguments
  | .unary _ operand => operand.names
  | .binary _ left right => left.names ++ right.names
  | .conditional test affirmed denied => test.names ++ affirmed.names ++ denied.names

/-- The names that some expressions may read. -/
def Expr.namesOf : List Expr → List String
  | [] => []
  | first :: rest => first.names ++ Expr.namesOf rest

end

mutual

/-- The calls without a receiver that an expression may make. -/
def Expr.calls : Expr → List String
  | .literal _ => []
  | .list items => Expr.callsOf items
  | .name _ => []
  | .field target _ => target.calls
  | .index target place => target.calls ++ place.calls
  | .method receiver _ arguments => receiver.calls ++ Expr.callsOf arguments
  | .call called arguments => called :: Expr.callsOf arguments
  | .unary _ operand => operand.calls
  | .binary _ left right => left.calls ++ right.calls
  | .conditional test affirmed denied => test.calls ++ affirmed.calls ++ denied.calls

/-- The calls that some expressions may make. -/
def Expr.callsOf : List Expr → List String
  | [] => []
  | first :: rest => first.calls ++ Expr.callsOf rest

end

mutual

/-- The calls that a node may make. -/
def Node.calls : Node → List String
  | .text _ => []
  | .output value _ => value.calls
  | .choice choices => choices.calls
  | .loop _ _ iterable body => iterable.calls ++ Node.callsOf body
  | .bind _ value => value.calls

/-- The calls that a choice may make. -/
def Branches.calls : Branches → List String
  | .otherwise body => Node.callsOf body
  | .branch test body rest => test.calls ++ Node.callsOf body ++ rest.calls

/-- The calls that some nodes may make. -/
def Node.callsOf : List Node → List String
  | [] => []
  | first :: rest => first.calls ++ Node.callsOf rest

end

mutual

/-- The calls on which the way through a node and its locals depend: those outside of outputs. -/
def Node.decisions : Node → List String
  | .text _ => []
  | .output _ _ => []
  | .choice choices => choices.decisions
  | .loop _ _ iterable body => iterable.calls ++ Node.decisionsOf body
  | .bind _ value => value.calls

/-- The calls on which the way through a choice and its locals depend. -/
def Branches.decisions : Branches → List String
  | .otherwise body => Node.decisionsOf body
  | .branch test body rest => test.calls ++ Node.decisionsOf body ++ rest.decisions

/-- The calls on which the way through some nodes and their locals depend. -/
def Node.decisionsOf : List Node → List String
  | [] => []
  | first :: rest => first.decisions ++ Node.decisionsOf rest

end

mutual

theorem Node.decisions_subset : ∀ node : Node, node.decisions ⊆ node.calls
  | .text _ => List.Subset.refl _
  | .output _ _ => List.nil_subset _
  | .choice choices => Branches.decisions_subset choices
  | .loop _ _ _ body =>
    List.append_subset.mpr ⟨List.subset_append_left _ _,
      List.subset_append_of_subset_right _ (Node.decisionsOf_subset body)⟩
  | .bind _ _ => List.Subset.refl _

theorem Branches.decisions_subset : ∀ choices : Branches, choices.decisions ⊆ choices.calls
  | .otherwise body => Node.decisionsOf_subset body
  | .branch _ body rest =>
    List.append_subset.mpr ⟨List.subset_append_of_subset_left _ (List.append_subset.mpr
      ⟨List.subset_append_left _ _,
        List.subset_append_of_subset_right _ (Node.decisionsOf_subset body)⟩),
      List.subset_append_of_subset_right _ (Branches.decisions_subset rest)⟩

theorem Node.decisionsOf_subset : ∀ nodes : List Node, Node.decisionsOf nodes ⊆ Node.callsOf nodes
  | [] => List.Subset.refl _
  | first :: rest =>
    List.append_subset.mpr
      ⟨List.subset_append_of_subset_left _ (Node.decisions_subset first),
        List.subset_append_of_subset_right _ (Node.decisionsOf_subset rest)⟩

end

/-! ### Bound names -/

/-- The names that a node binds whatever way it takes. -/
def Node.binds : Node → List String
  | .bind name _ => [name]
  | _ => []

mutual

/-- The names that a node may bind for the nodes after it. -/
def Node.leaves : Node → List String
  | .choice choices => choices.leaves
  | .bind name _ => [name]
  | _ => []

/-- The names that a branch of a choice may bind for what follows the choice. -/
def Branches.leaves : Branches → List String
  | .otherwise body => Node.leavesOf body
  | .branch _ body rest => Node.leavesOf body ++ rest.leaves

/-- The names that some nodes may bind for the nodes after them. -/
def Node.leavesOf : List Node → List String
  | [] => []
  | first :: rest => first.leaves ++ Node.leavesOf rest

end

mutual

/-- The names bound in a branch within a node. -/
def Node.branchBinds : Node → List String
  | .choice choices => choices.branchBinds
  | .loop _ _ _ body => Node.branchBindsOf body
  | _ => []

/-- The names bound in a branch of a choice, or in a branch within one. -/
def Branches.branchBinds : Branches → List String
  | .otherwise body => Node.leavesOf body ++ Node.branchBindsOf body
  | .branch _ body rest => Node.leavesOf body ++ Node.branchBindsOf body ++ rest.branchBinds

/-- The names bound in a branch within some nodes. -/
def Node.branchBindsOf : List Node → List String
  | [] => []
  | first :: rest => first.branchBinds ++ Node.branchBindsOf rest

end

/-- The names that a loop gives to its items. -/
def loopNames (item : String) (second : Option String) : List String := item :: second.toList

mutual

/-- The names that a node may read and has not certainly bound itself before. -/
def Node.reads : Node → List String
  | .text _ => []
  | .output value _ => value.names
  | .choice choices => choices.reads
  | .loop item second iterable body =>
    iterable.names ++ (Node.readsOf body).filter (· ∉ loopNames item second)
  | .bind _ value => value.names

/-- The names that a choice may read and has not certainly bound itself before. -/
def Branches.reads : Branches → List String
  | .otherwise body => Node.readsOf body
  | .branch test body rest => test.names ++ Node.readsOf body ++ rest.reads

/-- The names that some nodes may read and none before has certainly bound. -/
def Node.readsOf : List Node → List String
  | [] => []
  | first :: rest => first.reads ++ (Node.readsOf rest).filter (· ∉ first.binds)

end

/-- What a node may bind it binds in any case, or in a branch. -/
theorem Node.mem_leaves {node : Node} {name : String} (bound : name ∈ node.leaves) :
    name ∈ node.binds ∨ name ∈ node.branchBinds := by
  have branches : ∀ choices : Branches, name ∈ choices.leaves → name ∈ choices.branchBinds := by
    intro choices
    induction choices using Branches.rec (motive_1 := fun _ => True) (motive_3 := fun _ => True) with
    | otherwise body _ => exact fun bound => List.mem_append_left _ bound
    | branch _ _ _ _ ih =>
      intro bound
      rcases List.mem_append.mp bound with bound | bound
      · exact List.mem_append_left _ (List.mem_append_left _ bound)
      · exact List.mem_append_right _ (ih bound)
    | _ => trivial
  cases node with
  | choice choices => exact Or.inr (branches choices bound)
  | bind _ _ => exact Or.inl bound
  | _ => cases bound

/-! ### What the analysis finds -/

namespace Template

/-- What the analysis has added on the way: it knows these names and calls. -/
structure Knows (before after : Analysis) (names calls : List String) : Prop where
  kept : ∀ name ∈ before.dependencies, name ∈ after.dependencies
  names : ∀ name ∈ names, before.isLocal name = true ∨ name ∈ after.dependencies
  helper : ∀ name ∈ calls, name ∉ builtins → componentName ∈ after.dependencies
  scopes : after.scopes = before.scopes

theorem Analysis.isLocal_congr {analysis other : Analysis} (same : analysis.scopes = other.scopes)
    (name : String) : analysis.isLocal name = other.isLocal name := by
  rw [Analysis.isLocal, Analysis.isLocal, same]

namespace Knows

variable {before after later : Analysis} {names more calls others : List String}

theorem refl (analysis : Analysis) : Knows analysis analysis [] [] :=
  ⟨fun _ => id, nofun, nofun, rfl⟩

theorem trans (first : Knows before after names calls) (second : Knows after later more others) :
    Knows before later (names ++ more) (calls ++ others) where
  kept name member := second.kept name (first.kept name member)
  names name member := by
    rcases List.mem_append.mp member with member | member
    · exact (first.names name member).imp_right (second.kept name)
    · rw [← Analysis.isLocal_congr first.scopes]
      exact second.names name member
  helper name member other := by
    rcases List.mem_append.mp member with member | member
    · exact second.kept _ (first.helper name member other)
    · exact second.helper name member other
  scopes := second.scopes.trans first.scopes

end Knows

theorem knows_read (analysis : Analysis) (name : String) :
    Knows analysis (analysis.read name) [name] [] := by
  unfold Analysis.read
  split
  · next bound => exact ⟨fun _ => id, by simp [bound], nofun, rfl⟩
  · exact ⟨fun _ => by simp +contextual [Analysis.depend], by simp [Analysis.depend], nofun, rfl⟩

theorem knows_call (analysis : Analysis) (name : String) (bare : Bool) :
    Knows analysis (analysis.call name bare) [] [name] := by
  unfold Analysis.call
  split
  · next builtin => exact ⟨fun _ => id, nofun, by simp [builtin], rfl⟩
  · have noted : Knows analysis (analysis.depend componentName) [] [name] :=
      ⟨fun _ => by simp +contextual [Analysis.depend], nofun, by simp [Analysis.depend], rfl⟩
    cases bare with
    | false => exact noted
    | true =>
      have read := noted.trans (knows_read (analysis.depend componentName) name)
      exact ⟨read.kept, nofun, by simpa using read.helper, read.scopes⟩

mutual

theorem knows_expr (analysis : Analysis) :
    ∀ expr : Expr, Knows analysis (analysis.expr expr) expr.names expr.calls
  | .literal _ => .refl analysis
  | .list items => knows_exprs analysis items
  | .name name => knows_read analysis name
  | .field target _ => knows_expr analysis target
  | .index target index => (knows_expr analysis target).trans (knows_expr _ index)
  | .method receiver _ arguments => (knows_expr analysis receiver).trans (knows_exprs _ arguments)
  | .call name arguments =>
    (knows_call analysis name arguments.isEmpty).trans (knows_exprs _ arguments)
  | .unary _ operand => knows_expr analysis operand
  | .binary _ left right => (knows_expr analysis left).trans (knows_expr _ right)
  | .conditional test affirmed denied =>
    ((knows_expr analysis test).trans (knows_expr _ affirmed)).trans (knows_expr _ denied)

theorem knows_exprs (analysis : Analysis) :
    ∀ exprs : List Expr,
      Knows analysis (analysis.exprs exprs) (Expr.namesOf exprs) (Expr.callsOf exprs)
  | [] => .refl analysis
  | first :: rest => (knows_expr analysis first).trans (knows_exprs _ rest)

end

/--
What the analysis of a node adds: besides what it knows, which names it leaves bound in the
innermost scope.
-/
structure Gathers (before after : Analysis) (reads calls leaves branchBinds : List String) :
    Prop where
  kept : ∀ name ∈ before.dependencies, name ∈ after.dependencies
  names : ∀ name ∈ reads,
    before.isLocal name = true ∨ name ∈ after.dependencies ∨ name ∈ branchBinds
  helper : ∀ name ∈ calls, name ∉ builtins → componentName ∈ after.dependencies
  opened : after.scopes ≠ []
  outer : after.scopes.tail = before.scopes.tail
  bound : ∀ name, name ∈ after.bound ↔ name ∈ before.bound ∨ name ∈ leaves

theorem Analysis.isLocal_iff {analysis : Analysis} {name : String} :
    analysis.isLocal name = true ↔
      name ∈ analysis.bound ∨ analysis.scopes.tail.any (·.contains name) = true := by
  unfold Analysis.isLocal Analysis.bound
  cases analysis.scopes with
  | nil => simp
  | cons innermost outer => simp

theorem Knows.gathers {before after : Analysis} {names calls : List String}
    (knows : Knows before after names calls) (opened : before.scopes ≠ []) :
    Gathers before after names calls [] [] where
  kept := knows.kept
  names name member := (knows.names name member).imp_right Or.inl
  helper := knows.helper
  opened := knows.scopes ▸ opened
  outer := by rw [knows.scopes]
  bound name := by simp [Analysis.bound, knows.scopes]

namespace Gathers

variable {before after later : Analysis}
  {reads more calls others leaves further branchBinds hidden : List String}

theorem isLocal (gathers : Gathers before after reads calls leaves branchBinds) {name : String}
    (known : after.isLocal name = true) : before.isLocal name = true ∨ name ∈ leaves := by
  rw [Analysis.isLocal_iff, gathers.outer, gathers.bound] at known
  rw [Analysis.isLocal_iff]
  exact or_right_comm.mp known

theorem hide (gathers : Gathers before after reads calls leaves branchBinds) {wider : List String}
    (within : branchBinds ⊆ wider) : Gathers before after reads calls leaves wider :=
  { gathers with names := fun name member =>
      (gathers.names name member).imp_right (Or.imp_right fun hidden => within hidden) }

/--
One after the other: what the second may read the first has not bound, unless it did so in a branch.
-/
theorem trans (first : Gathers before after reads calls leaves branchBinds)
    (second : Gathers after later more others further hidden) {all : List String}
    (free : ∀ name ∈ all, name ∈ reads ∨ (name ∈ more ∧ (name ∈ leaves → name ∈ branchBinds))) :
    Gathers before later all (calls ++ others) (leaves ++ further) (branchBinds ++ hidden) where
  kept name member := second.kept name (first.kept name member)
  names name member := by
    rcases free name member with early | ⟨late, certain⟩
    · rcases first.names name early with bound | found | hidden
      · exact Or.inl bound
      · exact Or.inr (Or.inl (second.kept name found))
      · exact Or.inr (Or.inr (List.mem_append_left _ hidden))
    · rcases second.names name late with bound | found | hidden
      · rcases first.isLocal bound with bound | left
        · exact Or.inl bound
        · exact Or.inr (Or.inr (List.mem_append_left _ (certain left)))
      · exact Or.inr (Or.inl found)
      · exact Or.inr (Or.inr (List.mem_append_right _ hidden))
  helper name member other := by
    rcases List.mem_append.mp member with member | member
    · exact second.kept _ (first.helper name member other)
    · exact second.helper name member other
  opened := second.opened
  outer := second.outer.trans first.outer
  bound name := by rw [second.bound, first.bound, List.mem_append, or_assoc]

/-- What is bound in a scope is gone when the scope is closed. -/
theorem leave (gathers : Gathers before.enter after reads calls leaves branchBinds)
    (opened : before.scopes ≠ []) : Gathers before after.leave reads calls [] branchBinds := by
  have closed : after.leave.scopes = before.scopes := by
    rw [Analysis.leave, List.drop_one, gathers.outer]
    rfl
  refine ⟨gathers.kept, fun name member => ?_, gathers.helper, closed ▸ opened, by rw [closed],
    fun name => by simp [Analysis.bound, closed]⟩
  have outside : before.enter.isLocal name = before.isLocal name := by
    simp [Analysis.enter, Analysis.isLocal, NameSet.contains]
  rw [← outside]
  exact gathers.names name member

end Gathers

theorem gathers_bind {analysis : Analysis} (opened : analysis.scopes ≠ []) (name : String) :
    Gathers analysis (analysis.bind name) [] [] [name] [] := by
  obtain ⟨dependencies, scopes⟩ := analysis
  cases scopes with
  | nil => exact absurd rfl opened
  | cons innermost outer =>
    refine ⟨fun _ => id, nofun, nofun, by simp [Analysis.bind], rfl, fun other => ?_⟩
    simp [Analysis.bind, Analysis.bound, or_comm]

/-- The scope of a loop, opened. -/
theorem gathers_loop_names {analysis : Analysis} (item : String) (second : Option String) :
    Gathers analysis.enter
      (match second with
        | some second => (analysis.enter.bind item).bind second
        | none => analysis.enter.bind item)
      [] [] (loopNames item second) [] := by
  have once := @gathers_bind analysis.enter (by simp [Analysis.enter]) item
  cases second with
  | none => exact once
  | some second => exact once.trans (gathers_bind once.opened second) nofun

mutual

/-- **What the analysis of a node finds.** -/
theorem gathers_node {analysis : Analysis} (opened : analysis.scopes ≠ []) : ∀ node : Node,
    Gathers analysis (analysis.node node) node.reads node.calls node.leaves node.branchBinds
  | .text _ => (Knows.refl analysis).gathers opened
  | .output value _ => (knows_expr analysis value).gathers opened
  | .choice choices => gathers_branches opened choices
  | .bind name value => by
    have read := (knows_expr analysis value).gathers opened
    have bound : Gathers analysis ((analysis.expr value).bind name) value.names
        (value.calls ++ []) ([] ++ [name]) ([] ++ []) :=
      read.trans (gathers_bind read.opened name) fun _ => Or.inl
    rw [List.append_nil] at bound
    exact bound
  | .loop item second iterable body => by
    have read := (knows_expr analysis iterable).gathers opened
    have names := @gathers_loop_names (analysis.expr iterable) item second
    have inside : Gathers _ _ ((Node.readsOf body).filter (· ∉ loopNames item second)) _ _ _ :=
      names.trans (gathers_nodes names.opened body) fun name member => by
        obtain ⟨late, free⟩ := List.mem_filter.mp member
        exact Or.inr ⟨late, fun bound => absurd bound (by simpa using free)⟩
    exact read.trans (inside.leave read.opened) fun name member =>
      (List.mem_append.mp member).imp_right fun late => ⟨late, nofun⟩

theorem gathers_branches {analysis : Analysis} (opened : analysis.scopes ≠ []) :
    ∀ choices : Branches, Gathers analysis (analysis.branches choices) choices.reads choices.calls
      choices.leaves choices.branchBinds
  | .otherwise body => (gathers_nodes opened body).hide (List.subset_append_right ..)
  | .branch test body rest => by
    have first := (knows_expr analysis test).gathers opened
    have taken := (gathers_nodes first.opened body).hide
      (List.subset_append_right (Node.leavesOf body) _)
    have others := gathers_branches taken.opened rest
    have tested := first.trans taken fun name member =>
      (List.mem_append.mp member).imp_right fun late => ⟨late, nofun⟩
    exact tested.trans others fun name member =>
      (List.mem_append.mp member).imp_right fun late =>
        ⟨late, fun left => List.mem_append_right [] (List.mem_append_left _ left)⟩

theorem gathers_nodes {analysis : Analysis} (opened : analysis.scopes ≠ []) : ∀ nodes : List Node,
    Gathers analysis (analysis.nodes nodes) (Node.readsOf nodes) (Node.callsOf nodes)
      (Node.leavesOf nodes) (Node.branchBindsOf nodes)
  | [] => (Knows.refl analysis).gathers opened
  | first :: rest => by
    have here := gathers_node opened first
    refine here.trans (gathers_nodes here.opened rest) fun name member => ?_
    rcases List.mem_append.mp member with early | late
    · exact Or.inl early
    · obtain ⟨late, free⟩ := List.mem_filter.mp late
      refine Or.inr ⟨late, fun left => (Node.mem_leaves left).resolve_left ?_⟩
      simpa using free

end

/-! ### Compiled parts -/

theorem gathers_analyze (node : Node) :
    Gathers Analysis.start (analyze node) node.reads node.calls node.leaves node.branchBinds :=
  @gathers_node Analysis.start (List.cons_ne_nil NameSet.empty []) node

/-- **A name that a node may read is a dependency**, unless a branch of the node binds it. -/
theorem mem_dependencies_analyze {node : Node} {name : String} (read : name ∈ node.reads) :
    name ∈ (analyze node).dependencies ∨ name ∈ node.branchBinds := by
  rcases (gathers_analyze node).names name read with bound | found
  · exact absurd bound (by simp [Analysis.start, Analysis.isLocal, NameSet.contains])
  · exact found

/-- **Who calls a helper depends on the component.** -/
theorem componentName_mem_analyze {node : Node} {name : String} (call : name ∈ node.calls)
    (helper : name ∉ builtins) : componentName ∈ (analyze node).dependencies :=
  (gathers_analyze node).helper name call helper

theorem mem_bound_analyze {node : Node} {name : String} :
    name ∈ (analyze node).bound ↔ name ∈ node.leaves := by
  rw [(gathers_analyze node).bound]
  simp [Analysis.start, Analysis.bound]

/-- A part that says of itself what the analysis of its node has found. -/
structure Analysed (part : DynamicPart) : Prop where
  dependencies : part.dependencies = (analyze part.node).dependencies
  locals : part.locals = (analyze part.node).bound
  kind : partKind? part.node = some part.kind

/-- An expression is an output tag. -/
theorem Analysed.output {part : DynamicPart} (analysed : Analysed part)
    (kind : part.kind = .expression) : ∃ value raw, part.node = .output value raw := by
  have kinds := analysed.kind
  rw [kind] at kinds
  cases found : part.node with
  | output value raw => exact ⟨value, raw, rfl⟩
  | _ => rw [found] at kinds; cases kinds

theorem mem_consText {text : String} {parts : List Part} {part : DynamicPart}
    (member : Part.dynamic part ∈ consText text parts) : Part.dynamic part ∈ parts := by
  unfold consText at member
  split at member
  · simpa using member
  · simpa using member

theorem analysed_of_partsOf {source : List Char} {nodes : List SpannedNode} {part : DynamicPart}
    (member : Part.dynamic part ∈ partsOf source nodes) : Analysed part := by
  induction nodes with
  | nil => cases member
  | cons spanned rest ih =>
    unfold partsOf at member
    split at member
    · exact ih (mem_consText member)
    · next node other =>
      rcases List.mem_cons.mp member with same | member
      · cases same
        refine ⟨rfl, rfl, ?_⟩
        cases found : spanned.node with
        | text text => exact absurd found (other text)
        | _ => rfl
      · exact ih member

/-- **Every part of a compiled template is as the analysis found it.** -/
theorem analysed_of_compile {className variant source : String} {template : Template}
    (compiled : compile className variant source = .ok template) {part : DynamicPart}
    (member : Part.dynamic part ∈ template.parts) : Analysed part := by
  unfold compile at compiled
  simp only at compiled
  split at compiled
  · cases compiled
  · cases compiled
    exact analysed_of_partsOf member

/-! ### Checking what was compiled -/

/-- Whether a compilation succeeds with a template that passes a check. -/
def isCompiledTo (compiled : Except TemplateError Template) (check : Template → Bool) : Bool :=
  match compiled with
  | .ok template => check template
  | .error _ => false

theorem exists_of_isCompiledTo {compiled : Except TemplateError Template} {check : Template → Bool}
    (passes : isCompiledTo compiled check = true) :
    ∃ template, compiled = .ok template ∧ check template = true := by
  cases compiled with
  | ok template => exact ⟨template, rfl, passes⟩
  | error error => cases passes

/-- Whether every part that changes passes a check. -/
def everyPart (check : DynamicPart → Bool) (parts : List Part) : Bool :=
  parts.all fun
    | .fixed _ => true
    | .dynamic part => check part

theorem check_of_everyPart {check : DynamicPart → Bool} {parts : List Part}
    (all : everyPart check parts = true) {part : DynamicPart} (member : Part.dynamic part ∈ parts) :
    check part = true :=
  List.all_eq_true.mp all _ member

/-- Whether some part that changes passes a check. -/
def somePart (check : DynamicPart → Bool) (parts : List Part) : Bool :=
  parts.any fun
    | .fixed _ => false
    | .dynamic part => check part

theorem exists_of_somePart {check : DynamicPart → Bool} {parts : List Part}
    (found : somePart check parts = true) :
    ∃ part, Part.dynamic part ∈ parts ∧ check part = true := by
  obtain ⟨part, member, passes⟩ := List.any_eq_true.mp found
  cases part with
  | fixed text => cases passes
  | dynamic part => exact ⟨part, member, passes⟩

end Template

end ReactiveView
