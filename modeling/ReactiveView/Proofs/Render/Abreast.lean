/-
**Nodes in lockstep.**

Two runs of one node keep what their locals know of each name alike, and the names that the node
binds are known alike after it. How much more they have in common is a matter of closeness: in the
closest case they fail together, with one and the same error.

* `Lockstep.abreast_node` — two runs of one node.
* `Lockstep.abreast_loop` — two loops over corresponding values, also if the limit cuts one short.
-/

import ReactiveView.Proofs.Render.Together

namespace ReactiveView.Render.Lockstep

variable {σ τ α β α' β' : Type}

/-- How two steps end: both succeed side by side, or one fails or both do. -/
inductive Meets (lock : Lockstep σ τ) (close : Closeness) (stage : lock.Stage)
    (next : lock.Stage → Frames → Frames → α → β → Prop) :
    Except Error α × Pass σ → Except Error β × Pass τ → Prop
  | ok {value : α} {opposed : β} {left : Pass σ} {right : Pass τ} (later : lock.Stage)
    (le : stage ≤ later) (then' : next later left.frames right.frames value opposed)
    (beside : lock.Beside close later left.frames right.frames left right) :
    Meets lock close stage next (.ok value, left) (.ok opposed, right)
  | errors {error other : Error} {left : Pass σ} {right : Pass τ}
    (same : close = .exact → error = other ∧ ∃ later, lock.Around later left.around right.around) :
    Meets lock close stage next (.error error, left) (.error other, right)
  | leftFails {error : Error} {opposed : β} {left : Pass σ} {right : Pass τ}
    (apart : close ≠ .exact) : Meets lock close stage next (.error error, left) (.ok opposed, right)
  | rightFails {value : α} {error : Error} {left : Pass σ} {right : Pass τ}
    (apart : close ≠ .exact) : Meets lock close stage next (.ok value, left) (.error error, right)

/-- Two steps that end so from passes side by side. -/
def Abreast (lock : Lockstep σ τ) (close : Closeness) (frames others : Frames) (stage : lock.Stage)
    (next : lock.Stage → Frames → Frames → α → β → Prop) (run : Eval σ α) (other : Eval τ β) :
    Prop :=
  ∀ left right, lock.Beside close stage frames others left right →
    lock.Meets close stage next (run left) (other right)

section

variable {lock : Lockstep σ τ} {close : Closeness} {frames others : Frames} {stage : lock.Stage}
  {next weaker : lock.Stage → Frames → Frames → α → β → Prop}
  {last : lock.Stage → Frames → Frames → α' → β' → Prop} {run : Eval σ α} {other : Eval τ β}

theorem Abreast.imp (abreast : lock.Abreast close frames others stage next run other)
    (weaken : ∀ later fs os value opposed, stage ≤ later → next later fs os value opposed →
      weaker later fs os value opposed) :
    lock.Abreast close frames others stage weaker run other := by
  intro left right beside
  have met := abreast left right beside
  generalize run left = reached, other right = arrived at met ⊢
  cases met with
  | ok later le then' beside => exact .ok later le (weaken _ _ _ _ _ le then') beside
  | errors same => exact .errors same
  | leftFails apart => exact .leftFails apart
  | rightFails apart => exact .rightFails apart

theorem Abreast.bind (first : lock.Abreast close frames others stage next run other)
    {following : α → Eval σ α'} {answering : β → Eval τ β'}
    (after : ∀ later, stage ≤ later → ∀ fs os value opposed, next later fs os value opposed →
      lock.Abreast close fs os later last (following value) (answering opposed)) :
    lock.Abreast close frames others stage last (run >>= following) (other >>= answering) := by
  intro left right beside
  have met := first left right beside
  rw [Eval.bind_apply, Eval.bind_apply]
  generalize run left = reached, other right = arrived at met ⊢
  cases met with
  | @ok value opposed leftAfter rightAfter later le then' beside =>
    have met := after later le _ _ value opposed then' leftAfter rightAfter beside
    simp only
    generalize following value leftAfter = reached, answering opposed rightAfter = arrived at met ⊢
    cases met with
    | ok last more then' beside => exact .ok last (le.trans more) then' beside
    | errors same => exact .errors same
    | leftFails apart => exact .leftFails apart
    | rightFails apart => exact .rightFails apart
  | errors same => exact .errors same
  | @leftFails error opposed leftAfter rightAfter apart =>
    simp only
    rcases answering opposed rightAfter with ⟨_ | _, _⟩
    · exact .errors fun same => absurd same apart
    · exact .leftFails apart
  | @rightFails value error leftAfter rightAfter apart =>
    simp only
    rcases following value leftAfter with ⟨_ | _, _⟩
    · exact .errors fun same => absurd same apart
    · exact .rightFails apart

theorem Meets.of_refused {reached : Except Error α × Pass σ} {arrived : Except Error β × Pass τ}
    (apart : close ≠ .exact)
    (refused : (∀ value, reached.1 ≠ .ok value) ∨ ∀ value, arrived.1 ≠ .ok value) :
    lock.Meets close stage next reached arrived := by
  rcases reached with ⟨_ | value, _⟩ <;> rcases arrived with ⟨_ | opposed, _⟩
  · exact .errors fun same => absurd same apart
  · exact .leftFails apart
  · exact .rightFails apart
  · rcases refused with refused | refused
    · exact absurd rfl (refused value)
    · exact absurd rfl (refused opposed)

/-- What each run has done to its locals on its own. -/
theorem Abreast.shifted {left : Scope σ} {right : Scope τ} {shift opposite : Frames → Frames → Prop}
    (abreast : lock.Abreast close frames others stage next run other)
    (takes : Eval.Takes left shift run) (opposed : Eval.Takes right opposite other) :
    lock.Abreast close frames others stage
      (fun later fs os value opposed => next later fs os value opposed ∧ shift frames fs ∧
        opposite others os) run other := by
  intro left right beside
  have met := abreast left right beside
  have moved := (takes left).2
  have shifted := (opposed right).2
  rw [beside.frames] at moved
  rw [beside.others] at shifted
  generalize run left = reached, other right = arrived at met moved shifted ⊢
  cases met with
  | ok later le then' beside =>
    exact .ok later le ⟨then', moved _ rfl, shifted _ rfl⟩ beside
  | errors same => exact .errors same
  | leftFails apart => exact .leftFails apart
  | rightFails apart => exact .rightFails apart

/-- Steps that stay together leave the locals where they are. -/
theorem Together.abreast {relation : lock.Stage → α → β → Prop}
    (together : lock.Together close frames others stage relation run other) :
    lock.Abreast close frames others stage
      (fun later fs os value opposed => fs = frames ∧ os = others ∧ relation later value opposed)
      run other := by
  intro left right beside
  obtain ⟨later, le, beside, alike⟩ := together left right beside
  generalize run left = reached, other right = arrived at beside alike ⊢
  obtain ⟨result, left⟩ := reached
  obtain ⟨answer, right⟩ := arrived
  cases alike with
  | error error => exact .errors fun _ => ⟨rfl, later, beside.around⟩
  | ok related =>
    refine .ok later le ⟨beside.frames, beside.others, related⟩ ?_
    rw [beside.frames, beside.others]
    exact beside

theorem Undisturbed.moves {left : Scope σ} {right : Scope τ} (free : lock.Undisturbed left right)
    {before after : σ × Store} {opposite shifted : τ × Store}
    (around : lock.Around stage before opposite)
    (moved : Relation.ReflTransGen left.Move before after)
    (opposed : Relation.ReflTransGen right.Move opposite shifted) :
    lock.Around stage after shifted := by
  have first : lock.Around stage after opposite := by
    induction moved with
    | refl => exact around
    | tail _ move ih => exact free.moveLeft ih move
  induction opposed with
  | refl => exact first
  | tail _ move ih => exact free.moveRight ih move

/-- What keeps two runs of this closeness together: where the output is hidden each of them may do
something on its own. -/
structure Fitting (lock : Lockstep σ τ) (close : Closeness) (left : Scope σ) (right : Scope τ) :
    Prop where
  lawful : lock.Lawful left right
  free : close = .hidden → lock.Undisturbed left right

/-- Where the output is left out of the comparison, each run may do what it likes on its own. -/
theorem abreast_of_hidden {left : Scope σ} {right : Scope τ} (free : lock.Undisturbed left right)
    {shift opposite : Frames → Frames → Prop} (takes : Eval.Takes left shift run)
    (opposed : Eval.Takes right opposite other) :
    lock.Abreast .hidden frames others stage
      (fun _ fs os _ _ => shift frames fs ∧ opposite others os) run other := by
  intro l r beside
  have moved := takes l
  have shifted := opposed r
  rw [beside.frames] at moved
  rw [beside.others] at shifted
  generalize run l = reached, other r = arrived at moved shifted ⊢
  rcases reached with ⟨_ | _, reached⟩ <;> rcases arrived with ⟨_ | _, arrived⟩
  · exact .errors fun exact => absurd exact (by decide)
  · exact .leftFails (by decide)
  · exact .rightFails (by decide)
  · refine .ok stage le_rfl ⟨moved.2 _ rfl, shifted.2 _ rfl⟩
      ⟨?_, rfl, rfl, fun visible => absurd rfl visible,
        fun visible => absurd rfl visible, fun exact => absurd exact (by decide)⟩
    exact free.moves beside.around moved.1.moved shifted.1.moved

end

/-! ### Locals -/

theorem findLocal_rebound_self {frames : Frames} (opened : frames ≠ []) (name : String)
    (value : Value) : Eval.findLocal (Eval.rebound name value frames) name = some value := by
  cases frames with
  | nil => exact absurd rfl opened
  | cons innermost outer =>
    simp only [Eval.rebound, Eval.findLocal, List.findSome?_cons, OrderedMap.get?_insert_self]

theorem findLocal_rebound_of_ne {frames : Frames} {name other : String} (ne : other ≠ name)
    (value : Value) :
    Eval.findLocal (Eval.rebound name value frames) other = Eval.findLocal frames other := by
  cases frames with
  | nil => rfl
  | cons innermost outer =>
    simp only [Eval.rebound, Eval.findLocal, List.findSome?_cons,
      OrderedMap.get?_insert_of_ne _ ne value]

theorem findLocal_loopFrame_of_not_mem {item : String} {second : Option String} {name : String}
    (absent : name ∉ loopNames item second) (pair : Value × Value) (frames : Frames) :
    Eval.findLocal (Eval.loopFrame item second pair :: frames) name =
      Eval.findLocal frames name := by
  have none : (Eval.loopFrame item second pair).get? name = none := by
    cases second with
    | none =>
      simp only [loopNames, Option.toList_none, List.mem_singleton] at absent
      exact OrderedMap.get?_insert_of_ne _ absent pair.1
    | some second =>
      simp only [loopNames, Option.toList_some, List.mem_cons, List.not_mem_nil, or_false,
        not_or] at absent
      exact (OrderedMap.get?_insert_of_ne _ absent.2 pair.2).trans
        (OrderedMap.get?_insert_of_ne _ absent.1 pair.1)
  simp only [Eval.findLocal, List.findSome?_cons, none]

/-- A name of a loop has the first or the second value of the pair. -/
theorem findLocal_loopFrame_of_mem {item : String} {second : Option String} {name : String}
    (member : name ∈ loopNames item second) :
    (∀ (pair : Value × Value) (frames : Frames),
      Eval.findLocal (Eval.loopFrame item second pair :: frames) name = some pair.1) ∨
    ∀ (pair : Value × Value) (frames : Frames),
      Eval.findLocal (Eval.loopFrame item second pair :: frames) name = some pair.2 := by
  cases second with
  | none =>
    simp only [loopNames, Option.toList_none, List.mem_singleton] at member
    subst member
    exact Or.inl fun pair frames => by
      simp only [Eval.findLocal, Eval.loopFrame, List.findSome?_cons, OrderedMap.get?_insert_self]
  | some second =>
    by_cases last : name = second
    · subst last
      exact Or.inr fun pair frames => by
        simp only [Eval.findLocal, Eval.loopFrame, List.findSome?_cons, OrderedMap.get?_insert_self]
    · simp only [loopNames, Option.toList_some, List.mem_cons, List.not_mem_nil, or_false, last,
        or_false] at member
      subst member
      exact Or.inl fun pair frames => by
        simp only [Eval.findLocal, Eval.loopFrame, List.findSome?_cons,
          OrderedMap.get?_insert_of_ne _ last, OrderedMap.get?_insert_self]

/-! ### What a node needs and what it leaves -/

/-- Locals that are enough to run a node alike, and calls that are answered alike. -/
structure Prepared (lock : Lockstep σ τ) (close : Closeness) (frames others : Frames)
    (stage : lock.Stage) (reads decisions calls : List String) : Prop where
  met : ∀ name ∈ reads,
    lock.Met stage name (Eval.findLocal frames name) (Eval.findLocal others name)
  decided : ∀ name ∈ decisions, name = "raw" ∨
    (lock.Answered name ∧ (name = "child" → close ≠ .hidden))
  answered : close ≠ .hidden → ∀ name ∈ calls, name = "raw" ∨ lock.Answered name

/-- What was known alike stays so, and these names have come to be known alike. -/
structure Carries (lock : Lockstep σ τ) (frames others : Frames) (stage : lock.Stage)
    (binds : List String) (later : lock.Stage) (fs os : Frames) : Prop where
  kept : ∀ name, lock.Met stage name (Eval.findLocal frames name) (Eval.findLocal others name) →
    lock.Met later name (Eval.findLocal fs name) (Eval.findLocal os name)
  bound : ∀ name ∈ binds, lock.Met later name (Eval.findLocal fs name) (Eval.findLocal os name)

section

variable {lock : Lockstep σ τ} {left : Scope σ} {right : Scope τ} (law : lock.Lawful left right)
  {config : Config} {close : Closeness} {frames others fs os : Frames} {stage later : lock.Stage}
  {reads decisions calls more further beyond binds : List String} {item : String}
  {second : Option String}

omit law in
theorem Prepared.sub (prepared : lock.Prepared close frames others stage reads decisions calls)
    (less : more ⊆ reads) (fewer : further ⊆ decisions) (least : beyond ⊆ calls) :
    lock.Prepared close frames others stage more further beyond :=
  ⟨fun name member => prepared.met name (less member),
    fun name member => prepared.decided name (fewer member),
    fun visible name member => prepared.answered visible name (least member)⟩

omit law in
/-- Where the output is compared, each call must be answered alike. -/
theorem Prepared.of_visible {node : Node} (visible : close ≠ .hidden)
    (met : ∀ name ∈ node.reads,
      lock.Met stage name (Eval.findLocal frames name) (Eval.findLocal others name))
    (answered : ∀ name ∈ node.calls, name = "raw" ∨ lock.Answered name) :
    lock.Prepared close frames others stage node.reads node.decisions node.calls :=
  ⟨met, fun name member => (answered name (node.decisions_subset member)).imp_right
    fun answered => ⟨answered, fun _ => visible⟩, fun _ => answered⟩

omit law in
/-- What follows a step is prepared if the step leaves what it needs. -/
theorem Prepared.carry (prepared : lock.Prepared close frames others stage reads decisions calls)
    (carries : lock.Carries frames others stage binds later fs os) (within : ∀ name ∈ more,
      name ∈ reads ∨ name ∈ binds) (fewer : further ⊆ decisions) (least : beyond ⊆ calls) :
    lock.Prepared close fs os later more further beyond := by
  refine ⟨fun name member => ?_, fun name member => prepared.decided name (fewer member),
    fun visible name member => prepared.answered visible name (least member)⟩
  rcases within name member with read | bound
  · exact carries.kept name (prepared.met name read)
  · exact carries.bound name bound

omit law in
theorem Prepared.ready (prepared : lock.Prepared close frames others stage reads decisions calls) :
    lock.Ready close frames others stage reads decisions := ⟨prepared.met, prepared.decided⟩

include law

theorem Carries.still (le : stage ≤ later) :
    lock.Carries frames others stage [] later frames others :=
  ⟨fun _ => law.metMono le, List.forall_mem_nil _⟩

omit law in
theorem Carries.trans {last : lock.Stage} {fs' os' : Frames}
    (first : lock.Carries frames others stage binds later fs os)
    (second : lock.Carries fs os later more last fs' os') :
    lock.Carries frames others stage [] last fs' os' :=
  ⟨fun name met => second.kept name (first.kept name met), List.forall_mem_nil _⟩

/-- A name that is given corresponding values is known alike, and the others are as before. -/
theorem Carries.rebound {value opposed : Value} (same : lock.Same later value opposed)
    (le : stage ≤ later) (openLeft : frames ≠ []) (openRight : others ≠ []) (name : String) :
    lock.Carries frames others stage [name] later (Eval.rebound name value frames)
      (Eval.rebound name opposed others) := by
  have here : lock.Met later name (Eval.findLocal (Eval.rebound name value frames) name)
      (Eval.findLocal (Eval.rebound name opposed others) name) := by
    rw [findLocal_rebound_self openLeft, findLocal_rebound_self openRight]
    exact law.met same name
  refine ⟨fun asked met => ?_, fun asked member => List.mem_singleton.mp member ▸ here⟩
  by_cases known : asked = name
  · exact known ▸ here
  · rw [findLocal_rebound_of_ne known, findLocal_rebound_of_ne known]
    exact law.metMono le met

/-- Inside a loop its own names are known alike, and the others as before. -/
theorem Prepared.enter (prepared : lock.Prepared close frames others stage
      (reads.filter (· ∉ loopNames item second)) decisions calls)
    (le : stage ≤ later) {pair opposed : Value × Value} (first : lock.Same later pair.1 opposed.1)
    (rest : lock.Same later pair.2 opposed.2) :
    lock.Prepared close (Eval.loopFrame item second pair :: frames)
      (Eval.loopFrame item second opposed :: others) later reads decisions calls := by
  refine ⟨fun name member => ?_, prepared.decided, prepared.answered⟩
  by_cases own : name ∈ loopNames item second
  · rcases findLocal_loopFrame_of_mem own with found | found
    · rw [found, found]
      exact law.met first name
    · rw [found, found]
      exact law.met rest name
  · rw [findLocal_loopFrame_of_not_mem own, findLocal_loopFrame_of_not_mem own]
    exact law.metMono le (prepared.met name (List.mem_filter.mpr ⟨member, by simpa using own⟩))

/-! ### Loops -/

/-- Pairs that a loop goes through, alike on both sides. -/
def SamePair (lock : Lockstep σ τ) (stage : lock.Stage) (pair opposed : Value × Value) : Prop :=
  lock.Same stage pair.1 opposed.1 ∧ lock.Same stage pair.2 opposed.2

omit law in
theorem abreast_count :
    lock.Abreast close frames others stage (fun _ fs os _ _ => fs = frames ∧ os = others)
      (Eval.count config : Eval σ Unit) (Eval.count config : Eval τ Unit) := by
  intro l r beside
  rw [Eval.count_apply, Eval.count_apply]
  by_cases exact' : close = .exact
  · rw [beside.counted exact']
    split
    · exact .errors fun _ => ⟨rfl, stage, beside.around⟩
    · exact .ok stage le_rfl ⟨beside.frames, beside.others⟩ ⟨beside.around, rfl, rfl, fun visible =>
        { beside.shown visible with }, beside.children, fun _ => rfl⟩
  · split <;> split
    · exact .errors fun same => absurd same exact'
    · exact .leftFails exact'
    · exact .rightFails exact'
    · exact .ok stage le_rfl ⟨beside.frames, beside.others⟩ ⟨beside.around, rfl, rfl, fun visible =>
        { beside.shown visible with }, beside.children, fun same => absurd same exact'⟩

omit law in
/-- One run of a loop on both sides. -/
theorem abreast_turn {body : Eval σ Unit} {opposite : Eval τ Unit} {names : List String}
    (takes : Eval.Takes left (Eval.Rebinds names) body)
    (opposed : Eval.Takes right (Eval.Rebinds names) opposite)
    {frame other : OrderedMap String Value}
    (inside : ∀ {later}, stage ≤ later → lock.Abreast close (frame :: frames) (other :: others) later
      (fun _ _ _ _ _ => True) body opposite) :
    lock.Abreast close frames others stage (fun _ fs os _ _ => fs = frames ∧ os = others)
      (Eval.turn config frame body) (Eval.turn config other opposite) := by
  have run : lock.Abreast close frames others stage (fun _ _ _ _ _ => True)
      (Eval.turn config frame body) (Eval.turn config other opposite) := by
    refine abreast_count.bind fun later le fs os _ _ same => ?_
    obtain ⟨rfl, rfl⟩ := same
    have entered : lock.Abreast close fs os later
        (fun _ inner opposed _ _ => inner = frame :: fs ∧ opposed = other :: os)
        (Eval.enter frame) (Eval.enter other) := fun l r beside =>
      .ok later le_rfl ⟨congrArg (frame :: ·) beside.frames, congrArg (other :: ·) beside.others⟩
        ⟨beside.around, rfl, rfl, fun visible => { beside.shown visible with }, beside.children,
          beside.counted⟩
    refine entered.bind fun last more _ _ _ _ same => ?_
    obtain ⟨rfl, rfl⟩ := same
    refine (inside (le.trans more)).bind fun end' _ _ _ _ _ _ => fun l r beside => ?_
    exact .ok end' le_rfl trivial
      ⟨beside.around, rfl, rfl, fun visible => { beside.shown visible with }, beside.children,
        beside.counted⟩
  exact (run.shifted (Eval.takes_turn left config takes frame)
    (Eval.takes_turn right config opposed other)).imp fun _ _ _ _ _ _ same =>
      ⟨same.2.1.symm, same.2.2.symm⟩

/-- A row of loop runs over corresponding pairs. -/
theorem abreast_forM {pairs opposed : List (Value × Value)} {run : Value × Value → Eval σ PUnit}
    {other : Value × Value → Eval τ PUnit}
    (turns : ∀ {later}, stage ≤ later → ∀ pair opposed, lock.SamePair later pair opposed →
      lock.Abreast close frames others later (fun _ fs os _ _ => fs = frames ∧ os = others)
        (run pair) (other opposed))
    (same : List.Forall₂ (lock.SamePair stage) pairs opposed) :
    lock.Abreast close frames others stage (fun _ fs os _ _ => fs = frames ∧ os = others)
      (pairs.forM run) (opposed.forM other) := by
  have rows : ∀ later, stage ≤ later →
      lock.Abreast close frames others later (fun _ fs os _ _ => fs = frames ∧ os = others)
        (pairs.forM run) (opposed.forM other) := by
    induction same with
    | nil =>
      refine fun later _ l r beside => .ok later le_rfl ⟨beside.frames, beside.others⟩ ?_
      exact ⟨beside.around, rfl, rfl, beside.shown, beside.children, beside.counted⟩
    | cons here _ ih =>
      intro later le
      refine (turns le _ _ ⟨law.sameMono le here.1, law.sameMono le here.2⟩).bind
        fun last more fs os _ _ same => ?_
      obtain ⟨rfl, rfl⟩ := same
      exact ih last (le.trans more)
  exact rows stage le_rfl

omit law in
theorem samePair_zipIdx (scalar : ∀ index, lock.Same stage (.ofNat index) (.ofNat index))
    {items opposed : List Value} (same : List.Forall₂ (lock.Same stage) items opposed) :
    List.Forall₂ (lock.SamePair stage)
      (items.zipIdx.map fun item => (item.1, Value.ofNat item.2))
      (opposed.zipIdx.map fun item => (item.1, Value.ofNat item.2)) := by
  have numbered : ∀ start, List.Forall₂ (lock.SamePair stage)
      ((items.zipIdx start).map fun item => (item.1, Value.ofNat item.2))
      ((opposed.zipIdx start).map fun item => (item.1, Value.ofNat item.2)) := by
    induction same with
    | nil => exact fun _ => .nil
    | cons here _ ih => exact fun start => .cons ⟨here, scalar start⟩ (ih (start + 1))
  exact numbered 0

/-- What two loops go through, unless it is the numbers below an integer. -/
theorem together_pairs {value opposed : Value} (same : lock.Same stage value opposed)
    (other : ∀ number, value ≠ .int number) :
    lock.Together close frames others stage (fun stage => List.Forall₂ (lock.SamePair stage))
      (Eval.pairs config value) (Eval.pairs config opposed) := by
  have number (stage : lock.Stage) (index : Nat) : lock.Same stage (.ofNat index) (.ofNat index) :=
    law.scalar rfl stage
  intro l r beside
  rcases law.shape same with ⟨rfl, plain⟩ | ⟨ref, against, rfl, rfl⟩ | ⟨ref, against, rfl, rfl⟩ |
    ⟨ref, against, rfl, rfl⟩
  · cases value with
    | nil => exact ⟨stage, le_rfl, beside, .ok .nil⟩
    | int value => exact absurd rfl (other value)
    | list _ | map _ | record _ => cases plain
    | _ => exact ⟨stage, le_rfl, beside, .error _⟩
  · obtain ⟨later, le, around, items⟩ := law.items beside.around same
    refine ⟨later, le, ⟨around, beside.frames, beside.others, fun visible =>
      { beside.shown visible with }, beside.children, beside.counted⟩, ?_⟩
    cases items with
    | ok items => exact .ok (samePair_zipIdx (number later) items)
  · obtain ⟨later, le, around, entries⟩ := law.entries beside.around same
    refine ⟨later, le, ⟨around, beside.frames, beside.others, fun visible =>
      { beside.shown visible with }, beside.children, beside.counted⟩, ?_⟩
    cases entries with
    | ok entries =>
      refine .ok (List.forall₂_map_left_iff.mpr (List.forall₂_map_right_iff.mpr
        (entries.imp fun entry other alike => ⟨?_, alike.2⟩)))
      rw [alike.1]
      exact law.scalar rfl later
  · exact ⟨stage, le_rfl, beside, .error _⟩

/--
**Two loops over corresponding values.** The numbers below an integer are cut where the limit is
passed; where the two runs have counted differently they are cut differently, but then the loop
that is cut fails.
-/
theorem abreast_loop {value opposed : Value} (same : lock.Same stage value opposed)
    {frame : Value × Value → OrderedMap String Value} {body : Eval σ Unit} {opposite : Eval τ Unit}
    {names : List String} (takes : Eval.Takes left (Eval.Rebinds names) body)
    (opposing : Eval.Takes right (Eval.Rebinds names) opposite)
    (turns : ∀ {later}, stage ≤ later → ∀ pair opposed, lock.SamePair later pair opposed →
      lock.Abreast close frames others later (fun _ fs os _ _ => fs = frames ∧ os = others)
        (Eval.turn config (frame pair) body) (Eval.turn config (frame opposed) opposite)) :
    lock.Abreast close frames others stage (fun _ fs os _ _ => fs = frames ∧ os = others)
      (do (← Eval.pairs config value).forM fun pair => Eval.turn config (frame pair) body)
      (do (← Eval.pairs config opposed).forM fun pair => Eval.turn config (frame pair) opposite) := by
  by_cases whole : ∃ number, value = .int number
  · obtain ⟨number, rfl⟩ := whole
    obtain rfl : Value.int number = opposed := by
      rcases law.shape same with ⟨same, _⟩ | ⟨_, _, no, _⟩ | ⟨_, _, no, _⟩ | ⟨_, _, no, _⟩
      · exact same
      all_goals cases no
    intro l r beside
    rw [Eval.bind_apply, Eval.bind_apply]
    simp only [Eval.pairs]
    generalize number.toInt.toNat = limit
    by_cases equal : min limit (config.maxIterations - l.iterations + 1) =
        min limit (config.maxIterations - r.iterations + 1)
    · rw [equal]
      refine abreast_forM law turns (List.forall₂_map_left_iff.mpr (List.forall₂_map_right_iff.mpr
        (List.forall₂_same.mpr fun index _ => ?_))) l r beside
      exact ⟨law.scalar rfl stage, law.scalar rfl stage⟩
    · refine .of_refused (fun same => equal (by rw [beside.counted same])) ?_
      have cut {ρ : Type} {scope : Scope ρ} {inner : Eval ρ Unit}
          (takes : Eval.Takes scope (Eval.Rebinds names) inner) (pass : Pass ρ)
          (less : config.maxIterations - pass.iterations + 1 < limit) :
          (((List.range (min limit (config.maxIterations - pass.iterations + 1))).map fun index =>
            (Value.ofNat index, Value.ofNat index)).forM
              (fun pair => Eval.turn config (frame pair) inner) pass).1 ≠ .ok () := by
        rw [Nat.min_eq_right less.le]
        refine Eval.loop_refused scope config takes frame ?_ ?_
        · simp [List.range_succ]
        · rw [List.length_map, List.length_range]
          omega
      rcases Nat.lt_or_ge (config.maxIterations - l.iterations + 1) limit with less | le
      · exact Or.inl fun _ => cut takes l less
      · exact Or.inr fun _ => cut opposing r (by omega)
  · refine (together_pairs law same fun number same => whole ⟨number, same⟩).abreast.bind
      fun later le fs os _ _ found => ?_
    obtain ⟨rfl, rfl, pairs⟩ := found
    exact abreast_forM law (fun more => turns (le.trans more)) pairs

/-! ### Nodes -/

/-- A step that leaves the locals alone, and whose output may be out of the comparison. -/
theorem abreast_output (free : close = .hidden → lock.Undisturbed left right) {run : Eval σ Unit}
    {other : Eval τ Unit} (takes : Eval.Takes left Eq run) (opposed : Eval.Takes right Eq other)
    (together : close ≠ .hidden →
      lock.Together close frames others stage (fun _ _ _ => True) run other) :
    lock.Abreast close frames others stage
      (fun later fs os _ _ => lock.Carries frames others stage [] later fs os) run other := by
  by_cases hidden : close = .hidden
  · subst hidden
    refine (abreast_of_hidden (free rfl) takes opposed).imp fun later fs os _ _ le same => ?_
    obtain ⟨rfl, rfl⟩ := same
    exact .still law le
  · refine (together hidden).abreast.imp fun later fs os _ _ le same => ?_
    obtain ⟨rfl, rfl, _⟩ := same
    exact .still law le

theorem together_outputNode (visible : close ≠ .hidden) {value : Expr} {raw : Bool}
    (ready : lock.Ready close frames others stage value.names value.calls) :
    lock.Together close frames others stage (fun _ _ _ => True)
      (Eval.node left config (.output value raw)) (Eval.node right config (.output value raw)) :=
  (together_output law raw value ready).bind fun _ _ _ _ same => same ▸ together_push visible _

theorem abreast_bind {value opposed : Value} (same : lock.Same stage value opposed)
    (openLeft : frames ≠ []) (openRight : others ≠ []) (name : String) :
    lock.Abreast close frames others stage
      (fun later fs os _ _ => lock.Carries frames others stage [name] later fs os)
      (Eval.bind name value : Eval σ Unit) (Eval.bind name opposed : Eval τ Unit) := by
  intro l r beside
  rw [Eval.bind_eq, Eval.bind_eq]
  refine .ok stage le_rfl ?_ ⟨beside.around, rfl, rfl, fun visible =>
    { beside.shown visible with }, beside.children, beside.counted⟩
  simp only [beside.frames, beside.others]
  exact .rebound law same le_rfl openLeft openRight name

end

section

variable {lock : Lockstep σ τ} {left : Scope σ} {right : Scope τ} {config : Config}
  {close : Closeness} (fitting : lock.Fitting close left right)

include fitting

mutual

/-- **Two runs of one node**: what was known alike stays so, and what the node binds comes to be. -/
theorem abreast_node : ∀ (node : Node) {frames others : Frames} {stage : lock.Stage},
    frames ≠ [] → others ≠ [] →
    lock.Prepared close frames others stage node.reads node.decisions node.calls →
    lock.Abreast close frames others stage
      (fun later fs os _ _ => lock.Carries frames others stage node.binds later fs os)
      (Eval.node left config node) (Eval.node right config node)
  | .text _, _, _, _, _, _, _ =>
    abreast_output fitting.lawful fitting.free (Eval.keeps_push left config _).1
      (Eval.keeps_push right config _).1 fun visible => together_push visible _
  | .output value raw, _, _, _, _, _, prepared =>
    abreast_output fitting.lawful fitting.free (Eval.keeps_outputNode left config value raw).1
      (Eval.keeps_outputNode right config value raw).1
      fun visible => together_outputNode fitting.lawful visible ⟨prepared.met, fun name member =>
        (prepared.answered visible name member).imp_right
          fun answered => ⟨answered, fun _ => visible⟩⟩
  | .choice choices, _, _, _, openLeft, openRight, prepared =>
    abreast_branches choices openLeft openRight prepared
  | .loop item second iterable body, frames, others, stage, openLeft, openRight, prepared => by
    have iterating : lock.Ready close frames others stage iterable.names iterable.calls :=
      prepared.ready.sub (List.subset_append_left _ _) (List.subset_append_left _ _)
    refine (together_expr fitting.lawful iterable iterating).abreast.bind
      fun later le fs os value opposed found => ?_
    obtain ⟨rfl, rfl, same⟩ := found
    have inside : lock.Prepared close fs os stage
        ((Node.readsOf body).filter (· ∉ loopNames item second)) (Node.decisionsOf body)
        (Node.callsOf body) :=
      prepared.sub (List.subset_append_right _ _) (List.subset_append_right _ _)
        (List.subset_append_right _ _)
    have one := Eval.takes_nodes left config body
    have other := Eval.takes_nodes right config body
    refine (abreast_loop fitting.lawful same one other fun more pair opposed same => ?_).imp
      fun last fs os _ _ more same => ?_
    · refine abreast_turn one other fun further => ?_
      have entered := inside.enter fitting.lawful (le.trans (more.trans further))
        (fitting.lawful.sameMono further same.1) (fitting.lawful.sameMono further same.2)
      exact (abreast_nodes body (List.cons_ne_nil _ _) (List.cons_ne_nil _ _) entered).imp
        fun _ _ _ _ _ _ _ => trivial
    · obtain ⟨rfl, rfl⟩ := same
      exact .still fitting.lawful (le.trans more)
  | .bind name value, _, _, _, openLeft, openRight, prepared => by
    refine (together_expr fitting.lawful value prepared.ready).abreast.bind
      fun later le fs os _ _ found => ?_
    obtain ⟨rfl, rfl, same⟩ := found
    refine (abreast_bind fitting.lawful same openLeft openRight name).imp
      fun last fs os _ _ more carries => ?_
    exact ⟨fun asked met => carries.kept asked (fitting.lawful.metMono le met), carries.bound⟩

theorem abreast_branches : ∀ (choices : Branches) {frames others : Frames} {stage : lock.Stage},
    frames ≠ [] → others ≠ [] →
    lock.Prepared close frames others stage choices.reads choices.decisions choices.calls →
    lock.Abreast close frames others stage
      (fun later fs os _ _ => lock.Carries frames others stage [] later fs os)
      (Eval.branches left config choices) (Eval.branches right config choices)
  | .otherwise body, _, _, _, openLeft, openRight, prepared =>
    abreast_nodes body openLeft openRight prepared
  | .branch test body rest, frames, others, stage, openLeft, openRight, prepared => by
    have tested : lock.Ready close frames others stage test.names test.calls :=
      prepared.ready.front.front
    unfold Eval.branches
    refine (together_expr fitting.lawful test tested).abreast.bind
      fun later le fs os value opposed found => ?_
    obtain ⟨rfl, rfl, same⟩ := found
    have still : lock.Carries fs os stage [] later fs os := .still fitting.lawful le
    rw [fitting.lawful.isTruthy same]
    split
    · have taken : lock.Prepared close fs os later (Node.readsOf body) (Node.decisionsOf body)
          (Node.callsOf body) := prepared.carry still
        (fun name member => Or.inl (List.mem_append_left _ (List.mem_append_right _ member)))
        (fun name member => List.mem_append_left _ (List.mem_append_right _ member))
        (fun name member => List.mem_append_left _ (List.mem_append_right _ member))
      exact (abreast_nodes body openLeft openRight taken).imp fun _ _ _ _ _ _ after =>
        still.trans after
    · have refused : lock.Prepared close fs os later rest.reads rest.decisions rest.calls :=
        prepared.carry still (fun name member => Or.inl (List.mem_append_right _ member))
        (List.subset_append_right _ _) (List.subset_append_right _ _)
      exact (abreast_branches rest openLeft openRight refused).imp fun _ _ _ _ _ _ after =>
        still.trans after

theorem abreast_nodes : ∀ (nodes : List Node) {frames others : Frames} {stage : lock.Stage},
    frames ≠ [] → others ≠ [] →
    lock.Prepared close frames others stage (Node.readsOf nodes) (Node.decisionsOf nodes)
      (Node.callsOf nodes) →
    lock.Abreast close frames others stage
      (fun later fs os _ _ => lock.Carries frames others stage [] later fs os)
      (Eval.nodes left config nodes) (Eval.nodes right config nodes)
  | [], _, _, _, _, _, _ =>
    abreast_output fitting.lawful fitting.free (Eval.Keeps.pure ()).1 (Eval.Keeps.pure ()).1
      fun _ => .pure trivial
  | first :: rest, frames, others, stage, openLeft, openRight, prepared => by
    have here := prepared.sub (List.subset_append_left _ _) (List.subset_append_left _ _)
      (List.subset_append_left _ _)
    refine ((abreast_node first openLeft openRight here).shifted (Eval.takes_node left config first)
      (Eval.takes_node right config first)).bind fun later le fs os _ _ found => ?_
    obtain ⟨carries, leftShift, rightShift⟩ := found
    have then' : lock.Prepared close fs os later (Node.readsOf rest) (Node.decisionsOf rest)
        (Node.callsOf rest) := prepared.carry carries (fun name member => by
        by_cases bound : name ∈ first.binds
        · exact Or.inr bound
        · exact Or.inl (List.mem_append_right _
            (List.mem_filter.mpr ⟨member, by simpa using bound⟩)))
      (List.subset_append_right _ _) (List.subset_append_right _ _)
    exact (abreast_nodes rest (leftShift.opened openLeft) (rightShift.opened openRight) then').imp
      fun _ _ _ _ _ _ after => carries.trans after

end

end

end ReactiveView.Render.Lockstep
