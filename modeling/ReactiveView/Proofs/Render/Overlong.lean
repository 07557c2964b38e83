/-
**Where texts that are too long come from.**

A text that is made by an operator is never longer than the limit on output, and most methods make no
text that is longer than what they were given. So, where the scope supplies no longer text and no literal
is longer, no value of an expression is one either, until a method that makes new texts or `raw` gives
one: these check nothing.

* `Scope.Supplies` — what a scope has under its names, and in its store, is not too long.
* `Eval.upheld_short` — the steps of a rendering keep texts short.
* `Watched` — the first text that is too long has a source, and all is short before it.
* `source_of_overlong` — so it is in every rendering.
* `overlong_of_replace` — a text that a template makes too long.
-/

import ReactiveView.Proofs.Render.Faithful
import ReactiveView.Proofs.Render.Sizes
import ReactiveView.Proofs.Template.Names

namespace ReactiveView

variable {σ α β : Type}

/--
**A scope that supplies no text longer than a limit**: neither under its names nor in the lists, maps and
records that it leaves, as long as it is given none. `good` says of which worlds this is known. What a
helper or a child answers itself is left open.
-/
structure Scope.Supplies (scope : Scope σ) (limit : Nat) (good : σ → Prop) : Prop where
  lookup : ∀ {world store}, good world → store.Short limit → ∀ name,
    let answer := scope.lookup name world store
    good answer.2.1 ∧ answer.2.2.Short limit ∧
      ∀ found, answer.1 = .ok found → ∀ value ∈ found, value.Short limit
  call : ∀ {world store}, good world → store.Short limit → ∀ name {arguments},
    (∀ value ∈ arguments, value.Short limit) →
    let answer := scope.call name arguments world store
    good answer.2.1 ∧ answer.2.2.Short limit
  child : ∀ {world store}, good world → store.Short limit → ∀ className id,
    let answer := scope.renderChild className id world store
    good answer.2.1 ∧ answer.2.2.Short limit

/-- The variables of a plain map are supplied as they are. -/
theorem Scope.supplies_ofVariables {limit : Nat} {values : OrderedMap String Value}
    (each : ∀ value ∈ values.values, value.Short limit) :
    (Scope.ofVariables values).Supplies limit fun _ => True where
  lookup _ short name := by
    refine ⟨trivial, short, ?_⟩
    rintro _ ⟨⟩ value found
    exact each value ((OrderedMap.mem_values_iff values value).mpr ⟨name, found⟩)
  call _ short _ _ _ := ⟨trivial, short⟩
  child _ short _ _ := ⟨trivial, short⟩

namespace Render

variable {limit : Nat} {good : σ → Prop}

/-! ### Short texts are kept -/

/-- **No text that a pass holds is longer than the limit.** -/
structure Pass.Short (limit : Nat) (good : σ → Prop) (pass : Pass σ) : Prop where
  world : good pass.world
  store : pass.store.Short limit
  locals : ∀ frame ∈ pass.frames, ∀ value ∈ frame.values, value.Short limit

namespace Eval

theorem Upholds.bind {inv : Pass σ → Prop} {post : α → Prop} {last : β → Prop} {step : Eval σ α}
    {next : α → Eval σ β} (first : step.Upholds inv post)
    (rest : ∀ value, post value → (next value).Upholds inv last) : (step >>= next).Upholds inv last := by
  intro pass kept
  have here := first pass kept
  rw [bind_apply]
  generalize step pass = reached at here ⊢
  obtain ⟨error | value, middle⟩ := reached
  · exact ⟨here.1, nofun⟩
  · exact rest value (here.2 value rfl) middle here.1

/-- Something done to the store that keeps it short. -/
theorem upholds_onStore {f : Store → Outcome} {post : Value → Prop}
    (brief : ∀ {store : Store}, store.Short limit → (f store).2.Short limit ∧
      ∀ value, (f store).1 = .ok value → post value) :
    (onStore f).Upholds (Pass.Short limit good) post := by
  intro pass short
  have ⟨kept, ends⟩ := brief short.store
  exact ⟨⟨short.world, kept, short.locals⟩, ends⟩

/-- A question to a scope that keeps the store short. -/
theorem upholds_asking {f : σ → Store → Answer σ α} {post : α → Prop}
    (answered : ∀ {world store}, good world → store.Short limit →
      good (f world store).2.1 ∧ (f world store).2.2.Short limit ∧
        ∀ value, (f world store).1 = .ok value → post value) :
    (asking f).Upholds (Pass.Short limit good) post := by
  intro pass short
  have ⟨world, store, ends⟩ := answered short.world short.store
  exact ⟨⟨world, store, short.locals⟩, ends⟩

/-- A result that was there before. -/
theorem upholds_settled {inv : Pass σ → Prop} {post : α → Prop} {result : Except Error α}
    (ends : ∀ value, result = .ok value → post value) : (settled result).Upholds inv post :=
  .still ends

theorem short_findLocal {frames : List (OrderedMap String Value)} {name : String}
    (short : ∀ frame ∈ frames, ∀ value ∈ frame.values, value.Short limit) :
    ∀ value ∈ findLocal frames name, value.Short limit := by
  intro value found
  obtain ⟨frame, member, held⟩ := List.exists_of_findSome?_eq_some found
  exact short frame member value ((OrderedMap.mem_values_iff frame value).mpr ⟨name, held⟩)

theorem short_insert {frame : OrderedMap String Value} {name : String} {value : Value}
    (short : ∀ held ∈ frame.values, held.Short limit) (fits : value.Short limit) :
    ∀ held ∈ (frame.insert name value).values, held.Short limit := by
  intro held member
  obtain ⟨key, found⟩ := (OrderedMap.mem_values_iff _ held).mp member
  by_cases same : key = name
  · rw [same, OrderedMap.get?_insert_self] at found
    exact Option.some.inj found ▸ fits
  · rw [OrderedMap.get?_insert_of_ne frame same] at found
    exact short held ((OrderedMap.mem_values_iff frame held).mpr ⟨key, found⟩)

section

variable {scope : Scope σ} (supplies : scope.Supplies limit good)

include supplies

theorem upholds_lookup (config : Config) (name : String) :
    (lookup scope config name).Upholds (Pass.Short limit good) fun value => value.Short limit := by
  intro pass short
  have asked : (asking (answerFor scope name (findLocal pass.frames name))).Upholds
      (Pass.Short limit good) fun found => ∀ value ∈ found, value.Short limit := by
    refine upholds_asking fun {world store} fine kept => ?_
    cases known : findLocal pass.frames name with
    | none => exact supplies.lookup fine kept name
    | some value =>
      refine ⟨fine, kept, ?_⟩
      rintro _ ⟨⟩ _ ⟨⟩
      exact short_findLocal short.locals value known
  rw [Lockstep.lookup_apply]
  refine asked.bind (fun found each => upholds_settled fun value same => ?_) pass short
  cases found with
  | some known =>
    cases same
    exact each value rfl
  | none =>
    unfold Lockstep.foundOr at same
    split at same
    · cases same
      trivial
    · split at same <;> cases same
      trivial

theorem upholds_child (className id : String) :
    (child scope className id).Upholds (Pass.Short limit good) fun _ => True := by
  intro pass short
  rw [child_apply]
  split
  · have asked : (asking (scope.renderChild className id)).Upholds (Pass.Short limit good)
        fun _ => True := upholds_asking fun fine kept =>
      have ⟨world, store⟩ := supplies.child fine kept className id
      ⟨world, store, fun _ _ => trivial⟩
    refine asked.bind (fun _ _ pass short => ?_) pass short
    exact ⟨⟨short.world, short.store, short.locals⟩, fun _ _ => trivial⟩
  · exact ⟨short, fun _ _ => trivial⟩

theorem upholds_helper (name : String) {arguments : List Value}
    (each : ∀ value ∈ arguments, value.Short limit) :
    (helper scope name arguments).Upholds (Pass.Short limit good) fun _ => True := by
  have asked : (asking (scope.call name arguments)).Upholds (Pass.Short limit good) fun _ => True :=
    upholds_asking fun fine kept =>
      have ⟨world, store⟩ := supplies.call fine kept name each
      ⟨world, store, fun _ _ => trivial⟩
  refine asked.bind fun found _ pass short => ?_
  cases found <;> exact ⟨short, fun _ _ => trivial⟩

end

theorem upholds_allPairs (iterable : Value) :
    (allPairs iterable).Upholds (Pass.Short limit good) fun pairs =>
      ∀ pair ∈ pairs, pair.1.Short limit ∧ pair.2.Short limit := by
  intro pass short
  cases iterable with
  | nil => exact ⟨short, fun _ same => Except.ok.inj same ▸ nofun⟩
  | list list =>
    refine ⟨⟨short.world, short.store.inheritAll _ _, short.locals⟩, ?_⟩
    rintro _ ⟨⟩ pair member
    obtain ⟨item, inside, rfl⟩ := List.mem_map.mp member
    exact ⟨short.store.items list item.1 (List.fst_mem_of_mem_zipIdx inside), trivial⟩
  | map map =>
    refine ⟨⟨short.world, short.store.inheritAll _ _, short.locals⟩, ?_⟩
    rintro _ ⟨⟩ pair member
    obtain ⟨entry, inside, rfl⟩ := List.mem_map.mp member
    exact short.store.entries map inside
  | int number =>
    refine ⟨short, ?_⟩
    rintro _ ⟨⟩ pair member
    obtain ⟨index, _, rfl⟩ := List.mem_map.mp member
    exact ⟨trivial, trivial⟩
  | _ => exact ⟨short, nofun⟩

/-- **The steps of a rendering keep texts short.** -/
theorem upheld_short {scope : Scope σ} {config : Config}
    (supplies : scope.Supplies config.maxOutputLength good) :
    Upheld scope config (fun value => value.Short config.maxOutputLength)
      (Pass.Short config.maxOutputLength good) where
  newList each pass short := by
    refine ⟨⟨short.world, short.store.newList each, short.locals⟩, ?_⟩
    rintro _ ⟨⟩
    trivial
  field name fits := upholds_onStore fun kept =>
    have brief := brief_readField kept fits name
    ⟨brief.store, fun value same other => (brief.value other).short value same⟩
  index {_ place} fits := upholds_onStore fun kept =>
    have brief : Brief _ True _ := brief_readIndex kept fits place
    ⟨brief.store, (brief.value trivial).short⟩
  method name arguments fits := upholds_onStore fun kept =>
    have brief := brief_callMethod kept fits name arguments
    ⟨brief.store, fun value same other => (brief.value other).short value same⟩
  unary op value := upholds_settled (modest_unary op value).short
  binary op _ _ first second := upholds_onStore fun kept =>
    have brief : Brief _ True _ := brief_binary kept op first second
    ⟨brief.store, (brief.value trivial).short⟩
  lookup name := upholds_lookup supplies config name
  child className id := upholds_child supplies className id
  helper name _ each := upholds_helper supplies name each
  pairs {iterable} _ := upholds_allPairs iterable
  enter item second pair first other := by
    intro pass short
    have plain : ∀ held ∈ (OrderedMap.empty.insert item pair.1).values,
        held.Short config.maxOutputLength := short_insert nofun first
    refine ⟨⟨short.world, short.store, List.forall_mem_cons.mpr ⟨?_, short.locals⟩⟩, fun _ _ => trivial⟩
    cases second with
    | none => exact plain
    | some second => exact short_insert plain other
  leave pass short := ⟨⟨short.world, short.store, fun frame member =>
    short.locals frame (List.mem_of_mem_drop member)⟩, fun _ _ => trivial⟩
  bindLocal name value fits := by
    intro pass short
    rw [bind_eq]
    refine ⟨⟨short.world, short.store, ?_⟩, fun _ _ => trivial⟩
    have locals := short.locals
    generalize pass.frames = frames at locals
    cases frames with
    | nil => exact nofun
    | cons innermost outer =>
      have ⟨inner, rest⟩ := List.forall_mem_cons.mp locals
      exact List.forall_mem_cons.mpr ⟨short_insert inner fits, rest⟩

end Eval

/-! ### The first text that is too long -/

/-- Whether an entry notes a text that is longer than the limit. -/
def Entry.isOverlong (limit : Nat) (entry : Entry) : Bool :=
  match entry.event with
  | .value _ value => (value.asStr?.map String.utf8ByteSize).any (limit < ·)
  | _ => false

/-- An entry that notes a text which a method makes or `raw`. -/
def Entry.IsBuilt (entry : Entry) : Prop :=
  ∃ expr value, entry.event = .value expr value ∧ expr.buildsText = true

/-- An entry that notes the answer of a helper or a child. -/
def Entry.IsAnswer (entry : Entry) : Prop :=
  ∃ expr value, entry.event = .value expr value ∧ expr.asksScope = true

theorem isOverlong_value (index : Nat) (expr : Expr) (value : Value) :
    (⟨index, .value expr value⟩ : Entry).isOverlong limit = false ↔ value.Short limit := by
  cases value with
  | str text => simp [Entry.isOverlong, Value.asStr?, Value.Short]
  | _ => exact iff_of_true rfl trivial

/-- **The first text that is too long has a source, and until it comes all is short.** -/
structure Watched (limit : Nat) (good : σ → Prop) (post : α → Prop)
    (outcome : Except Error α × Pass σ × List Entry) : Prop where
  source : ∀ entry, outcome.2.2.find? (Entry.isOverlong limit) = some entry →
    entry.IsBuilt ∨ entry.IsAnswer
  calm : outcome.2.2.find? (Entry.isOverlong limit) = none →
    outcome.2.1.Short limit good ∧ ∀ value, outcome.1 = .ok value → post value

/-- A step that is watched from where all is short. -/
def Watching (limit : Nat) (good : σ → Prop) (post : α → Prop) (noted : Journaled σ α) : Prop :=
  ∀ pass, pass.Short limit good → Watched limit good post (noted pass)

namespace Watching

variable {post : α → Prop} {last : β → Prop} {run : Journaled σ α} {next : α → Journaled σ β}

theorem imp {weaker : α → Prop} (watching : Watching limit good post run)
    (implies : ∀ value, post value → weaker value) : Watching limit good weaker run :=
  fun pass short => ⟨(watching pass short).source, fun calm =>
    have ⟨after, ends⟩ := (watching pass short).calm calm
    ⟨after, fun value same => implies value (ends value same)⟩⟩

theorem bind (first : Watching limit good post run)
    (rest : ∀ value, post value → Watching limit good last (next value)) :
    Watching limit good last (run >>= next) := by
  intro pass short
  have here := first pass short
  rcases ran : run pass with ⟨error | value, reached, entries⟩
  · rw [ran] at here
    rw [Journaled.bind_of_error ran]
    exact ⟨here.source, fun calm => ⟨(here.calm calm).1, nofun⟩⟩
  · rw [ran] at here
    rw [Journaled.bind_of_ok ran]
    cases found : entries.find? (Entry.isOverlong limit) with
    | some culprit =>
      -- what comes after the first text that is too long does not matter
      have still : (entries ++ (next value reached).2.2).find? (Entry.isOverlong limit) =
          some culprit := by
        rw [List.find?_append, found, Option.some_or]
      exact ⟨fun entry same => here.source entry (found.trans (still.symm.trans same)),
        fun none => nomatch still.symm.trans none⟩
    | none =>
      have ⟨after, ends⟩ := here.calm found
      have there := rest value (ends value rfl) reached after
      have later : (entries ++ (next value reached).2.2).find? (Entry.isOverlong limit) =
          (next value reached).2.2.find? (Entry.isOverlong limit) := by
        rw [List.find?_append, found, Option.none_or]
      exact ⟨fun entry same => there.source entry (later.symm.trans same),
        fun none => there.calm (later.symm.trans none)⟩

theorem doing {step : Eval σ α} (upholds : step.Upholds (Pass.Short limit good) post) :
    Watching limit good post (Journaled.doing step) :=
  fun pass short => ⟨nofun, fun _ => upholds pass short⟩

theorem pure {value : α} (ends : post value) :
    Watching limit good post (Pure.pure value : Journaled σ α) :=
  .doing (.still fun _ same => Except.ok.inj same ▸ ends)

/-- A value that is noted is short, or it has a source. -/
theorem noted {index : Nat} {expr : Expr} {run : Journaled σ Value}
    (watching : Watching limit good
      (fun value => expr.buildsText = false → expr.asksScope = false → value.Short limit) run) :
    Watching limit good (fun value => value.Short limit) (Journaled.noted index expr run) := by
  refine watching.bind fun value known pass short => ?_
  change Watched limit good _ (.ok value, pass, [⟨index, .value expr value⟩])
  by_cases within : value.Short limit
  · have calm := (isOverlong_value index expr value).mpr within
    refine ⟨fun entry found => ?_, fun _ => ⟨short, fun _ same => Except.ok.inj same ▸ within⟩⟩
    rw [List.find?_singleton, calm] at found
    cases found
  · have beyond : (⟨index, .value expr value⟩ : Entry).isOverlong limit = true :=
      Bool.eq_true_of_not_eq_false fun calm => within ((isOverlong_value index expr value).mp calm)
    refine ⟨fun entry found => ?_, fun none => ?_⟩
    · rw [List.find?_singleton, beyond] at found
      cases found
      by_cases built : expr.buildsText = true
      · exact Or.inl ⟨expr, value, rfl, built⟩
      · refine Or.inr ⟨expr, value, rfl, Bool.eq_true_of_not_eq_false fun plain => within ?_⟩
        exact known (Bool.eq_false_of_not_eq_true built) plain
    · rw [List.find?_singleton, beyond] at none
      cases none

/-- A step that a limit is about does not touch what is known. -/
theorem checked {index : Nat} {within free : Eval σ Unit} {event : Event}
    (same : ∀ pass, (within pass).2.world = pass.world ∧ (within pass).2.store = pass.store ∧
      (within pass).2.frames = pass.frames) (calm : (⟨index, event⟩ : Entry).isOverlong limit = false) :
    Watching limit good (fun _ => True) (Journaled.checked .kept index within free event) := by
  have upholds : within.Upholds (Pass.Short limit good) fun _ => True := fun pass short =>
    have ⟨world, store, frames⟩ := same pass
    ⟨⟨world ▸ short.world, store ▸ short.store, frames ▸ short.locals⟩, fun _ _ => trivial⟩
  refine (doing upholds).bind fun _ _ pass short => ?_
  change Watched limit good _ (.ok (), pass, [⟨index, event⟩])
  refine ⟨fun entry found => ?_, fun _ => ⟨short, fun _ _ => trivial⟩⟩
  rw [List.find?_singleton, calm] at found
  cases found

end Watching

section

variable {scope : Scope σ} {config : Config} (supplies : scope.Supplies config.maxOutputLength good)

include supplies

/-- **Every node is watched**, if its literals are short. -/
theorem watching_node (index : Nat) {node : Node}
    (literals : ∀ literal ∈ node.literals, (Eval.literal literal).Short config.maxOutputLength) :
    Watching config.maxOutputLength good (fun _ => True)
      (Journaled.node .kept index config scope node) := by
  have law : Journaled.Law index scope config (fun value => value.Short config.maxOutputLength)
      (Pass.Short config.maxOutputLength good) (fun _ _ => True)
      fun post _ noted => Watching config.maxOutputLength good post (noted .kept) :=
    { upheld := Eval.upheld_short supplies
      doing := fun _ upholds => .doing upholds
      bind := fun first rest => first.bind rest
      imp := fun watching implies => watching.imp implies
      value := fun watching => watching.noted
      put := fun {_ piece} _ => .checked (fun pass => by
        rw [Eval.push_apply]
        split <;> exact ⟨rfl, rfl, rfl⟩) rfl
      count := .checked (fun pass => by
        rw [Eval.count_apply]
        split <;> exact ⟨rfl, rfl, rfl⟩) rfl }
  exact law.node node literals fun _ _ _ _ => trivial

theorem watching_runPart (index : Nat) (rendersChildren : Bool) {part : DynamicPart}
    (literals : ∀ literal ∈ part.node.literals, (Eval.literal literal).Short config.maxOutputLength) :
    Watching config.maxOutputLength good (fun _ => True)
      (Journaled.runPart .kept index config scope rendersChildren part) := by
  intro pass short
  have inside := watching_node supplies index literals (pass.openPart rendersChildren)
    ⟨short.world, short.store, short.locals⟩
  simp only [Journaled.runPart]
  refine ⟨by rw [closing_state]; exact inside.source, fun calm => ?_⟩
  rw [closing_state] at calm ⊢
  exact ⟨(inside.calm calm).1, fun _ _ => trivial⟩

/-- **All parts are watched**, if the literals of them all are short. -/
theorem watching_runParts (dense : Bool) (dirty : Dirty) (parts : List Part)
    (literals : ∀ part, .dynamic part ∈ parts → ∀ literal ∈ part.node.literals,
      (Eval.literal literal).Short config.maxOutputLength) (index : Nat) (dirtyLocals : NameSet) :
    Watching config.maxOutputLength good (fun _ => True)
      (Journaled.runParts .kept config scope dense dirty index dirtyLocals parts) := by
  induction parts generalizing index dirtyLocals with
  | nil => exact .pure trivial
  | cons first rest ih =>
    have later (dirtyLocals : NameSet) := ih (fun part member =>
      literals part (List.mem_cons_of_mem _ member)) (index + 1) dirtyLocals
    cases first with
    | fixed text => exact (later dirtyLocals).bind fun _ _ => .pure trivial
    | dynamic part =>
      have here (rendersChildren : Bool) := watching_runPart supplies index rendersChildren
        (literals part List.mem_cons_self)
      unfold Journaled.runParts
      split
      · exact (here true).bind fun _ _ => (later _).bind fun _ _ => .pure trivial
      · split
        · exact (later dirtyLocals).bind fun _ _ => .pure trivial
        · exact (here false).bind fun _ _ => (later dirtyLocals).bind fun _ _ => .pure trivial

end

/-! ### A rendering -/

/--
**The first text of a rendering that is too long is made by a method or by `raw`**, or a helper or a
child answers it: no operator makes it, no conversion of an operand, and no other method. If there is none,
no list, map or record holds a text that is too long, either. This goes for every template without too long
literals, and for every scope that supplies no too long text itself, whether or not the rendering succeeds.
-/
theorem source_of_overlong (template : Template) (dirty : Dirty) (view : ClientView) (scope : Scope σ)
    (config : Config) (world : σ) (store : Store)
    (supplies : scope.Supplies config.maxOutputLength good) (fine : good world)
    (short : store.Short config.maxOutputLength)
    (literals : ∀ part, .dynamic part ∈ template.parts → ∀ literal ∈ part.node.literals,
      (Eval.literal literal).Short config.maxOutputLength) :
    let entries := journal .kept template dirty view scope config world store
    (∀ entry, entries.find? (Entry.isOverlong config.maxOutputLength) = some entry →
      entry.IsBuilt ∨ entry.IsAnswer) ∧
    (entries.find? (Entry.isOverlong config.maxOutputLength) = none →
      (render template dirty view scope config world store).2.2.2.Short config.maxOutputLength) := by
  intro entries
  have watched := watching_runParts supplies (isDense template dirty view) dirty template.parts literals 0
    NameSet.empty (Pass.start world store) ⟨fine, short, fun frame member => by
      obtain rfl := List.mem_singleton.mp member
      exact nofun⟩
  refine ⟨watched.source, fun calm => ?_⟩
  rw [store_render]
  exact (watched.calm calm).1.store

/-- A text that is put together within the limit, and grows beyond it when parts of it are replaced. -/
theorem source_of_overlong_of_replace :
    let config := { Config.default with maxOutputLength := 10 }
    let scope := Scope.ofVariables (.ofList [("name", .str "anna")])
    ∃ template, Template.compile "Page" "default"
        "<%= (name + name).upcase().replace(\"A\", \"xyz\").len() %>" = .ok template ∧
      let entries := journal .kept template .all ClientView.empty scope config () Store.empty
      ∃ entry, entries.find? (Entry.isOverlong 10) = some entry ∧ (entry.IsBuilt ∨ entry.IsAnswer) := by
  intro config scope
  have checked : Template.isCompiledTo (Template.compile "Page" "default"
        "<%= (name + name).upcase().replace(\"A\", \"xyz\").len() %>") (fun template =>
      Template.everyPart (fun part => part.node.literals.all fun literal =>
        decide ((Eval.literal literal).Short 10)) template.parts &&
      ((journal .kept template .all ClientView.empty scope config () Store.empty).find?
        (Entry.isOverlong 10)).isSome) = true := by decide +kernel
  obtain ⟨template, compiled, passes⟩ := Template.exists_of_isCompiledTo checked
  obtain ⟨literals, found⟩ := Bool.and_eq_true_iff.mp passes
  obtain ⟨entry, found⟩ := Option.isSome_iff_exists.mp found
  have supplies : scope.Supplies 10 fun _ => True := Scope.supplies_ofVariables (by decide)
  have source := source_of_overlong template .all ClientView.empty scope config () Store.empty supplies
    trivial Store.short_empty fun part member literal there =>
      of_decide_eq_true (List.all_eq_true.mp (Template.check_of_everyPart literals member) literal there)
  exact ⟨template, compiled, entry, found, source.1 entry found⟩

/--
**A template can make a text that is longer than the limit.** The scope supplies nothing, no literal has
more than four bytes, and an operator would refuse a text of more than ten: a method makes one of sixteen,
and the rendering succeeds.
-/
theorem overlong_of_replace :
    let config := { Config.default with maxOutputLength := 10 }
    let scope := Scope.ofVariables .empty
    ∃ template, Template.compile "Page" "default" "<%= \"aaaa\".replace(\"a\", \"bbbb\").len() %>" =
        .ok template ∧
      (∀ part, Part.dynamic part ∈ template.parts → ∀ literal ∈ part.node.literals,
        (Eval.literal literal).Short 4) ∧
      (∃ entry ∈ journal .kept template .all ClientView.empty scope config () Store.empty,
        entry.isOverlong 10 = true) ∧
      ∃ rendered, (render template .all ClientView.empty scope config () Store.empty).1 = .ok rendered ∧
        rendered.markup = [some "16"] := by
  intro config scope
  have checked : Template.isCompiledTo (Template.compile "Page" "default"
        "<%= \"aaaa\".replace(\"a\", \"bbbb\").len() %>") (fun template =>
      Template.everyPart (fun part => part.node.literals.all fun literal =>
        decide ((Eval.literal literal).Short 4)) template.parts &&
      (journal .kept template .all ClientView.empty scope config () Store.empty).any
        (Entry.isOverlong 10) &&
      (render template .all ClientView.empty scope config () Store.empty).1.toOption.any
        fun rendered => rendered.markup == [some "16"]) = true := by decide +kernel
  obtain ⟨template, compiled, passes⟩ := Template.exists_of_isCompiledTo checked
  obtain ⟨⟨literals, found⟩, shown⟩ := (Bool.and_eq_true_iff.mp passes).imp_left Bool.and_eq_true_iff.mp
  refine ⟨template, compiled, fun part member literal there => ?_, List.any_eq_true.mp found, ?_⟩
  · exact of_decide_eq_true
      (List.all_eq_true.mp (Template.check_of_everyPart literals member) literal there)
  · rcases ran : (render template .all ClientView.empty scope config () Store.empty).1 with _ | rendered
    · rw [ran] at shown
      cases shown
    · rw [ran] at shown
      exact ⟨rendered, rfl, beq_iff_eq.mp shown⟩

end Render

end ReactiveView
