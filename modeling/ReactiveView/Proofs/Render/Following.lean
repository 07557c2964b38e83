/-
**A client that puts in what it gets has what the server thinks it has.**

The client keeps an array. Whenever it gets a rendering, it makes the array as long as this is, and
puts in the markup that there is; whether the rendering was dense it does not know. The server keeps
its own view of the client, and the two never differ.

* `Update` — what is done to a view: it is rendered for, with or without success, or invalidated.
* `Update.copy` — the array of the client.
* `Update.passed` — the ids with which a part of a rendering calls for children.
* `Update.shown` — the ids of the calls that the last markup of each part was made with.
* `Update.copy_eq_fragments` — the client and the server agree, after every update.
-/

import ReactiveView.Proofs.Render.Sparse
import ReactiveView.Proofs.Render.Tags

namespace ReactiveView

/-- A template that ends after some parts. -/
def Template.upTo (template : Template) (count : Nat) : Template :=
  { template with parts := template.parts.take count }

/-! ### What is put in where there is something new -/

section

variable {α : Type}

/-- An array that is made as long as what has come, with what is new put in. -/
def overwritten (absent : α) (old : List α) (new : List (Option α)) : List α :=
  new.zipIdx.map fun entry => entry.1.getD (old[entry.2]?.getD absent)

theorem getElem?_overwritten (absent : α) (old : List α) (new : List (Option α)) (index : Nat) :
    (overwritten absent old new)[index]? =
      new[index]?.map fun entry => entry.getD (old[index]?.getD absent) := by
  rw [overwritten, List.getElem?_map, List.getElem?_zipIdx, Option.map_map, Nat.zero_add]
  rfl

theorem overwritten_of_full (absent : α) (old new : List α) :
    overwritten absent old (new.map some) = new := by
  refine List.ext_getElem? fun index => ?_
  rw [getElem?_overwritten, List.getElem?_map, Option.map_map]
  exact Option.map_id_apply

/-- A sparse rendering puts in what is new. -/
theorem overlay_eq_overwritten {β : Type} (absent : α) (fresh : β → Option α) (olds : List α)
    (slots : List β) :
    ClientView.overlay absent fresh olds slots = overwritten absent olds (slots.map fresh) := by
  refine List.ext_getElem? fun index => ?_
  rw [getElem?_overwritten, List.getElem?_map, Option.map_map]
  cases there : slots[index]? with
  | none =>
    have short := List.getElem?_eq_none_iff.mp there
    exact List.getElem?_eq_none_iff.mpr (by rwa [ClientView.length_overlay])
  | some slot =>
    cases changed : fresh slot with
    | none =>
      rw [ClientView.getElem?_overlay_of_none _ _ _ _ there changed]
      simp [changed]
    | some new =>
      rw [ClientView.getElem?_overlay_of_some _ _ _ _ there changed]
      simp [changed]

end

namespace Render

variable {σ : Type} {scope : Scope σ} {config : Config} {dense : Bool} {dirty : Dirty}

/-! ### The first parts of a template -/

/-- The first parts bring the first slots, whatever comes behind. -/
theorem slots_take {parts : List Part} {index : Nat} {dirtyLocals : NameSet} {pass : Pass σ}
    {all : List Slot}
    (ok : slots scope config dense dirty index dirtyLocals parts pass = .ok all) (count : Nat) :
    slots scope config dense dirty index dirtyLocals (parts.take count) pass =
      .ok (all.take count) := by
  induction parts generalizing index dirtyLocals pass all count with
  | nil =>
    cases ok
    rw [List.take_nil, List.take_nil]
    rfl
  | cons part rest ih =>
    cases count with
    | zero => rfl
    | succ count =>
      rw [List.take_succ_cons]
      cases part with
      | fixed text =>
        rw [slots_fixed] at ok ⊢
        obtain ⟨others, brought, rfl⟩ := exists_of_map_ok ok
        rw [ih brought count]
        rfl
      | dynamic part =>
        cases affected : isAffected dense dirty dirtyLocals part with
        | true =>
          obtain ⟨after, others, ran, brought, rfl⟩ := exists_of_rendered affected ok
          rw [slots_rendered affected ran, ih brought count]
          rfl
        | false =>
          cases kind : part.kind with
          | expression =>
            obtain ⟨others, brought, rfl⟩ := exists_of_skipped affected kind ok
            rw [slots_skipped affected kind, ih brought count]
            rfl
          | block =>
            obtain ⟨after, others, ran, brought, rfl⟩ := exists_of_silent affected kind ok
            rw [slots_silent affected kind ran, ih brought count]
            rfl

/-- What a part brings: nothing, markup with the children that it shows, or fixed text, which is brought
by a dense rendering alone. -/
theorem slot_cases {parts : List Part} {index : Nat} {dirtyLocals : NameSet} {pass : Pass σ}
    {all : List Slot}
    (ok : slots scope config dense dirty index dirtyLocals parts pass = .ok all) :
    ∀ slot ∈ all, (slot = noSlot ∧ dense = false) ∨
      (∃ html ids, slot = ⟨some html, some ids⟩) ∨ (∃ text, slot = ⟨some text, none⟩ ∧ dense = true) := by
  induction parts generalizing index dirtyLocals pass all with
  | nil =>
    cases ok
    exact fun _ => nofun
  | cons part rest ih =>
    cases part with
    | fixed text =>
      rw [slots_fixed] at ok
      obtain ⟨others, brought, rfl⟩ := exists_of_map_ok ok
      refine List.forall_mem_cons.mpr ⟨?_, ih brought⟩
      cases dense with
      | true => exact Or.inr (Or.inr ⟨text, rfl, rfl⟩)
      | false => exact Or.inl ⟨rfl, rfl⟩
    | dynamic part =>
      cases affected : isAffected dense dirty dirtyLocals part with
      | true =>
        obtain ⟨after, others, _, brought, rfl⟩ := exists_of_rendered affected ok
        exact List.forall_mem_cons.mpr ⟨Or.inr (Or.inl ⟨_, _, rfl⟩), ih brought⟩
      | false =>
        have sparse : dense = false := (Bool.or_eq_false_iff.mp affected).1
        cases kind : part.kind with
        | expression =>
          obtain ⟨others, brought, rfl⟩ := exists_of_skipped affected kind ok
          exact List.forall_mem_cons.mpr ⟨Or.inl ⟨rfl, sparse⟩, ih brought⟩
        | block =>
          obtain ⟨after, others, _, brought, rfl⟩ := exists_of_silent affected kind ok
          exact List.forall_mem_cons.mpr ⟨Or.inl ⟨rfl, sparse⟩, ih brought⟩

/-! ### The calls of one part -/

/-- **The ids with which one part calls for children**: those of the calls that are made up to the part,
without those that are made before it. -/
def passed (template : Template) (dirty : Dirty) (view : ClientView) (scope : Scope σ) (config : Config)
    (world : σ) (store : Store) (index : Nat) : List String :=
  ((calls (template.upTo (index + 1)) dirty view scope config world store).drop
    (calls (template.upTo index) dirty view scope config world store).length).map Scope.Call.id

variable {template : Template} {view : ClientView} {world : σ} {store : Store} {rendered : Rendered}

/-- The calls that are made up to a part are for the children that are shown up to the part. -/
theorem map_id_calls_upTo
    (ran : (render template dirty view scope config world store).1 = .ok rendered) (count : Nat) :
    (calls (template.upTo count) dirty view scope config world store).map Scope.Call.id =
      childrenOf (rendered.slots.take count) := by
  have first := slots_take (slots_of_render ran).1 count
  rcases render_eq (template.upTo count) dirty view scope config world store with
    ⟨error, failed, _⟩ | ⟨front, brings, _, succeeded, _⟩
  · cases failed.symm.trans first
  · rcases whole : render (template.upTo count) dirty view scope config world store with
      ⟨result, after, reached, stored⟩
    rw [whole] at succeeded
    cases succeeded
    rw [← (noted_render whole).named, Except.ok.inj (brings.symm.trans first)]

/-- **A part calls for the children that its slot names.** -/
theorem passed_eq (ran : (render template dirty view scope config world store).1 = .ok rendered)
    {index : Nat} {slot : Slot} (there : rendered.slots[index]? = some slot) :
    passed template dirty view scope config world store index = slot.children.getD [] := by
  have before := map_id_calls_upTo ran index
  have upTo := map_id_calls_upTo ran (index + 1)
  have length : (calls (template.upTo index) dirty view scope config world store).length =
      (childrenOf (rendered.slots.take index)).length := by
    rw [← before, List.length_map]
  have split : childrenOf (rendered.slots.take (index + 1)) =
      childrenOf (rendered.slots.take index) ++ slot.children.getD [] := by
    rw [List.take_add_one, there, childrenOf, List.flatMap_append]
    simp [childrenOf]
  rw [passed, List.map_drop, upTo, split, length, List.drop_left]

/-- **A rendering that succeeds is put into the view**: its markup, and the ids of the calls that this was
made with. -/
theorem view_eq_overwritten
    (ran : (render template dirty view scope config world store).1 = .ok rendered) :
    (render template dirty view scope config world store).2.1.fragments =
        overwritten none view.fragments (rendered.markup.map (Option.map some)) ∧
      (render template dirty view scope config world store).2.1.children =
        overwritten [] view.children (rendered.markup.zipIdx.map fun slot =>
          slot.1.map fun _ => passed template dirty view scope config world store slot.2) := by
  obtain ⟨brought, dense, committed⟩ := slots_of_render ran
  have cases := slot_cases brought
  have called : (rendered.markup.zipIdx.map fun slot =>
        slot.1.map fun _ => passed template dirty view scope config world store slot.2) =
      rendered.slots.map fun slot => slot.html.map fun _ => slot.children.getD [] := by
    refine List.ext_getElem? fun index => ?_
    rw [List.getElem?_map, List.getElem?_zipIdx, Rendered.markup, List.getElem?_map,
      List.getElem?_map]
    cases there : rendered.slots[index]? with
    | none => rfl
    | some slot => simp [passed_eq ran there]
  rw [called, committed, Rendered.markup, List.map_map]
  rw [← dense] at cases
  unfold ClientView.commit
  split
  · next full =>
    constructor
    · refine (overwritten_of_full none view.fragments rendered.markup).symm.trans (congrArg _ ?_)
      rw [Rendered.markup, List.map_map]
      refine List.map_congr_left fun slot member => ?_
      rcases cases slot member with ⟨_, thin⟩ | ⟨html, ids, rfl⟩ | ⟨text, rfl, _⟩
      · rw [full] at thin
        cases thin
      · rfl
      · rfl
    · refine (overwritten_of_full [] view.children _).symm.trans (congrArg _ ?_)
      rw [List.map_map]
      refine List.map_congr_left fun slot member => ?_
      rcases cases slot member with ⟨_, thin⟩ | ⟨html, ids, rfl⟩ | ⟨text, rfl, _⟩
      · rw [full] at thin
        cases thin
      · rfl
      · rfl
  · next thin =>
    refine ⟨overlay_eq_overwritten none _ _ _, (overlay_eq_overwritten [] _ _ _).trans ?_⟩
    refine congrArg _ (List.map_congr_left fun slot member => ?_)
    rcases cases slot member with ⟨rfl, _⟩ | ⟨html, ids, rfl⟩ | ⟨text, _, full⟩
    · rfl
    · rfl
    · exact absurd full thin

end Render

/-! ### Updates -/

/-- What is done to a view: it is rendered for, in any surroundings, or invalidated. -/
inductive Update : Type 1 where
  | render {σ : Type} (template : Template) (dirty : Dirty) (scope : Scope σ) (config : Config)
    (world : σ) (store : Store)
  | invalidate

namespace Update

/-- The view after an update. -/
def view : Update → ClientView → ClientView
  | .render template dirty scope config world store, view =>
    (Render.render template dirty view scope config world store).2.1
  | .invalidate, view => view.invalidate

/-- What an update sends, if it is a rendering that succeeds. -/
def sent? : Update → ClientView → Option (List (Option String))
  | .render template dirty scope config world store, view =>
    (Render.render template dirty view scope config world store).1.toOption.map Rendered.markup
  | .invalidate, _ => none

/-- The ids with which a part calls for children. -/
def passed : Update → ClientView → Nat → List String
  | .render template dirty scope config world store, view, index =>
    Render.passed template dirty view scope config world store index
  | .invalidate, _, _ => []

/-- The view that some updates lead to, the last first. -/
def viewOf : List Update → ClientView
  | [] => ClientView.empty
  | update :: earlier => update.view (viewOf earlier)

/-- **The array of the client**: what has come is put in. -/
def copy : List Update → List (Option String)
  | [] => []
  | update :: earlier =>
    match update.sent? (viewOf earlier) with
    | some slots => overwritten none (copy earlier) (slots.map (Option.map some))
    | none => copy earlier

/-- **The ids with which the last markup of each part called for children.** -/
def shown : List Update → List (List String)
  | [] => []
  | update :: earlier =>
    match update.sent? (viewOf earlier) with
    | some slots => overwritten [] (shown earlier) <|
        slots.zipIdx.map fun slot => slot.1.map fun _ => update.passed (viewOf earlier) slot.2
    | none => shown earlier

/-- What comes of an update: nothing is sent, or the view and the client put in the same. -/
theorem view_cases (update : Update) (view : ClientView) :
    (update.sent? view = none ∧ (update.view view).fragments = view.fragments ∧
      (update.view view).children = view.children) ∨
    ∃ slots, update.sent? view = some slots ∧
      (update.view view).fragments =
        overwritten none view.fragments (slots.map (Option.map some)) ∧
      (update.view view).children = overwritten [] view.children
        (slots.zipIdx.map fun slot => slot.1.map fun _ => update.passed view slot.2) := by
  cases update with
  | invalidate => exact Or.inl ⟨rfl, rfl, rfl⟩
  | render template dirty scope config world store =>
    rcases Render.render_eq template dirty view scope config world store with
      ⟨error, _, failed, same⟩ | ⟨rendered, _, _, succeeded, _⟩
    · refine Or.inl ⟨by rw [sent?, failed]; rfl, ?_⟩
      rw [Update.view, same]
      exact ⟨rfl, rfl⟩
    · obtain ⟨fragments, children⟩ := Render.view_eq_overwritten succeeded
      exact Or.inr ⟨rendered.markup, by rw [sent?, succeeded]; rfl, fragments, children⟩

theorem copy_eq (updates : List Update) : copy updates = (viewOf updates).fragments := by
  induction updates with
  | nil => rfl
  | cons update earlier ih =>
    rw [copy, viewOf]
    rcases view_cases update (viewOf earlier) with ⟨unsent, fragments, _⟩ | ⟨slots, sent, fragments, _⟩
    · rw [unsent, fragments]
      exact ih
    · rw [sent, fragments, ← ih]

theorem shown_eq (updates : List Update) : shown updates = (viewOf updates).children := by
  induction updates with
  | nil => rfl
  | cons update earlier ih =>
    rw [shown, viewOf]
    rcases view_cases update (viewOf earlier) with
      ⟨unsent, _, children⟩ | ⟨slots, sent, _, children⟩
    · rw [unsent, children]
      exact ih
    · rw [sent, children, ← ih]

/-- The template that an update renders. -/
def template? : Update → Option Template
  | .render template .. => some template
  | .invalidate => none

/-- **Some updates render templates of distinct variants.** -/
def Distinct (updates : List Update) : Prop :=
  ∀ first ∈ updates.filterMap template?, ∀ second ∈ updates.filterMap template?,
    first.variant = second.variant → first = second

/-- The client has markup for each part of the template that the view is of. -/
structure Complete (updates : List Update) (view : ClientView) : Prop where
  filled : none ∉ view.fragments
  length : ∀ variant, view.variant = some variant → ∃ template ∈ updates.filterMap template?,
    template.variant = variant ∧ view.fragments.length = template.parts.length

theorem complete_viewOf {updates : List Update} (distinct : Distinct updates) :
    Complete updates (viewOf updates) := by
  induction updates with
  | nil => exact ⟨by simp [viewOf, ClientView.empty], by simp [viewOf, ClientView.empty]⟩
  | cons update earlier ih =>
    have there {template : Template} (member : template ∈ earlier.filterMap template?) :
        template ∈ (update :: earlier).filterMap template? := by
      rw [List.filterMap_cons]
      split
      · exact member
      · exact List.mem_cons_of_mem _ member
    obtain ⟨filled, length⟩ := ih fun first member second other same =>
      distinct first (there member) second (there other) same
    have kept (view : ClientView) (fragments : view.fragments = (viewOf earlier).fragments)
        (variant : view.variant = (viewOf earlier).variant) : Complete (update :: earlier) view := by
      refine ⟨fragments ▸ filled, fun other same => ?_⟩
      obtain ⟨template, member, named, long⟩ := length other (variant ▸ same)
      exact ⟨template, there member, named, fragments ▸ long⟩
    cases update with
    | invalidate => exact kept _ rfl rfl
    | render template dirty scope config world store =>
      have own : template ∈ (render template dirty scope config world store :: earlier).filterMap
          template? := List.mem_cons_self
      rcases ran : Render.render template dirty (viewOf earlier) scope config world store with
        ⟨error | rendered, view, reached, stored⟩
      · have same : viewOf (render template dirty scope config world store :: earlier) =
            viewOf earlier := by
          rcases Render.render_eq template dirty (viewOf earlier) scope config world store with
            ⟨_, _, _, same⟩ | ⟨_, _, _, succeeded, _⟩
          · exact same
          · rw [ran] at succeeded
            cases succeeded
        exact kept _ (congrArg _ same) (congrArg _ same)
      · obtain ⟨variant, _, long, slots⟩ := Render.view_of_render ran
        have put := (Render.view_eq_overwritten (congrArg Prod.fst ran)).1
        change Complete _ (Render.render template dirty (viewOf earlier) scope config world store).2.1
        rw [ran] at put ⊢
        refine ⟨fun member => ?_, fun other same => ?_⟩
        · obtain ⟨index, bare⟩ := List.getElem?_of_mem member
          rw [put, getElem?_overwritten, Option.map_eq_some_iff] at bare
          obtain ⟨entry, brought, bare⟩ := bare
          rw [List.getElem?_map, Option.map_eq_some_iff] at brought
          obtain ⟨slot, new, rfl⟩ := brought
          cases slot with
          | some html => cases bare
          | none =>
            -- the client has had the template, so it has had markup for the part
            have thin := Render.dense_of_full ran (List.mem_of_getElem? new)
            obtain ⟨held, known, same, size⟩ := length _ (Render.sent_of_thin ran thin).2
            cases distinct held (there known) template own same
            have bound : index < (viewOf earlier).fragments.length := by
              rw [size, ← slots, ← List.length_map Slot.html]
              exact (List.getElem?_eq_some_iff.mp new).1
            rw [Option.map_none, Option.getD_none, List.getElem?_eq_getElem bound,
              Option.getD_some] at bare
            exact filled (bare ▸ List.getElem_mem bound)
        · rw [variant] at same
          exact ⟨template, own, Option.some.inj same, long⟩

/-- **The client has what the server thinks it has**: after all updates, the array of the client is the
one of the view, all of it is filled, and the children that the view counts as shown are those for which
the last markup of each part called; and an update that fails leaves the view as it was. -/
theorem copy_eq_fragments (updates : List Update) (distinct : Distinct updates) :
    copy updates = (viewOf updates).fragments ∧ none ∉ copy updates ∧
      (∀ id, id ∈ (viewOf updates).liveChildren ↔ ∃ ids ∈ shown updates, id ∈ ids) ∧
      ∀ (σ : Type) (template : Template) (dirty : Dirty) (scope : Scope σ) (config : Config) (world : σ)
        (store : Store) (error : Error),
        (Render.render template dirty (viewOf updates) scope config world store).1 = .error error →
        viewOf (.render template dirty scope config world store :: updates) = viewOf updates := by
  have same := copy_eq updates
  refine ⟨same, same ▸ (complete_viewOf distinct).filled, fun id => ?_, ?_⟩
  · rw [shown_eq, ClientView.liveChildren, NameSet.mem_ofList, List.mem_flatten]
  · intro σ template dirty scope config world store error failed
    rcases Render.render_eq template dirty (viewOf updates) scope config world store with
      ⟨_, _, _, same⟩ | ⟨_, _, _, succeeded, _⟩
    · exact same
    · cases failed.symm.trans succeeded

/-- A list is rendered, one of its rows changes, it is closed, and what the client has of it is lost; then
a rendering fails, as nothing has a name, and the list is rendered again. -/
def reopening (opened closed : Template) : List Update :=
  let render (template : Template) (names : List String) (values : List (String × Value)) : Update :=
    .render template (.names (NameSet.ofList names))
      (Render.withChildren (OrderedMap.ofList values)) Config.default () Store.empty
  [render opened ["row"] [("title", .int 3), ("row", .str "c")], render opened ["row"] [], .invalidate,
    render closed ["title"] [("title", .int 2)],
    render opened ["row"] [("title", .int 1), ("row", .str "b")],
    render opened [] [("title", .int 1), ("row", .str "a")]]

theorem copy_eq_fragments_of_reopening : ∃ opened closed,
    Template.compile "List" "open" "<p><%= title %></p><%= child(\"Row\", row) %>" = .ok opened ∧
    Template.compile "List" "closed" "<p><%= title %></p>" = .ok closed ∧
    Distinct (reopening opened closed) ∧
    copy (reopening opened closed) =
      [some "<p>", some "3", some "</p>", some "<Row id=c/>"] ∧
    ∀ id, id ∈ (viewOf (reopening opened closed)).liveChildren ↔
      ∃ ids ∈ shown (reopening opened closed), id ∈ ids := by
  have checked : Template.isCompiledTo
      (Template.compile "List" "open" "<p><%= title %></p><%= child(\"Row\", row) %>") (fun opened =>
      Template.isCompiledTo (Template.compile "List" "closed" "<p><%= title %></p>") fun closed =>
        decide (opened.variant = "open") && decide (closed.variant = "closed") &&
        decide (copy (reopening opened closed) =
          [some "<p>", some "3", some "</p>", some "<Row id=c/>"])) = true := by
    decide +kernel
  obtain ⟨opened, first, passes⟩ := Template.exists_of_isCompiledTo checked
  obtain ⟨closed, second, passes⟩ := Template.exists_of_isCompiledTo passes
  simp only [Bool.and_eq_true, decide_eq_true_eq] at passes
  obtain ⟨⟨wide, narrow⟩, copied⟩ := passes
  have either (template : Template)
      (member : template ∈ (reopening opened closed).filterMap template?) :
      template = opened ∨ template = closed := by
    simp only [reopening, template?, List.filterMap_cons, List.filterMap_nil, List.mem_cons,
      List.not_mem_nil, or_false] at member
    tauto
  have apart : opened.variant ≠ closed.variant := by
    rw [wide, narrow]
    decide
  have distinct : Distinct (reopening opened closed) := by
    intro template member other among same
    rcases either template member with rfl | rfl <;> rcases either other among with rfl | rfl
    · rfl
    · exact absurd same apart
    · exact absurd same.symm apart
    · rfl
  exact ⟨opened, closed, first, second, distinct, copied, (copy_eq_fragments _ distinct).2.2.1⟩

end Update

end ReactiveView
