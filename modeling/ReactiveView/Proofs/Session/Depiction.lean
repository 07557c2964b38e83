/-
**What the client has of a component, as a rendering of values of the past.**

What was rendered last is what a dense rendering brings from the values that there were then. These
are remembered in the store that there was then, and paired with the values of now, except for names
that changed meanwhile. Reading, making defaults and writing leave such a picture standing, as long as
what is written to is part of excepted names only; and a rendering for the excepted names makes it a
picture of the values of now.

* `Depiction`, `Instance.Depicted` — the picture that the client has of a component.
* `Instance.Depicted.change`, `.cache`, `.write` — what may happen meanwhile.
* `Instance.Depicted.of_render` — after a rendering nothing is excepted.
* `Instance.Depicted.render_eq` — then a dense rendering would bring what the client has.
-/

import ReactiveView.Proofs.Component.CatchingUp
import ReactiveView.Proofs.Render.Incremental
import ReactiveView.Proofs.Session.Runs

namespace ReactiveView

open Render Variables

variable {definition : ComponentDef} {owner : Owner} {identity : OrderedMap String Value}

/-! ### Renderings of known variables -/

/-- Scopes that agree on everything bring the same. -/
theorem render_eq_of_agree {σ τ : Type} {left : Scope σ} {right : Scope τ} {l : σ × Store}
    {r : τ × Store} (agree : Scope.AgreeExcept NameSet.empty left l right r) {template : Template}
    (childless : ∀ part, Part.dynamic part ∈ template.parts → "child" ∉ part.node.calls)
    (dirty : Dirty) (view : ClientView) (config : Config) :
    (render template dirty view left config l.1 l.2).1 =
      (render template dirty view right config r.1 r.2).1 := by
  obtain ⟨Alike, pairing, agreement, alike⟩ := agree
  have met (name : String) : (Scope.Agreement.lockstep (· ∉ NameSet.empty)
      (fun name => name ≠ "child" ∧ Template.componentName ∉ NameSet.empty) Alike).Met pairing name
        none none := ⟨.none, fun _ => NameSet.not_mem_empty⟩
  exact (Lockstep.alike_render agreement.lawful config (fun part member name called =>
    ⟨ne_of_mem_of_not_mem called (childless part member), NameSet.not_mem_empty⟩) dirty view alike
    met).1

section

variable {known : String → Option Value} {store after : Store}

theorem rel_of_finite (finite : ∀ {name value}, definition.declares name = true →
      known name = some value → value.Finite store) {name : String}
    (declared : definition.declares name = true) :
    Option.Rel (Value.Paired (Pairing.self store)) (known name) (known name) := by
  cases has : known name with
  | none => exact .none
  | some value => exact .some (finite declared has).paired

theorem paired_of_finite (finite : ∀ value ∈ identity.values, value.Finite store) :
    identity.Paired (Pairing.self store) identity :=
  List.forall₂_same.mpr fun entry member =>
    ⟨rfl, (finite entry.2 (List.mem_map_of_mem member)).paired⟩

theorem OrderedMap.Paired.finiteLeft {pairing : Pairing} {left right : Store}
    {first second : OrderedMap String Value} (all : first.Paired pairing second)
    (paired : Store.Paired pairing left right) : ∀ value ∈ first.values, value.Finite left := by
  intro value member
  obtain ⟨_, same⟩ := exists_of_mem_left all.values member
  exact same.finiteLeft paired

/-- Known variables are known as well where the store has gone on. -/
theorem agree_of_extends (steady : definition.Steady)
    (finite : ∀ {name value}, definition.declares name = true → known name = some value →
      value.Finite store) (identities : ∀ value ∈ identity.values, value.Finite store)
    (lasts : store.Extends after) :
    Scope.AgreeExcept NameSet.empty (Scope.ofKnown definition owner identity known) ((), after)
      (Scope.ofKnown definition owner identity known) ((), store) :=
  Scope.agreeExcept_ofKnown steady.toFaithful (Store.Paired.self lasts) (paired_of_finite identities)
    (fun _ declared _ => rel_of_finite finite declared) (fun _ _ => NameSet.not_mem_empty)
    fun _ _ _ => NameSet.not_mem_empty

end

/-! ### The picture -/

/-- What is seen alike of two components. -/
theorem Instance.parts_of_face {component other : Instance} (same : other.face = component.face) :
    other.id = component.id ∧ other.definition = component.definition ∧
      other.view = component.view := by
  simpa [face] using same

/-- **What the client has of a component**, as the rendering of some values of the past. -/
structure Depiction (component : Instance) (identity : OrderedMap String Value) (config : Config)
    (reached : Variables) (store : Store) (except : String → Prop) (template : Template)
    (past : String → Option Value) (kept : Store) (pairing : Pairing) (rendered : Rendered) :
    Prop where
  found : component.definition.template template.variant = .ok template
  variant : component.view.variant = some template.variant
  current : component.variant = template.variant ∨ except Template.componentName
  fragments : component.view.fragments = rendered.markup
  seen : (render template .all ClientView.empty
    (Scope.ofKnown component.definition component.owner identity past) config () kept).1 =
      .ok rendered
  finite : ∀ {name value}, component.definition.declares name = true → past name = some value →
    value.Finite kept
  paired : Store.Paired pairing kept store
  identities : identity.Paired pairing identity
  values : ∀ {name}, component.definition.declares name = true → ¬ except name →
    Option.Rel (Value.Paired pairing) (past name) (known component.definition reached name)

namespace Instance

/-- **A component of which the client has a picture**, true but for some names. -/
def Depicted (component : Instance) (identity : OrderedMap String Value) (config : Config)
    (reached : Variables) (store : Store) (except : String → Prop) : Prop :=
  ∃ template past kept pairing rendered,
    Depiction component identity config reached store except template past kept pairing rendered

namespace Depicted

variable {component other : Instance} {config : Config} {reached next : Variables}
  {store after : Store} {except more : String → Prop}

/-! ### What may happen meanwhile -/

/-- **What changes is excepted.** -/
theorem change (depicted : component.Depicted identity config reached store except)
    (same' : other.face = component.face)
    (variant : other.variant = component.variant ∨ more Template.componentName)
    (lasts : store.Extends after) (grows : ∀ name, except name → more name)
    (same : ∀ name, component.definition.declares name = true → ¬ more name →
      known component.definition next name = known component.definition reached name) :
    other.Depicted identity config next after more := by
  obtain ⟨template, past, kept, pairing, rendered, depiction⟩ := depicted
  obtain ⟨id, definition, view⟩ := parts_of_face same'
  have owner : other.owner = component.owner := by simp only [Instance.owner, id, definition]
  refine ⟨template, past, kept, pairing, rendered, ?_⟩
  exact {
    found := definition ▸ depiction.found
    variant := view ▸ depiction.variant
    current := by
      rcases variant with same | excepted
      · exact depiction.current.imp same.trans (grows _)
      · exact Or.inr excepted
    fragments := view ▸ depiction.fragments
    seen := by rw [definition, owner]; exact depiction.seen
    finite := by rw [definition]; exact depiction.finite
    paired := depiction.paired.extend (.refl _) lasts
    identities := depiction.identities
    values := by
      intro name declared true'
      rw [definition] at declared ⊢
      rw [same name declared true']
      exact depiction.values declared fun excepted => true' (grows name excepted) }

/-- **A variable is given a default**, which might have been made when the picture was. -/
theorem cache (steady : component.definition.Steady)
    (depicted : component.Depicted identity config reached store except)
    {default : VarDefault} (determined : default.Determined) {name : String} {maker : Owner}
    {value : Value} {stage : Store} (made : default.compute name maker store = (.ok value, stage))
    (lasts : stage.Extends after) (face : other.face = component.face)
    (variant : other.variant = component.variant)
    (values : ∀ asked, component.definition.declares asked = true →
      known component.definition next asked = known component.definition reached asked ∨
        (asked = name ∧ known component.definition reached asked = none ∧
          known component.definition next asked = some value)) :
    other.Depicted identity config next after except := by
  obtain ⟨template, past, kept, pairing, rendered, depiction⟩ := depicted
  obtain ⟨fresh, replayed, _, stored, _, replays, again, advance, same⟩ :=
    determined name maker kept store
  rw [made] at again
  cases again
  have joined := (depiction.paired.extend advance.growsLeft.extends (.refl store)).join advance
    (.refl _) fun refs above => absurd (depiction.paired.finiteLeft refs).inside above.not_gt
  by_cases new : component.definition.declares name = true ∧ ¬ except name ∧
      known component.definition reached name = none ∧
      known component.definition next name = some value
  · obtain ⟨declared, true', lacks, has⟩ := new
    have absent : past name = none := by
      have rel := depiction.values declared true'
      rw [lacks] at rel
      cases rel' : past name with
      | none => rfl
      | some _ => rw [rel'] at rel; cases rel
    let later : String → Option Value := fun asked => if asked = name then some replayed else past asked
    have le (asked : String) (held : Value) (has : past asked = some held) :
        later asked = some held := by
      refine (if_neg fun same => ?_).trans has
      rw [same, absent] at has
      cases has
    have seen : (render template .all ClientView.empty
        (Scope.ofKnown component.definition component.owner identity past) config () stored).1 =
          .ok rendered :=
      (render_eq_of_agree (agree_of_extends steady depiction.finite
        (depiction.identities.finiteLeft depiction.paired) advance.growsLeft.extends)
        (steady.childless depiction.found) .all ClientView.empty config).trans depiction.seen
    suffices pictured : component.Depicted identity config next after except from
      pictured.change face (Or.inl variant) (.refl after) (fun _ excepted => excepted)
        fun _ _ _ => rfl
    refine ⟨template, later, stored, pairing.join fresh, rendered, ?_⟩
    exact {
      found := depiction.found
      variant := depiction.variant
      current := depiction.current
      fragments := depiction.fragments
      seen := render_ofKnown_mono template .all ClientView.empty config le seen
      finite := by
        intro asked held declared has
        simp only [later] at has
        split at has
        · cases has
          exact same.finiteLeft advance.paired
        · exact (depiction.finite declared has).extend advance.growsLeft.extends
      paired := joined.extend (.refl _) lasts
      identities := OrderedMap.Paired.mono (Pairing.le_join_left _ _) depiction.identities
      values := by
        intro asked declared true'
        simp only [later]
        split
        · next same' =>
          rw [same', has]
          exact .some (same.mono (Pairing.le_join_right _ _))
        · next ne =>
          rcases values asked declared with unchanged | ⟨same', _⟩
          · rw [unchanged]
            have rel := depiction.values declared true'
            generalize past asked = found, known component.definition reached asked = held at rel ⊢
            cases rel with
            | none => exact .none
            | some paired => exact .some (paired.mono (Pairing.le_join_left _ _))
          · exact absurd same' ne }
  · refine change ⟨template, past, kept, pairing, rendered, depiction⟩ face (Or.inl variant)
      (advance.growsRight.extends.trans lasts) (fun _ excepted => excepted) fun asked declared true' => ?_
    rcases values asked declared with unchanged | ⟨rfl, lacks, has⟩
    · exact unchanged
    · exact absurd ⟨declared, true', lacks, has⟩ new

/-- **A node is written to** that is part of excepted names only. -/
theorem write (depicted : component.Depicted identity config reached store except) {target : Ref}
    (writes : Store.Writes target store after)
    (apart : ∀ value ∈ identity.values, ¬ store.Within target value)
    (grows : ∀ name, except name → more name)
    (marks : ∀ {name value}, component.definition.declares name = true →
      known component.definition reached name = some value → store.Within target value →
      more name) : component.Depicted identity config reached after more := by
  obtain ⟨template, past, kept, pairing, rendered, depiction⟩ := depicted
  refine ⟨template, past, kept, pairing.spare store target, rendered, ?_⟩
  exact {
    found := depiction.found
    variant := depiction.variant
    current := depiction.current.imp_right (grows _)
    fragments := depiction.fragments
    seen := depiction.seen
    finite := depiction.finite
    paired := depiction.paired.write writes
    identities := forall₂_of_mem_right depiction.identities fun _ entry member same =>
      ⟨same.1, same.2.spare (apart entry.2 (List.mem_map_of_mem member))⟩
    values := by
      intro name declared true'
      have rel := depiction.values declared fun excepted => true' (grows name excepted)
      cases has : known component.definition reached name with
      | none =>
        rw [has] at rel
        generalize past name = found at rel ⊢
        cases rel
        exact .none
      | some value =>
        rw [has] at rel
        generalize past name = found at rel ⊢
        cases rel with
        | some same => exact .some (same.spare fun within => true' (marks declared has within)) }

/-- **The component is rendered**, or a helper of it runs: its variables are read. -/
theorem step (steady : component.definition.Steady)
    (depicted : component.Depicted identity config reached store except)
    (step : Step component.definition component.owner (reached, store) (next, after)) :
    component.Depicted identity config next after except := by
  rcases step_cases steady step with ⟨same, reads⟩ | ⟨name, default, value, stage, found, lacks,
    made, same⟩
  · obtain rfl : next = reached := same
    exact depicted.change rfl (Or.inl rfl) reads.toGrows.extends (fun _ excepted => excepted)
      fun _ _ _ => rfl
  · have watched (asked : String) : known component.definition next asked =
        if asked = name then some value else known component.definition reached asked := by
      rw [← known_watch component.definition name value reached stage asked]
      exact congrArg (fun around : Variables × Store => known component.definition around.1 asked)
        same
    have lasts : stage.Extends after := by
      have extends' := extends_watch component.definition name value reached stage
      rw [← show after = _ from congrArg Prod.snd same] at extends'
      exact extends'
    refine depicted.cache steady (steady.defaults found) made lasts rfl rfl fun asked _ => ?_
    rw [watched]
    split
    · next here => exact Or.inr ⟨here, here ▸ lacks, rfl⟩
    · exact Or.inl rfl

theorem steps (steady : component.definition.Steady)
    (depicted : component.Depicted identity config reached store except)
    {later : Variables × Store} (path : Relation.ReflTransGen
      (Step component.definition component.owner) (reached, store) later) :
    component.Depicted identity config later.1 later.2 except := by
  induction path with
  | refl => exact depicted
  | tail _ step ih => exact ih.step steady step

end Depicted

end Instance

/-! ### Values stay finite -/

/-- Variables without a value that contains itself. -/
def Variables.Finite (definition : ComponentDef) (around : Variables × Store) : Prop :=
  ∀ {name value}, definition.declares name = true → known definition around.1 name = some value →
    value.Finite around.2

/-- A value that was made as a default does not contain itself. -/
theorem VarDefault.Determined.finite {default : VarDefault} (determined : default.Determined)
    {name : String} {maker : Owner} {value : Value} {store stage : Store}
    (made : default.compute name maker store = (.ok value, stage)) :
    store.Grows stage ∧ value.Finite stage := by
  obtain ⟨fresh, _, _, _, _, again, _, advance, same⟩ := determined name maker store store
  rw [made] at again
  cases again
  exact ⟨advance.growsLeft, same.finiteLeft advance.paired⟩

theorem Variables.Finite.step (steady : definition.Steady) {before after : Variables × Store}
    (finite : Variables.Finite definition before) (step : Step definition owner before after) :
    before.2.Extends after.2 ∧ Variables.Finite definition after := by
  rcases step_cases steady step with ⟨same, reads⟩ | ⟨name, default, value, stage, found, lacks,
    made, rfl⟩
  · have lasts := reads.toGrows.extends
    exact ⟨lasts, fun declared has => (finite declared (same ▸ has)).extend lasts⟩
  · obtain ⟨grows, new⟩ := (steady.defaults found).finite made
    have watches := extends_watch definition name value before.1 stage
    refine ⟨grows.extends.trans watches, fun declared has => ?_⟩
    rw [known_watch] at has
    split at has
    · cases has
      exact new.extend watches
    · exact (finite declared has).extend (grows.extends.trans watches)

theorem Variables.Finite.steps (steady : definition.Steady) {before after : Variables × Store}
    (finite : Variables.Finite definition before)
    (path : Relation.ReflTransGen (Step definition owner) before after) :
    before.2.Extends after.2 ∧ Variables.Finite definition after := by
  induction path with
  | refl => exact ⟨.refl _, finite⟩
  | tail _ step ih =>
    obtain ⟨lasts, finite⟩ := ih
    obtain ⟨further, finite⟩ := finite.step steady step
    exact ⟨lasts.trans further, finite⟩

/-! ### Renderings -/

/-- Dirty names among which the component and its helpers are. -/
structure Dirty.Whole (definition : ComponentDef) (dirty : NameSet) : Prop where
  component : Template.componentName ∈ dirty
  helpers : ∀ name, definition.hasHelper name = true → name ∈ dirty

theorem isDense_eq_false {template : Template} {dirty : Dirty} {view : ClientView}
    (sparse : isDense template dirty view = false) :
    (∃ names, dirty = .names names) ∧ view.staticSent = true ∧
      view.variant = some template.variant := by
  simp only [isDense, ClientView.needsDense, Bool.or_eq_false_iff, beq_eq_false_iff_ne, ne_eq,
    Bool.not_eq_false', bne_eq_false_iff_eq] at sparse
  cases dirty with
  | all => exact absurd rfl sparse.1
  | names names => exact ⟨⟨names, rfl⟩, sparse.2⟩

/-- What a rendering brings and leaves depends on the view by what the client has of the variant. -/
theorem render_eq_of_view {σ : Type} (scope : Scope σ) {template : Template} {dirty : Dirty}
    {view other : ClientView} (sparse : isDense template dirty view = false)
    (same : isDense template dirty other = false) (fragments : view.fragments = other.fragments)
    (config : Config) (world : σ) (store : Store) :
    (render template dirty view scope config world store).1 =
        (render template dirty other scope config world store).1 ∧
      (render template dirty view scope config world store).2.1.fragments =
        (render template dirty other scope config world store).2.1.fragments := by
  simp only [render, sparse, same]
  rcases (runParts scope config false dirty 0 NameSet.empty template.parts).run
    (Pass.start world store) with ⟨error | ⟨slots, rendered⟩, pass⟩
  · exact ⟨rfl, fragments⟩
  · refine ⟨rfl, ?_⟩
    simp only [ClientView.commit, Bool.false_eq_true, if_false, fragments]

namespace Instance.Depicted

variable {component : Instance} {config : Config} {reached left : Variables}
  {store after : Store} {template : Template} {dirty : Dirty} {rendered : Rendered}
  {seen : ClientView}

/--
**After a rendering the picture is true**: a dense one, or a sparse one for all names that the picture
was not true for.
-/
theorem of_render (steady : component.definition.Steady)
    (found : component.definition.template component.variant = .ok template)
    (finite : Variables.Finite component.definition (reached, store))
    (identities : ∀ value ∈ identity.values, value.Finite store)
    (before : component.view.staticSent = true → ∀ names, dirty = .names names →
      Dirty.Whole component.definition names ∧
        component.Depicted identity config reached store (· ∈ names))
    (ran : render template dirty component.view
      (Scope.ofReached component.definition component.owner identity) config reached store =
        (.ok rendered, seen, left, after))
    (path : Relation.ReflTransGen (Step component.definition component.owner) (reached, store)
      (left, after)) (container : Container) :
    { component with view := seen, container }.Depicted identity config left after fun _ => False := by
  obtain ⟨lasts, finite'⟩ := finite.steps steady path
  have identities' : ∀ value ∈ identity.values, value.Finite after :=
    fun value member => (identities value member).extend lasts
  have self := @agree_of_extends _ component.owner _ _ _ _ steady finite' identities' (.refl after)
  have variant := steady.built.variant_eq found
  have known' := render_ofKnown_eq steady found dirty component.view config finite identities ran
    path
  have committed := (slots_of_render (congrArg Prod.fst ran)).2
  rw [ran] at committed
  obtain ⟨thick, rfl⟩ : rendered.dense = isDense template dirty component.view ∧
    seen = component.view.commit template.variant rendered := committed
  -- what a dense rendering of the values of now would bring, if the client has got it by this one
  have picture {whole : Rendered}
      (dense : (render template .all ClientView.empty (Scope.ofKnown component.definition
        component.owner identity (known component.definition left)) config () after).1 = .ok whole)
      (view : (component.view.commit template.variant rendered).variant = some template.variant)
      (brought : (component.view.commit template.variant rendered).fragments = whole.markup) :
      { component with
        view := component.view.commit template.variant rendered, container }.Depicted identity
          config left after fun _ => False :=
    ⟨template, known component.definition left, after, Pairing.self after, whole,
      { found := variant ▸ found
        variant := view
        current := Or.inl variant.symm
        fragments := brought
        seen := dense
        finite := finite'
        paired := Store.Paired.self (.refl after)
        identities := paired_of_finite identities'
        values := fun declared _ => rel_of_finite finite' declared }⟩
  cases whole : isDense template dirty component.view with
  | true =>
    rw [whole] at thick
    refine @picture rendered ?_ (by simp [ClientView.commit, thick])
      (by simp [ClientView.commit, thick])
    exact (render_eq_of_dense _ config (isDense_empty template .all) whole () after).1.trans known'
  | false =>
    rw [whole] at thick
    obtain ⟨⟨names, rfl⟩, sent, shown⟩ := isDense_eq_false whole
    obtain ⟨closed, depicted⟩ := before sent names rfl
    obtain ⟨template', past, kept, pairing, earlier, depiction⟩ := depicted.steps steady path
    obtain rfl : template' = template := by
      have same : template'.variant = template.variant :=
        Option.some.inj (depiction.variant.symm.trans shown)
      have found' := depiction.found
      rw [same, variant, found] at found'
      exact (Except.ok.inj found').symm
    have agree := @Scope.agreeExcept_ofKnown _ component.owner _ _ _ steady.toFaithful _ _ _ _ depiction.paired
      depiction.identities (fun _ declared clean => depiction.values declared clean)
      (fun clean => absurd closed.component clean)
      fun name helper clean => absurd (closed.helpers name helper) clean
    obtain ⟨source, compiled⟩ := steady.built.compiled found
    -- the view that the remembered rendering leaves has the same markup
    have dense := isDense_empty template' .all
    rcases past' : render template' .all ClientView.empty (Scope.ofKnown component.definition
      component.owner identity past) config () kept with ⟨result, view, rest⟩
    have result' : result = .ok earlier := by
      have seen := depiction.seen
      rwa [past'] at seen
    subst result'
    obtain ⟨all, rfl⟩ : earlier.dense = true ∧
        view = ClientView.empty.commit template'.variant earlier := by
      have committed := (slots_of_render (congrArg Prod.fst past')).2
      rwa [past', dense] at committed
    have good := incremental_eq_full compiled (steady.childless found) (steady.plain found) agree
      self config dense past' .all
    have sparse := @isDense_committed template' names ClientView.empty _ all
    have same := render_eq_of_view (Scope.ofKnown component.definition component.owner identity
      (known component.definition left)) whole sparse
      (depiction.fragments.trans (by simp [ClientView.commit, all])) config () after
    have now := (slots_of_render known').2.2
    generalize render template' (.names names) (ClientView.empty.commit template'.variant earlier) _
      config () after = incremental at good same
    generalize full : render template' .all ClientView.empty _ config () after = complete at good
    obtain ⟨result, view, _⟩ := incremental
    obtain ⟨answer, _⟩ := complete
    rw [known', now] at same
    obtain ⟨rfl, fragments⟩ : .ok rendered = result ∧ _ = view.fragments := same
    cases answer with
    | error error => exact good.elim
    | ok brought =>
      refine @picture brought (congrArg Prod.fst full) ?_ (fragments.trans good)
      simpa [ClientView.commit, thick] using shown

/-- **A true picture is what a dense rendering would bring.** -/
theorem render_eq (steady : component.definition.Steady)
    (depicted : component.Depicted identity config reached store fun _ => False)
    (view : ClientView) :
    ∃ template rendered, component.definition.template component.variant = .ok template ∧
      (render template .all view (Scope.ofReached component.definition component.owner identity)
        config reached store).1 = .ok rendered ∧
      component.view.fragments = rendered.markup := by
  obtain ⟨template, past, kept, pairing, rendered, depiction⟩ := depicted
  have variant := depiction.current.resolve_right fun excepted => excepted
  have agree := @Scope.agreeExcept_ofKnown _ component.owner _ _ _ steady.toFaithful NameSet.empty _ _ _
    depiction.paired depiction.identities (fun _ declared _ => depiction.values declared not_false)
    (fun _ _ => NameSet.not_mem_empty) fun _ _ _ => NameSet.not_mem_empty
  have now := (render_eq_of_agree agree (steady.childless depiction.found) .all ClientView.empty
    config).symm.trans depiction.seen
  have real := (render_of_covers template .all ClientView.empty config
    (covers_read steady component.owner reached) now).1
  have all : isDense template .all view = true := by simp [isDense]
  exact ⟨template, rendered, variant ▸ depiction.found,
    (render_eq_of_dense _ config all (isDense_empty template .all) reached store).1.trans real,
    depiction.fragments⟩

end Instance.Depicted

end ReactiveView
