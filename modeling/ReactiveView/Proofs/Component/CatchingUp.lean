/-
**A rendering, seen from its end.**

A rendering gives defaults to the variables that it is the first to read. Rendered once more from the
values that there are at its end, the template brings the same: a default that was made early by the
one rendering is found by the other, and where a value lies in the store makes no difference.

* `Variables.Grown` — what became of variables, and which nodes were made for which of them.
* `CatchesUp` — a rendering from the end against the rendering that led there.
* `render_ofKnown_eq` — what was rendered is what is rendered from the values that there are now.
-/

import ReactiveView.Proofs.Component.Reached
import ReactiveView.Proofs.Tracked.Lasting

namespace ReactiveView

open Render

variable {definition : ComponentDef} {owner : Owner} {identity : OrderedMap String Value}

namespace Variables

/-! ### What became of variables -/

/-- **What became of variables**: each new value was made as a default, of nodes of its own. -/
structure Grown (definition : ComponentDef) (owner : Owner) (label : Ref → Option String)
    (before after : Variables × Store) : Prop where
  lasts : before.2.Extends after.2
  kept : ∀ {name value}, known definition before.1 name = some value →
    known definition after.1 name = some value
  within : ∀ {ref name}, label ref = some name →
    before.2.nodes.size ≤ ref ∧ ref < after.2.nodes.size
  made : ∀ {name default value}, definition.default? name = some default →
    known definition before.1 name = none → known definition after.1 name = some value →
    ∃ base stage, default.compute name owner base = (.ok value, stage) ∧ stage.Extends after.2 ∧
      ∀ ref, base.nodes.size ≤ ref → ref < stage.nodes.size → label ref = some name

theorem Grown.refl (around : Variables × Store) :
    Grown definition owner (fun _ => none) around around where
  lasts := .refl _
  kept has := has
  within given := nomatch given
  made _ lacks has := by rw [lacks] at has; cases has

theorem Grown.step (steady : definition.Steady) {label : Ref → Option String}
    {before middle after : Variables × Store} (grown : Grown definition owner label before middle)
    (step : Step definition owner middle after) :
    ∃ label, Grown definition owner label before after := by
  rcases step_cases steady step with ⟨same, reads⟩ | ⟨name, default, value, stage, found, lacks,
    computed, rfl⟩
  · have lasts := reads.toGrows.extends
    refine ⟨label, grown.lasts.trans lasts, fun has => same ▸ grown.kept has,
      fun given => ⟨(grown.within given).1, (grown.within given).2.trans_le lasts.size⟩,
      fun found lacks has => ?_⟩
    obtain ⟨base, stage, made, early, ranged⟩ := grown.made found lacks (same ▸ has)
    exact ⟨base, stage, made, early.trans lasts, ranged⟩
  · obtain ⟨_, _, _, after, _, again, _, advance, _⟩ :=
      steady.defaults found name owner middle.2 middle.2
    rw [computed] at again
    cases again
    have makes := advance.growsLeft.extends
    have watches := extends_watch definition name value middle.1 stage
    have lasts := makes.trans watches
    let ranged (ref : Ref) : Prop := middle.2.nodes.size ≤ ref ∧ ref < stage.nodes.size
    refine ⟨fun ref => open Classical in if ranged ref then some name else label ref,
      grown.lasts.trans lasts, fun {other _} has => ?_, fun {ref _} given => ?_,
      fun {other _ _} found' absent has => ?_⟩
    · rw [known_watch, if_neg fun same => ?_]
      · exact grown.kept has
      · rw [← same, grown.kept has] at lacks
        cases lacks
    · split at given
      · next inside =>
        exact ⟨grown.lasts.size.trans inside.1, inside.2.trans_le watches.size⟩
      · exact ⟨(grown.within given).1, (grown.within given).2.trans_le lasts.size⟩
    · rw [known_watch] at has
      split at has
      · next same =>
        subst same
        cases has
        cases found.symm.trans found'
        exact ⟨middle.2, stage, computed, watches, fun ref above below => if_pos ⟨above, below⟩⟩
      · obtain ⟨base, early, made, extends', given⟩ := grown.made found' absent has
        refine ⟨base, early, made, extends'.trans lasts, fun ref above below => ?_⟩
        rw [if_neg fun inside => ?_]
        · exact given ref above below
        · exact absurd (below.trans_le extends'.size) inside.1.not_gt

/-- **All that a rendering does to variables.** -/
theorem exists_grown (steady : definition.Steady) {before after : Variables × Store}
    (path : Relation.ReflTransGen (Step definition owner) before after) :
    ∃ label, Grown definition owner label before after := by
  induction path with
  | refl => exact ⟨_, .refl before⟩
  | tail _ step ih =>
    obtain ⟨_, grown⟩ := ih
    exact grown.step steady step

end Variables

open Variables

/-! ### Catching up -/

/--
**A rendering that starts at the end of another one**, on the left, and that other one. Where the left
one has a value that the right one lacks, it was there from the start; and what was made for it is not
paired yet.
-/
structure CatchesUp (definition : ComponentDef) (identity : OrderedMap String Value)
    (label : Ref → Option String) (before after : Variables × Store) (pairing : Pairing)
    (l r : Variables × Store) : Prop where
  paired : Store.Paired pairing l.2 r.2
  identity : identity.Paired pairing identity
  lasts : after.2.Extends l.2
  base : ∀ {name value}, known definition before.1 name = some value →
    known definition r.1 name ≠ none
  values : ∀ {name value}, definition.declares name = true →
    known definition r.1 name = some value →
    ∃ other, known definition l.1 name = some other ∧ other.Paired pairing value
  late : ∀ {name value}, definition.declares name = true →
    known definition l.1 name = some value → known definition r.1 name = none →
    known definition after.1 name = some value
  apart : ∀ {first second name}, pairing first second → label first = some name →
    known definition r.1 name ≠ none

namespace CatchesUp

variable {label : Ref → Option String} {before after : Variables × Store} {pairing : Pairing}
  {l r : Variables × Store}

theorem start (grown : Grown definition owner label before after)
    (values : ∀ {name value}, definition.declares name = true →
      known definition before.1 name = some value → value.Finite before.2)
    (identities : ∀ value ∈ identity.values, value.Finite before.2) :
    CatchesUp definition identity label before after (Pairing.self before.2) after before where
  paired := Store.Paired.self grown.lasts
  identity := List.forall₂_same.mpr fun entry member =>
    ⟨rfl, (identities entry.2 (List.mem_map_of_mem member)).paired⟩
  lasts := .refl _
  base has lacks := by rw [lacks] at has; cases has
  values declared has := ⟨_, grown.kept has, (values declared has).paired⟩
  late _ has _ := has
  apart := by
    rintro first _ name ⟨rfl, finite⟩ given
    exact absurd finite.inside (grown.within given).1.not_gt

variable (grown : Grown definition owner label before after)
include grown

/-- Nodes that both make alike. -/
theorem advance (catches : CatchesUp definition identity label before after pairing l r)
    {larger : Pairing} {leftAfter rightAfter : Store}
    (advance : Store.Advance pairing l.2 r.2 larger leftAfter rightAfter) :
    CatchesUp definition identity label before after larger (l.1, leftAfter)
      (r.1, rightAfter) where
  paired := advance.paired
  identity := OrderedMap.Paired.mono advance.enlarges catches.identity
  lasts := catches.lasts.trans advance.growsLeft.extends
  base := catches.base
  values declared has := by
    obtain ⟨other, found, paired⟩ := catches.values declared has
    exact ⟨other, found, paired.mono advance.enlarges⟩
  late := catches.late
  apart refs given := by
    rcases advance.fresh refs with old | ⟨new, _⟩
    · exact catches.apart old given
    · exact absurd ((grown.within given).2.trans_le catches.lasts.size) new.not_gt

omit grown in
/-- A variable comes to have values on both sides that were made alike. -/
theorem watch (catches : CatchesUp definition identity label before after pairing l r) {name : String}
    {fresh : Pairing} {value other : Value} {base stage middle leftAfter rightAfter : Store}
    {left : Variables}
    (made : Store.Advance (fun _ _ => False) base r.2 fresh stage middle)
    (values : value.Paired fresh other) (early : stage.Extends leftAfter)
    (lastsLeft : l.2.Extends leftAfter) (lastsRight : middle.Extends rightAfter)
    (free : ∀ {first second}, pairing first second → base.nodes.size ≤ first →
      stage.nodes.size ≤ first)
    (own : ∀ ref, base.nodes.size ≤ ref → ref < stage.nodes.size → ∀ {asked},
      label ref = some asked → asked = name)
    {right : Variables}
    (knownLeft : ∀ asked, known definition left asked =
      if asked = name then some value else known definition l.1 asked)
    (knownRight : ∀ asked, known definition right asked =
      if asked = name then some other else known definition r.1 asked) :
    CatchesUp definition identity label before after (pairing.join fresh) (left, leftAfter)
      (right, rightAfter) where
  paired := ((catches.paired.extend lastsLeft (.refl _)).join made early free).extend (.refl _)
    lastsRight
  identity := OrderedMap.Paired.mono (Pairing.le_join_left _ _) catches.identity
  lasts := catches.lasts.trans lastsLeft
  base {asked _} has := by
    rw [knownRight]
    split
    · nofun
    · exact catches.base has
  values {asked _} declared has := by
    rw [knownRight] at has
    rw [knownLeft]
    split at has
    · next same =>
      cases has
      exact ⟨value, if_pos same, values.mono (Pairing.le_join_right _ _)⟩
    · next ne =>
      obtain ⟨held, found, paired⟩ := catches.values declared has
      exact ⟨held, (if_neg ne).trans found, paired.mono (Pairing.le_join_left _ _)⟩
  late {asked _} declared has lacks := by
    rw [knownRight] at lacks
    rw [knownLeft] at has
    split at lacks
    · cases lacks
    · next ne =>
      rw [if_neg ne] at has
      exact catches.late declared has lacks
  apart {first second asked} refs given := by
    rw [knownRight]
    rcases refs with refs | refs
    · split
      · nofun
      · exact catches.apart refs given
    · have above := ((made.fresh refs).resolve_left id).1
      have below := (made.paired.finiteLeft refs).inside
      rw [if_pos (own first above below given)]
      nofun

/-- **One variable is read alike** by both. -/
theorem read (steady : definition.Steady)
    (catches : CatchesUp definition identity label before after pairing l r) (name : String) :
    AnswerAlike (CatchesUp definition identity label before after) pairing Value.Paired
      (l.1.read definition owner name l.2) (r.1.read definition owner name r.2) := by
  cases found : definition.default? name with
  | none =>
    have undeclared : definition.declares name = false := by
      rw [definition.declares_eq, found]
      rfl
    rw [read_of_undeclared undeclared, read_of_undeclared undeclared]
    exact ⟨pairing, le_rfl, catches, .error _⟩
  | some default =>
    have declared : definition.declares name = true := by
      rw [definition.declares_eq, found]
      rfl
    have determined := steady.defaults found name owner
    cases right : known definition r.1 name with
    | some value =>
      obtain ⟨other, left, paired⟩ := catches.values declared right
      rw [read_of_known declared left, read_of_known declared right]
      exact ⟨pairing, le_rfl, catches, .ok paired⟩
    | none =>
      cases left : known definition l.1 name with
      | some other =>
        -- the left run has the default that was made on the way to where it started
        obtain ⟨base, stage, computed, early, ranged⟩ :=
          grown.made found (by
            by_contra has
            obtain ⟨_, has⟩ := Option.ne_none_iff_exists'.mp has
            exact catches.base has right) (catches.late declared left right)
        obtain ⟨fresh, _, value, _, middle, again, made, advance, values⟩ := determined base r.2
        rw [computed] at again
        cases again
        rw [read_of_known declared left, read_of_unknown found right made]
        refine ⟨pairing.join fresh, Pairing.le_join_left _ _, catches.watch advance values (early.trans catches.lasts)
          (.refl _) (extends_watch ..) (fun {first _} refs above => ?_)
          (fun ref above below asked given => ?_) (fun asked => ?_)
          (known_watch definition name value r.1 middle), .ok (values.mono (Pairing.le_join_right _ _))⟩
        · by_contra below
          exact catches.apart refs (ranged first above (not_le.mp below)) right
        · exact Option.some.inj (given.symm.trans (ranged ref above below))
        · split
          · next same => rw [same, left]
          · rfl
      | none =>
        obtain ⟨fresh, other, value, stage, middle, computed, made, advance, values⟩ :=
          determined l.2 r.2
        rw [read_of_unknown found left computed, read_of_unknown found right made]
        refine ⟨pairing.join fresh, Pairing.le_join_left _ _, catches.watch advance values (extends_watch ..)
          (advance.growsLeft.extends.trans (extends_watch ..)) (extends_watch ..)
          (fun refs above => ?_) (fun ref above _ asked given => ?_)
          (known_watch definition name other l.1 stage)
          (known_watch definition name value r.1 middle), .ok (values.mono (Pairing.le_join_right _ _))⟩
        · exact absurd (catches.paired.finiteLeft refs).inside above.not_gt
        · exact absurd ((grown.within given).2.trans_le catches.lasts.size) above.not_gt

theorem accord (steady : definition.Steady) :
    Source.Accord identity identity (Variables.read definition owner) (Variables.read definition owner)
      (fun _ => True) (CatchesUp definition identity label before after) where
  paired catches := catches.paired
  advance catches := catches.advance grown
  identity catches := catches.identity.get?
  read catches _ := catches.read grown steady _

end CatchesUp

/-! ### The rendering -/

/--
**What was rendered is what is rendered from the values that there are at the end**: a rendering and
one from the values that it leaves, over the store that it leaves, have one result.
-/
theorem render_ofKnown_eq (steady : definition.Steady) {variant : String} {template : Template}
    (found : definition.template variant = .ok template) (dirty : Dirty) (view : ClientView)
    (config : Config) {reached : Variables} {store : Store}
    (values : ∀ {name value}, definition.declares name = true →
      known definition reached name = some value → value.Finite store)
    (identities : ∀ value ∈ identity.values, value.Finite store)
    {result : Except Error Rendered} {seen : ClientView} {left : Variables} {after : Store}
    (ran : render template dirty view (Scope.ofReached definition owner identity) config reached
      store = (result, seen, left, after))
    (path : Relation.ReflTransGen (Step definition owner) (reached, store) (left, after)) :
    (render template dirty view (Scope.ofKnown definition owner identity (known definition left))
      config () after).1 = result := by
  obtain ⟨label, grown⟩ := exists_grown steady path
  have accord := @Scope.accord_ofSource _ _ _ _ owner identity _ _ _ _ steady.toFaithful
    (@CatchesUp.accord _ owner identity _ _ _ grown steady) True
    (fun _ _ => trivial) fun _ _ _ => trivial
  have met (name : String) : (Scope.Agreement.lockstep (fun _ => True)
      (fun name => name ≠ "child" ∧ True)
      (CatchesUp definition identity label (reached, store) (left, after))).Met
        (Pairing.self store) name none none := ⟨.none, fun _ => trivial⟩
  have alike := Lockstep.alike_render accord.lawful config (fun part member name called =>
    ⟨ne_of_mem_of_not_mem called (steady.childless found part member), trivial⟩) dirty view
    (CatchesUp.start grown values identities) met
  change _ = (render template dirty view (Scope.ofReached definition owner identity) config reached
    store).1 ∧ _ at alike
  obtain ⟨same, _, pairing, catches⟩ := alike
  change CatchesUp definition identity label _ _ pairing _ (render template dirty view
    (Scope.ofReached definition owner identity) config reached store).2.2 at catches
  rw [ran] at same catches
  refine (render_of_within template dirty view config (covers_read steady owner left) ?_).trans same
  rintro ⟨name, declared, lacks, has⟩
  obtain ⟨value, has⟩ := Option.ne_none_iff_exists'.mp has
  rw [catches.late declared has lacks] at lacks
  cases lacks

end ReactiveView
