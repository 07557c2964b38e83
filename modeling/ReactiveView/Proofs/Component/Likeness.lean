/-
**Variables that are alike.**

Two components of one class have variables that are alike if each variable has paired values on both
sides, or none on either. They may stand in different sessions, whose stores hold other things besides. If
the class is regular, and the variables of the session that it declares have values, then a template brings
the same from both: a variable that has no value yet is given a default, which is made alike.

* `Variables.Stored` — the variables of the session have values; `Variables.own_of_steps` — then a rendering
  changes only the variables of the component itself.
* `Variables.Match` — variables that are alike, and `Variables.Match.read` — they are read alike.
* `render_ofReached_eq` — templates bring the same.
-/

import ReactiveView.Proofs.Component.Reached
import ReactiveView.Proofs.Tracked.Lasting

namespace ReactiveView

open Render

/-- Values that are both there and paired, or both missing, stay so as more is paired. -/
theorem Value.Paired.monoOption {pairing larger : Pairing} (grows : pairing ≤ larger)
    {found known : Option Value} (paired : Option.Rel (Value.Paired pairing) found known) :
    Option.Rel (Value.Paired larger) found known := by
  cases paired with
  | none => exact .none
  | some paired => exact .some (paired.mono grows)

variable {definition : ComponentDef} {owner : Owner} {identity other : OrderedMap String Value}

namespace Variables

/-! ### Variables of the session that have values -/

/-- Each variable of the session that a class declares has a value. -/
def Stored (definition : ComponentDef) (shared : Container) : Prop :=
  ∀ name, definition.isShared name = true → shared.values.contains name = true

theorem Stored.known_ne_none {reached : Variables} {name : String}
    (stored : Stored definition reached.shared) (foreign : definition.isReactive name = false)
    (declared : definition.isShared name = true) : known definition reached name ≠ none := by
  unfold known
  rw [foreign, if_neg Bool.false_ne_true, ← Option.isSome_iff_ne_none]
  exact stored name declared

/-- **All that one step does** if the variables of the session have values: nodes are read and made, or a
variable of the component itself is given its default. -/
theorem own_of_step (regular : definition.Regular) {before after : Variables × Store}
    (stored : Stored definition before.1.shared) (step : Step definition owner before after) :
    after.1.shared = before.1.shared ∧ before.2.Extends after.2 := by
  cases step with
  | reads reached reads => exact ⟨rfl, reads.toGrows.extends⟩
  | read name reached store =>
    cases found : definition.default? name with
    | none =>
      rw [read_of_undeclared (by rw [definition.declares_eq, found]; rfl)]
      exact ⟨rfl, .refl store⟩
    | some default =>
      cases has : known definition reached name with
      | some value =>
        rw [read_of_known (by rw [definition.declares_eq, found]; rfl) has]
        exact ⟨rfl, .refl store⟩
      | none =>
        rcases default_cases found with ⟨own, given⟩ | ⟨foreign, _, given⟩
        · obtain ⟨_, value, _, stage, _, made, _, advance, _⟩ := regular.own given name owner store store
          rw [read_of_unknown found has made, watch, if_pos own]
          exact ⟨rfl, advance.growsLeft.extends.trans (Container.frame_watch ..).1⟩
        · have declared : definition.isShared name = true := by
            simp [ComponentDef.isShared, OrderedMap.contains, given]
          exact absurd has (stored.known_ne_none foreign declared)

/-- A rendering changes only the variables of the component itself, if those of the session have values. -/
theorem own_of_steps (regular : definition.Regular) {before after : Variables × Store}
    (stored : Stored definition before.1.shared)
    (path : Relation.ReflTransGen (Step definition owner) before after) :
    after.1.shared = before.1.shared ∧ before.2.Extends after.2 := by
  induction path with
  | refl => exact ⟨rfl, .refl _⟩
  | tail _ step ih =>
    obtain ⟨same, lasts⟩ := own_of_step regular (ih.1 ▸ stored) step
    exact ⟨same.trans ih.1, ih.2.trans lasts⟩

/-! ### Variables that are alike -/

/-- **Variables that are alike**, each over its store, along with identity values that are. -/
structure Match (definition : ComponentDef) (identity other : OrderedMap String Value)
    (pairing : Pairing) (l r : Variables × Store) : Prop where
  paired : Store.Paired pairing l.2 r.2
  identity : ∀ name, Option.Rel (Value.Paired pairing) (identity.get? name) (other.get? name)
  known : ∀ name, definition.declares name = true →
    Option.Rel (Value.Paired pairing) (known definition l.1 name) (known definition r.1 name)
  stored : Stored definition l.1.shared

namespace Match

variable {pairing larger : Pairing} {l r : Variables × Store}

/-- Nodes that both make alike. -/
theorem advance (same : Match definition identity other pairing l r) {leftAfter rightAfter : Store}
    (advance : Store.Advance pairing l.2 r.2 larger leftAfter rightAfter) :
    Match definition identity other larger (l.1, leftAfter) (r.1, rightAfter) where
  paired := advance.paired
  identity name := Value.Paired.monoOption advance.enlarges (same.identity name)
  known name declared := Value.Paired.monoOption advance.enlarges (same.known name declared)
  stored := same.stored

/-- A variable of the component itself is given a default on both sides, which was made alike. -/
theorem watch (same : Match definition identity other pairing l r) {name : String}
    (own : definition.isReactive name = true) {fresh : Pairing} {value opposed : Value}
    {stage middle : Store} (made : Store.Advance (fun _ _ => False) l.2 r.2 fresh stage middle)
    (values : value.Paired fresh opposed) :
    Match definition identity other (pairing.join fresh)
      (l.1.watch definition name value stage) (r.1.watch definition name opposed middle) where
  paired := by
    have lasts := made.growsLeft.extends
    refine ((same.paired.extend lasts (.refl _)).join made (.refl _) fun refs above => ?_).extend
      (extends_watch ..) (extends_watch ..)
    exact absurd (same.paired.finiteLeft refs).inside above.not_gt
  identity asked := Value.Paired.monoOption (Pairing.le_join_left _ _) (same.identity asked)
  known asked declared := by
    rw [known_watch, known_watch]
    split
    · exact .some (values.mono (Pairing.le_join_right _ _))
    · exact Value.Paired.monoOption (Pairing.le_join_left _ _) (same.known asked declared)
  stored := by
    rw [Variables.watch, if_pos own]
    exact same.stored

/-- **One variable is read alike** on both sides. -/
theorem read (regular : definition.Regular) (same : Match definition identity other pairing l r)
    (name : String) :
    AnswerAlike (Match definition identity other) pairing Value.Paired
      (l.1.read definition owner name l.2) (r.1.read definition owner name r.2) := by
  cases found : definition.default? name with
  | none =>
    have undeclared : definition.declares name = false := by
      rw [definition.declares_eq, found]
      rfl
    rw [read_of_undeclared undeclared, read_of_undeclared undeclared]
    exact ⟨pairing, le_rfl, same, .error _⟩
  | some default =>
    have declared : definition.declares name = true := by
      rw [definition.declares_eq, found]
      rfl
    have both := same.known name declared
    cases left : Variables.known definition l.1 name with
    | some value =>
      rw [left] at both
      cases right : Variables.known definition r.1 name with
      | none =>
        rw [right] at both
        cases both
      | some opposed =>
        rw [right] at both
        cases both with
        | some paired =>
          rw [read_of_known declared left, read_of_known declared right]
          exact ⟨pairing, le_rfl, same, .ok paired⟩
    | none =>
      have right : Variables.known definition r.1 name = none := by
        rw [left] at both
        generalize Variables.known definition r.1 name = value at both ⊢
        cases both
        rfl
      rcases default_cases found with ⟨own, given⟩ | ⟨foreign, _, given⟩
      · obtain ⟨fresh, value, opposed, stage, middle, computed, made, advance, values⟩ :=
          regular.own given name owner l.2 r.2
        rw [read_of_unknown found left computed, read_of_unknown found right made]
        exact ⟨pairing.join fresh, Pairing.le_join_left _ _, same.watch own advance values,
          .ok (values.mono (Pairing.le_join_right _ _))⟩
      · have shared : definition.isShared name = true := by
          simp [ComponentDef.isShared, OrderedMap.contains, given]
        exact absurd left (same.stored.known_ne_none foreign shared)

theorem accord (regular : definition.Regular) :
    Source.Accord identity other (Variables.read definition owner) (Variables.read definition owner)
      (fun _ => True) (Match definition identity other) where
  paired same := same.paired
  advance same := same.advance
  identity same := same.identity
  read same _ := same.read regular _

end Match

end Variables

/-! ### The rendering -/

/-- **A template brings the same from variables that are alike.** -/
theorem render_ofReached_eq (regular : definition.Regular) {variant : String} {template : Template}
    (found : definition.template variant = .ok template) (dirty : Dirty) (view : ClientView)
    (config : Config) {pairing : Pairing} {left right : Variables} {store opposed : Store}
    (same : Variables.Match definition identity other pairing (left, store) (right, opposed)) :
    (render template dirty view (Scope.ofReached definition owner identity) config left store).1 =
      (render template dirty view (Scope.ofReached definition owner other) config right opposed).1 := by
  have accord := @Scope.accord_ofSource _ _ _ _ owner identity other _ _ _ regular.toFaithful
    (@Variables.Match.accord _ owner _ _ regular) True (fun _ _ => trivial) fun _ _ _ => trivial
  have met (name : String) : (Scope.Agreement.lockstep (fun _ => True)
      (fun name => name ≠ "child" ∧ True) (Variables.Match definition identity other)).Met
        pairing name none none := ⟨.none, fun _ => trivial⟩
  have alike := Lockstep.alike_render accord.lawful config (fun part member name called =>
    ⟨ne_of_mem_of_not_mem called (regular.childless found part member), trivial⟩) dirty view same met
  exact alike.1

end ReactiveView
