/-
**What the client has of all components of a session.**

Each component that the client has got is depicted: its markup is that of a dense rendering of past
values, which are paired with the values of now, except for some names. What code does leaves all these
pictures standing: a variable that is assigned is excepted from then on in every component that
declares it, and so is every variable that holds a node which is written to.

* `World.Pictured` — the pictures of all components, and what they rest on.
* `World.Pictured.change` — variables are assigned, and variants chosen.
* `World.Pictured.cache` — a variable is given its default.
* `World.Pictured.write` — a node is written to.
-/

import ReactiveView.Proofs.Session.Depiction
import ReactiveView.Proofs.Session.Sites
import ReactiveView.Proofs.Tracked.Writing

namespace ReactiveView

open Render

/-- What a node does not hang on stays finite when the node is written to. -/
theorem Value.Finite.write {value : Value} {store after : Store} {target : Ref}
    (finite : value.Finite store) (writes : Store.Writes target store after)
    (free : ¬ store.Within target value) : value.Finite after :=
  fun ref handle => (finite ref handle).write writes fun below => free ⟨ref, handle, below⟩


namespace World

variable {world after : World} {store stored : Store} {except more : String → String → Prop}

/-- No variable holds anything that contains itself, or that is not there. -/
def Finite (world : World) (store : Store) : Prop := ∀ {site name value},
  world.value? site name = some value → value.Finite store

/-- **The pictures of all components**, except for some names of each. -/
structure Pictured (world : World) (store : Store) (except : String → String → Prop) : Prop where
  filed : world.Filed
  steady : ∀ {id component}, world.mounted.get? id = some (some component) →
    component.definition.Steady
  /-- No component shows another one. -/
  alone : ∀ {id component}, world.mounted.get? id = some (some component) →
    component.view.children.flatten = []
  finite : world.Finite store
  identities : ∀ value ∈ world.identity.values, value.Finite store
  pictured : ∀ {id component}, world.mounted.get? id = some (some component) →
    component.view.staticSent = true →
    component.Depicted world.identity world.config (world.variablesOf component) store (except id)

namespace Pictured

variable (pictured : world.Pictured store except) (stands : world.Stands after)
  (identity : after.identity = world.identity)
include pictured stands identity

/-- Everything is seen as before, and each picture goes on in its own way. -/
theorem follow (finite : after.Finite stored)
    (identities : ∀ value ∈ world.identity.values, value.Finite stored)
    (depicted : ∀ {id component other}, world.mounted.get? id = some (some component) →
      after.mounted.get? id = some (some other) → other.face = component.face →
      component.Depicted world.identity world.config (world.variablesOf component) store (except id) →
      other.Depicted world.identity world.config (after.variablesOf other) stored (more id)) :
    after.Pictured stored more where
  filed := stands.filed pictured.filed
  steady there := by
    obtain ⟨old, found, same⟩ := stands.exists_of_get? there
    exact (Instance.parts_of_face same).2.1 ▸ pictured.steady found
  alone there := by
    obtain ⟨old, found, same⟩ := stands.exists_of_get? there
    exact (Instance.parts_of_face same).2.2 ▸ pictured.alone found
  finite := finite
  identities := identity ▸ identities
  pictured {id component} there shown := by
    obtain ⟨old, found, same⟩ := stands.exists_of_get? there
    rw [identity, stands.config]
    refine depicted found there same.symm (pictured.pictured found ?_)
    rwa [(Instance.parts_of_face same).2.2]

/-- **What is assigned is excepted**, and so is a component whose variant is chosen. -/
theorem change (lasts : store.Extends stored) (grows : ∀ {id name}, except id name → more id name)
    (variants : ∀ {id component other}, world.mounted.get? id = some (some component) →
      after.mounted.get? id = some (some other) →
      other.variant = component.variant ∨ more id Template.componentName)
    (values : ∀ {id component name}, world.mounted.get? id = some (some component) →
      component.definition.declares name = true → ¬ more id name →
      after.value? (component.definition.site id name) name =
        world.value? (component.definition.site id name) name)
    (finite : ∀ {site name value}, after.value? site name = some value →
      world.value? site name = some value ∨ value.Finite stored) :
    after.Pictured stored more := by
  refine pictured.follow stands identity (fun {site name value} has => ?_)
    (fun value member => (pictured.identities value member).extend lasts)
    fun {id component other} found there same depicted => ?_
  · exact (finite has).elim (fun old => (pictured.finite old).extend lasts) fun new => new
  · have definition := (Instance.parts_of_face same).2.1
    refine depicted.change same (variants found there) lasts (fun name => grows) fun name declared
      true' => ?_
    rw [known_eq_value? found, ← definition, known_eq_value? there, definition]
    exact values found declared true'

/-- **A variable is given its default.** -/
theorem cache {site : Site} {name : String} {default : VarDefault} (determined : default.Determined)
    {maker : Owner} {value : Value} {stage : Store}
    (made : default.compute name maker store = (.ok value, stage)) (lasts : stage.Extends stored)
    (variants : ∀ {id component other}, world.mounted.get? id = some (some component) →
      after.mounted.get? id = some (some other) → other.variant = component.variant)
    (lacks : world.value? site name = none)
    (values : ∀ asked other, after.value? asked other =
      if asked = site ∧ other = name then some value else world.value? asked other) :
    after.Pictured stored except := by
  obtain ⟨grows, new⟩ := determined.finite made
  have all := grows.extends.trans lasts
  refine pictured.follow stands identity (fun {asked other held} has => ?_)
    (fun value member => (pictured.identities value member).extend all)
    fun {id component other} found there same depicted => ?_
  · rw [values] at has
    split at has
    · cases has
      exact new.extend lasts
    · exact (pictured.finite has).extend all
  · have definition := (Instance.parts_of_face same).2.1
    refine depicted.cache (pictured.steady found) determined made lasts same (variants found there)
      fun asked declared => ?_
    rw [known_eq_value? found, ← definition, known_eq_value? there, definition, values]
    split
    · next here => exact Or.inr ⟨here.2, here.1 ▸ here.2 ▸ lacks, rfl⟩
    · exact Or.inl rfl

omit stands identity in
/-- **A node is written to**: every variable that holds it is excepted. -/
theorem write {target : Ref} (writes : Store.Writes target store stored)
    (apart : ∀ value ∈ world.identity.values, ¬ store.Within target value)
    (finite : world.Finite stored) (grows : ∀ {id name}, except id name → more id name)
    (marks : ∀ {id component name value}, world.mounted.get? id = some (some component) →
      component.definition.declares name = true →
      world.value? (component.definition.site id name) name = some value →
      store.Within target value → more id name) : world.Pictured stored more where
  filed := pictured.filed
  steady := pictured.steady
  alone := pictured.alone
  finite := finite
  identities value member := (pictured.identities value member).write writes (apart value member)
  pictured found shown := by
    refine (pictured.pictured found shown).write writes apart (fun name => grows)
      fun declared has within => ?_
    rw [known_eq_value? found] at has
    exact marks found declared has within

omit stands identity in
/-- With more names excepted, of components of which the client has got something. -/
theorem imp (grows : ∀ {id name component}, world.mounted.get? id = some (some component) →
      component.view.staticSent = true → except id name → more id name) : world.Pictured store more :=
  { pictured with
    pictured := fun found shown => (pictured.pictured found shown).change rfl (Or.inl rfl)
      (.refl store) (fun _ => grows found shown) fun _ _ _ => rfl }

omit stands identity in
/-- While nothing is written to. -/
theorem extend (lasts : store.Extends stored) : world.Pictured stored except :=
  pictured.change (.refl world) rfl lasts id
    (fun found there => by rw [found] at there; cases there; exact Or.inl rfl)
    (fun _ _ _ => rfl) fun has => Or.inl has

omit stands identity in
/-- What is sent leaves the pictures alone. -/
theorem emit (id : String) (payload : Outbound) : (world.emit id payload).Pictured store except where
  filed := pictured.filed
  steady := pictured.steady
  alone := pictured.alone
  finite := pictured.finite
  identities := pictured.identities
  pictured := pictured.pictured

end Pictured

end World

end ReactiveView
