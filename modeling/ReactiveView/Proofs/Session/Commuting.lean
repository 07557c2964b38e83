/-
**Independent messages commute.**

Two messages that have to do with different components, and with nothing else, may come in either
order. What the session holds in the end is the same but for the places of nodes, the same components
are rendered for the same names, and so the same is shown and the same is sent, in the same order.

* `World.Founded` — no value of a session contains itself.
* `Cycle.exists_resembles` — after either order two cycles resemble each other, and the same is to be
  rendered.
* `Session.handle_comm` — the two orders of a batch.
* `Session.not_commuting` — defaults that remember, and helpers that look at who watches a value, tell
  the orders apart.
-/

import Mathlib.Data.List.Sort
import ReactiveView.Proofs.Session.Declared
import ReactiveView.Proofs.Session.Exchange
import ReactiveView.Proofs.Session.Independence

namespace ReactiveView

/-- Names with the same members are the same. -/
theorem NameSet.ext_mem {left right : NameSet} (same : ∀ name, name ∈ left ↔ name ∈ right) :
    left = right := by
  obtain ⟨names, sorted⟩ := left
  obtain ⟨others, sorted'⟩ := right
  obtain rfl : names = others := sorted.eq_of_mem_iff sorted' fun {name} => same name
  rfl

theorem OrderedMap.Resembles.self {pairing : Pairing} {values : OrderedMap String Value}
    (self : ∀ {name value}, values.get? name = some value → value.Paired pairing value) :
    values.Resembles pairing values := by
  intro name
  cases has : values.get? name with
  | none => exact .none
  | some value => exact .some (self has)

theorem OrderedMap.Resembles.flip {pairing : Pairing} {left right : OrderedMap String Value}
    (same : left.Resembles pairing right) :
    right.Resembles (fun first second => pairing second first) left := by
  intro name
  have values := same name
  generalize left.get? name = value, right.get? name = other at values ⊢
  cases values with
  | none => exact .none
  | some values => exact .some values.flip

/-- **No value of a session contains itself**: neither those of components and of the session, nor
identity values, nor what code has kept. -/
structure World.Founded (world : World) (store : Store) : Prop where
  values : world.Finite store
  identity : ∀ {name value}, world.identity.get? name = some value → value.Finite store
  kept : ∀ {name value}, store.kept.get? name = some value → value.Finite store

theorem World.Founded.own {world : World} {store : Store} (founded : world.Founded store)
    {id : String} {component : Instance} (there : world.mounted.get? id = some (some component))
    {name : String} {value : Value} (has : component.container.values.get? name = some value) :
    value.Finite store :=
  founded.values
    (World.value?_eq_some_iff.mpr ⟨_, World.container?_of_mounted there, has⟩)

/-- **A session resembles itself**, if what does not contain itself stands for itself. -/
theorem World.Founded.resembles {world : World} {store : Store} (founded : world.Founded store)
    (uniform : ∀ {id component}, world.mounted.get? id = some (some component) →
      component.definition.Uniform) {pairing : Pairing}
    (self : ∀ {value : Value}, value.Finite store → value.Paired pairing value) :
    world.Resembles pairing world := by
  refine ⟨rfl, fun id => ?_, .self fun has => self ?_, .self fun has => self (founded.identity has),
    rfl, rfl⟩
  · cases place : world.mounted.get? id with
    | none => exact .none
    | some place' =>
      refine .some ?_
      cases place' with
      | none => exact .none
      | some component =>
        exact .some ⟨rfl, rfl, rfl, rfl, .self fun has => self (founded.own place has),
          uniform place⟩
  · exact @founded.values none _ _ (World.value?_eq_some_iff.mpr ⟨_, rfl, has⟩)

theorem World.put_comm {world : World} {one two : Instance} (distinct : one.id ≠ two.id)
    (here : one.id ∈ world.ids) (there : two.id ∈ world.ids) :
    (world.put one).put two = (world.put two).put one := by
  unfold World.put
  rw [OrderedMap.insert_comm distinct here there]

theorem Instance.Reaches.finite {component : Instance} {store : Store}
    (finite : ∀ {name value}, component.container.values.get? name = some value →
      value.Finite store) {ref : Ref} (reaches : component.Reaches store ref) : store.Finite ref := by
  obtain ⟨name, value, found, top, handle, below⟩ := reaches
  exact (finite found top handle).deeper below

namespace Cycle

variable {world : World} {start : Store} {one two : Instance} {first second : SubMessage}
  {rest : List Container}

/-! ### Both orders -/

/-- A message that has to do with its own component only is executed, and changes nothing else. -/
theorem exists_alone (alone : first.Alone world start one)
    (finite : ∀ {name value}, one.container.values.get? name = some value → value.Finite start)
    (enrolled : Enrolled (one.container :: rest) start) :
    ∃ state stored, start.Confined (one.Reaches start) stored ∧
      Enrolled (state.reached.own :: rest) stored ∧
      execute world first start = (.ok (), world.put (one.closing state), stored) := by
  have beside : Beside (one.Reaches start) start start world.shared rest rest _
      (world.opening one, start) (world.opening one, start) :=
    .begin (.refl (fun _ => False) start) (fun _ _ => id) finite enrolled enrolled
  obtain ⟨_, state, _, stored, _, _, after, here, _⟩ :=
    exists_execute alone alone.addressed rfl rfl beside
  exact ⟨state, stored, after.stores.confinedLeft, after.enrolledLeft, here⟩

/-- **A message is executed where another one was executed before**, that has to do with another
component. -/
theorem exists_beside (alone : first.Alone world start one) (alone' : second.Alone world start two)
    (filed : world.Filed) (distinct : one.id ≠ two.id)
    (apart : ∀ ref, one.Reaches start ref → ¬ two.Reaches start ref)
    (finite : ∀ {name value}, one.container.values.get? name = some value → value.Finite start)
    (finite' : ∀ {name value}, two.container.values.get? name = some value → value.Finite start)
    (enrolled : Enrolled (one.container :: two.container :: rest) start) {state : ActionState}
    {stored : Store}
    (done : execute world second start = (.ok (), world.put (two.closing state), stored)) :
    ∃ pairing left right single both others,
      Beside (one.Reaches start) start stored world.shared (two.container :: rest) others pairing
        (left, single) (right, both) ∧
      execute world first start = (.ok (), world.put (one.closing left), single) ∧
      execute (world.put (two.closing state)) first stored =
        (.ok (), (world.put (two.closing state)).put (one.closing right), both) := by
  have swapped : Enrolled (two.container :: one.container :: rest) start :=
    enrolled.perm (List.Perm.swap ..)
  obtain ⟨last, after, confined, entered, same⟩ := exists_alone alone' finite' swapped
  obtain ⟨-, rfl⟩ := Prod.mk.inj (Prod.mk.inj (done.symm.trans same)).2
  have opposite : Enrolled (one.container :: last.reached.own :: rest) stored :=
    entered.perm (List.Perm.swap ..)
  have beside : Beside (one.Reaches start) start stored world.shared (two.container :: rest) _ _
      (world.opening one, start) (world.opening one, stored) :=
    .begin confined apart finite enrolled opposite
  have here := World.instance?_eq_ok_iff.mp alone.addressed
  have named : first.component = one.id := (filed here).symm
  have addressed : (world.put (two.closing state)).instance? first.component = .ok one := by
    rw [World.instance?_eq_ok_iff, World.put, World.get?_insert_eq, if_neg]
    · exact here
    · rw [named]
      exact distinct
  obtain ⟨pairing, left, right, single, both, -, after, here, there⟩ :=
    exists_execute alone addressed rfl rfl beside
  exact ⟨pairing, left, right, single, both, _, after, here, there⟩

/-- Two messages that succeed are executed one after the other. -/
theorem executeAll_pair {middle last : World} {stored after : Store}
    (done : execute world first start = (.ok (), middle, stored))
    (then' : execute middle second stored = (.ok (), last, after)) :
    executeAll ⟨world, start, none, []⟩ [first, second] = ⟨last, after, none, []⟩ := by
  simp [executeAll, done, then', Cycle.after]

/-! ### What is to be rendered -/

/-- Components of one class whose containers have one changeset: the same names are marked. -/
structure AskedAlike (left right : Instance) : Prop where
  id : right.id = left.id
  definition : right.definition = left.definition
  changeset : right.container.changeset = left.container.changeset

/-- The same places, with such components. -/
def PlacesAskedAlike (left right : World) : Prop := ∀ id,
  Option.Rel (Option.Rel AskedAlike) (left.mounted.get? id) (right.mounted.get? id)

theorem PlacesAskedAlike.refl (world : World) : PlacesAskedAlike world world := by
  intro id
  rcases world.mounted.get? id with _ | _ | component
  · exact .none
  · exact .some .none
  · exact .some (.some ⟨rfl, rfl, rfl⟩)

theorem PlacesAskedAlike.put {left right : World} (places : PlacesAskedAlike left right)
    {component opposed : Instance} (alike : AskedAlike component opposed) :
    PlacesAskedAlike (left.put component) (right.put opposed) := by
  intro id
  rw [World.put, World.put, World.get?_insert_eq, World.get?_insert_eq, alike.id]
  split
  · exact .some (.some alike)
  · exact places id

/-- **The same is to be rendered** where the same names are marked. -/
theorem affected_eq {left right : Cycle} (ids : right.world.ids = left.world.ids)
    (places : PlacesAskedAlike left.world right.world)
    (shared : right.world.shared.changeset = left.world.shared.changeset)
    (marked : ∀ changeset, right.store.marked changeset = left.store.marked changeset)
    (failed : right.failed = left.failed) : right.affected none = left.affected none := by
  have all := OrderedMap.forall₂_entries ids places
  unfold affected
  generalize left.world.mounted.entries = entries, right.world.mounted.entries = others at all ⊢
  induction all with
  | nil => rfl
  | @cons one two _ _ same _ ih =>
    obtain ⟨id, here⟩ := one
    obtain ⟨known, there⟩ := two
    obtain ⟨rfl, place⟩ : id = known ∧ Option.Rel AskedAlike here there := same
    have dirty : right.dirtyOf none id there = left.dirtyOf none id here := by
      unfold dirtyOf
      rw [failed]
      cases place with
      | none => rfl
      | @some component opposed alike =>
        have same : opposed.dirty (right.world.shared.changes right.store) right.store =
            component.dirty (left.world.shared.changes left.store) left.store := by
          unfold Instance.dirty Instance.sharedChanges Container.changes
          rw [alike.definition, alike.changeset, shared, marked, marked]
        dsimp only
        rw [same]
    rw [List.filterMap_cons, List.filterMap_cons, ih, dirty]

/-! ### After either order -/

/-- **Both orders of two messages**: each of them does after the other what it does on its own. -/
theorem exists_orders (alone : first.Alone world start one) (alone' : second.Alone world start two)
    (filed : world.Filed) (founded : world.Founded start) (distinct : one.id ≠ two.id)
    (apart : ∀ ref, one.Reaches start ref → ¬ two.Reaches start ref)
    (enrolled : Enrolled (one.container :: two.container :: rest) start) :
    ∃ pairing pairing' left right left' right' single both single' both' others others',
      Beside (one.Reaches start) start single' world.shared (two.container :: rest) others pairing
        (left, single) (right, both) ∧
      Beside (two.Reaches start) start single world.shared (one.container :: rest) others' pairing'
        (left', single') (right', both') ∧
      executeAll ⟨world, start, none, []⟩ [first, second] =
        ⟨(world.put (one.closing left)).put (two.closing right'), both', none, []⟩ ∧
      executeAll ⟨world, start, none, []⟩ [second, first] =
        ⟨(world.put (two.closing left')).put (one.closing right), both, none, []⟩ := by
  have finite {name : String} {value : Value} := @World.Founded.own _ _ founded _ _
    (World.instance?_eq_ok_iff.mp alone.addressed) name value
  have finite' {name : String} {value : Value} := @World.Founded.own _ _ founded _ _
    (World.instance?_eq_ok_iff.mp alone'.addressed) name value
  have swapped : Enrolled (two.container :: one.container :: rest) start :=
    enrolled.perm (List.Perm.swap ..)
  obtain ⟨before, stored, _, _, does⟩ := exists_alone alone finite enrolled
  obtain ⟨before', stored', _, _, does'⟩ := exists_alone alone' finite' swapped
  obtain ⟨pairing, left, right, single, both, others, beside, done, then'⟩ :=
    exists_beside alone alone' filed distinct apart finite finite' enrolled does'
  obtain ⟨pairing', left', right', single', both', others', beside', done', thence⟩ :=
    exists_beside alone' alone filed distinct.symm (fun ref there here => apart ref here there)
      finite' finite swapped does
  -- what was done before the other is what is done in the beginning
  obtain ⟨standing, rfl⟩ := Prod.mk.inj (Prod.mk.inj (does.symm.trans done)).2
  obtain ⟨standing', rfl⟩ := Prod.mk.inj (Prod.mk.inj (does'.symm.trans done')).2
  rw [standing] at thence
  rw [standing'] at then'
  exact ⟨pairing, pairing', left, right, left', right', stored, both, stored', both', others, others',
    beside, beside', executeAll_pair done thence, executeAll_pair done' then'⟩

section

variable {pairing pairing' : Pairing} {left right left' right' : ActionState}
  {single both single' both' : Store} {ahead ahead' others others' : List Container}
  (beside : Beside (one.Reaches start) start single' world.shared ahead others pairing (left, single)
    (right, both))
  (beside' : Beside (two.Reaches start) start single world.shared ahead' others' pairing'
    (left', single') (right', both'))
include beside beside'

/-- The components and the variables are alike after both orders. -/
theorem worlds_crossed (founded : world.Founded start)
    (uniform : ∀ {id component}, world.mounted.get? id = some (some component) →
      component.definition.Uniform) (uniformOne : one.definition.Uniform)
    (uniformTwo : two.definition.Uniform) :
    ((world.put (one.closing left)).put (two.closing right')).Resembles
      (.crossed start (one.Reaches start) (two.Reaches start) pairing pairing')
      ((world.put (one.closing right)).put (two.closing left')) := by
  let crossed := Pairing.crossed start (one.Reaches start) (two.Reaches start) pairing pairing'
  have le : pairing ≤ crossed := fun _ _ => Or.inl
  have le' : (fun left right => pairing' right left) ≤ crossed :=
    fun _ _ refs => Or.inr (Or.inl refs)
  have likeOne : Instance.Resembles crossed (one.closing left) (one.closing right) :=
    ⟨rfl, rfl, rfl, beside.variant, beside.values.mono le, uniformOne⟩
  have likeTwo : Instance.Resembles crossed (two.closing right') (two.closing left') :=
    ⟨rfl, rfl, rfl, beside'.variant.symm, beside'.values.flip.mono le', uniformTwo⟩
  exact ((founded.resembles uniform fun old => beside.stores.value_crossed beside'.stores old).put
    likeOne).put likeTwo

/-- The stores are alike after both orders. -/
theorem stores_crossed (founded : world.Founded start)
    (finite : ∀ {name value}, one.container.values.get? name = some value → value.Finite start)
    (finite' : ∀ {name value}, two.container.values.get? name = some value → value.Finite start)
    (apart : ∀ ref, one.Reaches start ref → ¬ two.Reaches start ref) :
    Store.Resembles (.crossed start (one.Reaches start) (two.Reaches start) pairing pairing') both'
      both := by
  refine ⟨beside.stores.paired_crossed beside'.stores
    (fun ref => @Instance.Reaches.finite one start finite ref)
    (fun ref => @Instance.Reaches.finite two start finite' ref) apart, ?_⟩
  obtain ⟨kept, kept'⟩ := beside.stores.kept_crossed beside'.stores
  rw [kept, kept']
  exact .self fun has => beside.stores.value_crossed beside'.stores (founded.kept has)

/-- The same is to be rendered after both orders. -/
theorem affected_crossed
    (ids : ((world.put (one.closing right)).put (two.closing left')).ids =
      ((world.put (one.closing left)).put (two.closing right')).ids) :
    affected ⟨(world.put (one.closing right)).put (two.closing left'), both, none, []⟩ none =
      affected ⟨(world.put (one.closing left)).put (two.closing right'), both', none, []⟩ none := by
  have askedOne : AskedAlike (one.closing left) (one.closing right) :=
    ⟨rfl, rfl, beside.changeset⟩
  have askedTwo : AskedAlike (two.closing right') (two.closing left') :=
    ⟨rfl, rfl, beside'.changeset.symm⟩
  have placed := ((PlacesAskedAlike.refl world).put askedOne).put askedTwo
  refine affected_eq ids placed rfl (fun changeset => ?_) rfl
  exact NameSet.ext_mem fun name => (beside.stores.marked_crossed beside'.stores).symm

end

/-- **After either order two cycles resemble each other**, and the same is to be rendered. -/
theorem exists_resembles (alone : first.Alone world start one)
    (alone' : second.Alone world start two) (filed : world.Filed) (founded : world.Founded start)
    (distinct : one.id ≠ two.id) (apart : ∀ ref, one.Reaches start ref → ¬ two.Reaches start ref)
    (enrolled : Enrolled (one.container :: two.container :: rest) start)
    (uniform : ∀ {id component}, world.mounted.get? id = some (some component) →
      component.definition.Uniform) :
    ∃ pairing, Resembles pairing (executeAll ⟨world, start, none, []⟩ [first, second])
        (executeAll ⟨world, start, none, []⟩ [second, first]) ∧
      (executeAll ⟨world, start, none, []⟩ [second, first]).affected none =
        (executeAll ⟨world, start, none, []⟩ [first, second]).affected none := by
  have here := World.instance?_eq_ok_iff.mp alone.addressed
  have there := World.instance?_eq_ok_iff.mp alone'.addressed
  obtain ⟨pairing, pairing', left, right, left', right', single, both, single', both', _, _, beside,
    beside', done, done'⟩ := exists_orders alone alone' filed founded distinct apart enrolled
  have mem {id : String} {component : Instance} (stands : world.mounted.get? id =
      some (some component)) : component.id ∈ world.ids := by
    rw [filed stands]
    exact (OrderedMap.mem_keys_iff ..).mpr (by rw [stands]; rfl)
  have present : one.id ∈ world.ids := mem here
  have present' : two.id ∈ world.ids := mem there
  have swap : (world.put (two.closing left')).put (one.closing right) =
      (world.put (one.closing right)).put (two.closing left') :=
    (@World.put_comm _ (one.closing right) (two.closing left') distinct present present').symm
  rw [done, done', swap]
  have worlds := worlds_crossed beside beside' founded uniform (uniform here) (uniform there)
  have stores := stores_crossed beside beside' founded (founded.own here) (founded.own there) apart
  exact ⟨_, ⟨stores, worlds, rfl, rfl⟩, affected_crossed beside beside' worlds.ids⟩

end Cycle

/-! ### Sessions -/

/-- **Two cycles that resemble each other once the messages are executed** do so in the end, if the
same is to be rendered. -/
theorem Cycle.Resembles.run {pairing : Pairing} {world : World} {store : Store}
    {messages others : List SubMessage}
    (same : ((start world store).executeAll messages).Resembles pairing
      ((start world store).executeAll others))
    (affected : ((start world store).executeAll others).affected none =
      ((start world store).executeAll messages).affected none) :
    ∃ larger, (Cycle.run world (.messages messages) store).Resembles larger
      (Cycle.run world (.messages others) store) := by
  obtain ⟨larger, rendered⟩ :=
    same.renderAll [] (((start world store).executeAll messages).affected none)
  refine ⟨larger, ?_⟩
  unfold Cycle.run
  simp only [perform, newcomer?, affected]
  exact { rendered with
    stores := rendered.stores.retain (World.retains_resetChanges ..)
      (World.retains_resetChanges ..) }

namespace World

variable {world : World} {store stored : Store} {one two : Instance} {id known : String}

/-- The containers of two components are among those whose accounts are in order. -/
theorem Chartered.exists_enrolled {classes : ComponentDef → Prop}
    (chartered : world.Chartered classes [] store) (here : world.mounted.get? id = some (some one))
    (there : world.mounted.get? known = some (some two)) (distinct : id ≠ known) :
    ∃ rest, Enrolled (one.container :: two.container :: rest) store := by
  have left : (world.mounted.erase id).get? known = some (some two) := by
    rw [OrderedMap.get?_erase_of_ne _ distinct.symm]
    exact there
  let others := standing ((world.mounted.erase id).erase known)
  have all : (standing world.mounted).Perm (one.tenant :: two.tenant :: others) :=
    (standing_of_get? here).trans ((standing_of_get? left).cons _)
  refine ⟨world.shared :: others.map Prod.snd, chartered.chartered.enrolled.perm ?_⟩
  calc [one.container, two.container] ++ world.shared :: others.map Prod.snd
    _ |>.Perm (world.shared :: ([one.container, two.container] ++ others.map Prod.snd)) :=
      List.perm_middle
    _ |>.Perm (world.shared :: (standing world.mounted).map Prod.snd) :=
      ((all.map Prod.snd).cons world.shared).symm

theorem Founded.retain (founded : world.Founded store) (retains : store.Retains stored) :
    world.Founded stored where
  values has := (founded.values has).extend retains.toExtends
  identity has := (founded.identity has).extend retains.toExtends
  kept {name value} has := by
    rw [retains.kept] at has
    exact (founded.kept has).extend retains.toExtends

/-- The variables of sessions that resemble each other are paired, wherever they are. -/
theorem Resembles.value? {pairing : Pairing} {other : World} (same : world.Resembles pairing other)
    (site : Site) (name : String) :
    Option.Rel (Value.Paired pairing) (world.value? site name) (other.value? site name) := by
  cases site with
  | none => exact same.shared name
  | some id =>
    have place := same.places id
    simp only [World.value?, World.container?]
    generalize world.mounted.get? id = here, other.mounted.get? id = there at place ⊢
    cases place with
    | none => exact .none
    | some place =>
      cases place with
      | none => exact .none
      | some like => exact like.container name

end World

namespace Session

/-- The store in which a batch begins: nothing is marked. -/
def beginning (session : Session) : Store := session.world.resetChanges session.store

/-- **Sessions with the same components, markup and variables**: a node of the one stands for a node
of the other that holds the same. -/
structure Alike (left right : Session) : Prop where
  componentIds : right.componentIds = left.componentIds
  html : ∀ id, right.html id = left.html id
  values : ∃ pairing, Store.Paired pairing left.store right.store ∧ ∀ site name,
    Option.Rel (Value.Paired pairing) (left.world.value? site name) (right.world.value? site name)

theorem alike_of_resembles {pairing : Pairing} {left right : Session}
    (worlds : left.world.Resembles pairing right.world)
    (stores : Store.Resembles pairing left.store right.store) : Alike left right where
  componentIds := worlds.ids
  html id := by
    have standing := worlds.instance? id
    unfold Session.html
    generalize left.world.instance? id = here, right.world.instance? id = there at standing ⊢
    cases standing with
    | error error => rfl
    | ok like =>
      simp only [Except.map]
      rw [like.view]
  values := ⟨pairing, stores.paired, worlds.value?⟩

/-- **The order of two messages does not matter**: the session ends with the same components, the same
markup and the same variables, and the same is sent in the same order. -/
structure Commute (session : Session) (first second : SubMessage) : Prop where
  result : (session.handle [second, first]).result = (session.handle [first, second]).result
  sent : (session.handle [second, first]).sent = (session.handle [first, second]).sent
  alike : Alike (session.handle [first, second]).session (session.handle [second, first]).session

/-- **Independent messages commute**: two messages that succeed, and that have to do with nothing but
their own components, different ones which share no node. -/
theorem handle_comm (config : Config) {entries : List Entry}
    (programmed : ∀ entry ∈ entries, entry.Programmed) {session : Session}
    (is : reached config entries = session) (founded : session.world.Founded session.store)
    (uniform : ∀ {id component}, session.world.mounted.get? id = some (some component) →
      component.definition.Uniform) {first second : SubMessage} {one two : Instance}
    (alone : first.Alone session.world session.beginning one)
    (alone' : second.Alone session.world session.beginning two)
    (distinct : first.component ≠ second.component)
    (apart : ∀ ref, one.Reaches session.beginning ref → ¬ two.Reaches session.beginning ref) :
    session.Commute first second := by
  have chartered := (chartered_reached config programmed).resetChanges
  rw [is] at chartered
  have here := World.instance?_eq_ok_iff.mp alone.addressed
  have there := World.instance?_eq_ok_iff.mp alone'.addressed
  obtain ⟨rest, enrolled⟩ := chartered.exists_enrolled here there distinct
  have apartIds : one.id ≠ two.id := by
    rw [chartered.filed here, chartered.filed there]
    exact distinct
  obtain ⟨pairing, same, affected⟩ := Cycle.exists_resembles alone alone' chartered.filed
    (founded.retain (World.retains_resetChanges ..)) apartIds apart enrolled uniform
  obtain ⟨larger, cycles⟩ := same.run affected
  cases closed : session.closed with
  | true =>
    have self {value : Value} := @Value.Finite.paired value session.store
    have alike : Alike session session := alike_of_resembles (founded.resembles uniform self)
      ⟨Store.Paired.self (.refl _), .self fun has => self (founded.kept has)⟩
    constructor <;> simp only [handle, run, closed, if_true, refuse]
    exact alike
  | false =>
    constructor <;> simp only [handle, run, closed, Bool.false_eq_true, if_false, flush]
    · rw [resultOf, resultOf, cycles.failure]
    · exact cycles.worlds.outgoing
    · exact alike_of_resembles { cycles.worlds with outgoing := rfl } cycles.stores

end Session

/-! ### Messages that are independent -/

/-- Whether no value is the handle of a node. -/
def OrderedMap.isScalar (values : OrderedMap String Value) : Bool :=
  values.values.all fun value => value.ref?.isNone

theorem OrderedMap.finite_of_isScalar {values : OrderedMap String Value}
    (scalar : values.isScalar = true) {store : Store} {name : String} {value : Value}
    (has : values.get? name = some value) : value.Finite store := by
  intro ref handle
  have plain := List.all_eq_true.mp scalar value ((mem_values_iff ..).mpr ⟨name, has⟩)
  rw [handle] at plain
  cases plain

/-- Whether these are all the nodes that hang on the variables of a component. -/
def Instance.isWithin (component : Instance) (store : Store) (refs : List Ref) : Bool :=
  (component.container.values.values.all fun value => value.ref?.all refs.contains) &&
    refs.all fun ref => (store.content ref).values.all fun value => value.ref?.all refs.contains

theorem Instance.Reaches.mem_of_isWithin {component : Instance} {store : Store} {refs : List Ref}
    {ref : Ref} (reaches : component.Reaches store ref)
    (within : component.isWithin store refs = true) : ref ∈ refs := by
  obtain ⟨tops, closed⟩ := Bool.and_eq_true_iff.mp within
  obtain ⟨name, value, found, top, handle, below⟩ := reaches
  have known {value : Value} {ref : Ref} (all : value.ref?.all refs.contains = true)
      (handle : value.ref? = some ref) : ref ∈ refs := by
    rw [handle] at all
    exact List.contains_iff_mem.mp all
  induction below using Relation.ReflTransGen.head_induction_on with
  | refl =>
    exact known (List.all_eq_true.mp tops value ((OrderedMap.mem_values_iff ..).mpr ⟨name, found⟩))
      handle
  | head held _ ih =>
    obtain ⟨part, member, handle⟩ := held
    exact known (List.all_eq_true.mp (List.all_eq_true.mp closed _ ih) part member) handle

namespace Session

/-- Whether two messages for different components are executed in a session, where these nodes are all
that hang on the variables of the one and of the other component. -/
def areApart (session : Session) (first second : SubMessage) (refs others : List Ref) : Bool :=
  decide (first.component ≠ second.component) && (refs.all fun ref => !others.contains ref) &&
  (Cycle.execute session.world first session.beginning).1.isOk &&
  (Cycle.execute session.world second session.beginning).1.isOk &&
  match session.world.instance? first.component, session.world.instance? second.component with
  | .ok one, .ok two =>
    one.isWithin session.beginning refs && two.isWithin session.beginning others
  | _, _ => false

theorem exists_of_areApart {session : Session} {first second : SubMessage} {refs others : List Ref}
    (apart : session.areApart first second refs others = true)
    (own : ∀ {id component}, session.world.mounted.get? id = some (some component) →
      first.Own component.definition ∧ second.Own component.definition) :
    ∃ one two, first.Private session.world session.beginning one ∧
      second.Private session.world session.beginning two ∧ first.component ≠ second.component ∧
      ∀ ref, one.Reaches session.beginning ref → ¬ two.Reaches session.beginning ref := by
  have succeeds {result : Except Error Unit} (done : result.isOk = true) : result = .ok () := by
    cases result with
    | ok _ => rfl
    | error _ => cases done
  simp only [areApart, Bool.and_eq_true, decide_eq_true_eq] at apart
  obtain ⟨⟨⟨⟨distinct, separate⟩, done⟩, done'⟩, apart⟩ := apart
  split at apart
  · next one two here there =>
    rw [Bool.and_eq_true] at apart
    refine ⟨one, two,
      ⟨here, (own (World.instance?_eq_ok_iff.mp here)).1, succeeds done⟩,
      ⟨there, (own (World.instance?_eq_ok_iff.mp there)).2, succeeds done'⟩, distinct, ?_⟩
    intro ref left right
    have free := List.all_eq_true.mp separate ref (left.mem_of_isWithin apart.1)
    rw [List.contains_iff_mem.mpr (right.mem_of_isWithin apart.2)] at free
    cases free
  · cases apart

/-- A page that shows a variable of its own. -/
def slate : Draft :=
  ((Draft.empty "Page").addReactive "x" (.literal (.int 0))).addTemplate standardVariant "<%= x %>"

/-- Whether no value of a session is the handle of a node. -/
def isScalar (session : Session) : Bool :=
  session.world.shared.values.isScalar && session.world.identity.isScalar &&
  session.store.kept.isScalar &&
  session.world.mounted.values.all fun place =>
    place.all fun component => component.container.values.isScalar

theorem founded_of_isScalar {session : Session} (scalar : session.isScalar = true) :
    session.world.Founded session.store := by
  simp only [isScalar, Bool.and_eq_true] at scalar
  obtain ⟨⟨⟨shared, identity⟩, kept⟩, own⟩ := scalar
  refine ⟨fun {site name value} has => ?_, OrderedMap.finite_of_isScalar identity,
    OrderedMap.finite_of_isScalar kept⟩
  obtain ⟨container, standing, has⟩ := World.value?_eq_some_iff.mp has
  refine OrderedMap.finite_of_isScalar ?_ has
  cases site with
  | none =>
    cases standing
    exact shared
  | some id =>
    obtain ⟨component, there, rfl⟩ := World.exists_of_container? standing
    have all := List.all_eq_true.mp own _ ((OrderedMap.mem_values_iff ..).mpr ⟨id, there⟩)
    exact all

theorem uniform_slate {page : ComponentDef} (ok : slate.build = .ok page) :
    page.Uniform ∧ ∀ {name default}, page.declared.reactive.get? name = some default →
      default.Uniform False := by
  obtain ⟨_, _, templates, _, rfl⟩ := ComponentDef.eq_of_build ok
  have own (keeps : Prop) {name : String} {default : VarDefault}
      (found : slate.reactive.get? name = some default) : default.Uniform keeps := by
    rcases get?_insert_eq_some found with ⟨_, rfl⟩ | ⟨_, none⟩
    · exact VarDefault.uniform_literal keeps _
    · cases none
  refine ⟨.intro (fun found => ?_) (fun found => by cases found) (fun found => by cases found),
    own False⟩
  rcases Option.or_eq_some_iff.mp found with found | ⟨_, none⟩
  · exact own True found
  · cases none

/-- Lists are assigned to the variables of two pages. -/
theorem handle_comm_of_slates : ∃ (page : ComponentDef) (session : Session) (one two : Instance),
    reached Config.default [.mount "b" page, .mount "a" page] = session ∧
    (∀ entry ∈ [Entry.mount "b" page, .mount "a" page], entry.Programmed) ∧
    session.world.Founded session.store ∧
    (∀ {id component}, session.world.mounted.get? id = some (some component) →
      component.definition.Uniform) ∧
    (SubMessage.assign "a" "x" (.array [.int 1])).Alone session.world session.beginning one ∧
    (SubMessage.assign "b" "x" (.array [.int 2])).Alone session.world session.beginning two ∧
    (∀ ref, one.Reaches session.beginning ref → ¬ two.Reaches session.beginning ref) ∧
    session.Commute (.assign "a" "x" (.array [.int 1])) (.assign "b" "x" (.array [.int 2])) ∧
    (session.handle [.assign "b" "x" (.array [.int 2]), .assign "a" "x" (.array [.int 1])]).sent =
      [⟨"a", .render [some "[1]"]⟩, ⟨"b", .render [some "[2]"]⟩] := by
  have checked : ComponentDef.isBuiltTo slate.build (fun page => page.isChildless &&
      (reached Config.default [.mount "b" page, .mount "a" page]).isScalar &&
      (reached Config.default [.mount "b" page, .mount "a" page]).areApart
        (.assign "a" "x" (.array [.int 1])) (.assign "b" "x" (.array [.int 2])) [] [] &&
      decide (((reached Config.default [.mount "b" page, .mount "a" page]).handle
        [.assign "b" "x" (.array [.int 2]), .assign "a" "x" (.array [.int 1])]).sent =
          [⟨"a", .render [some "[1]"]⟩, ⟨"b", .render [some "[2]"]⟩])) = true := by decide +kernel
  obtain ⟨page, built, passes⟩ := ComponentDef.exists_of_isBuiltTo checked
  simp only [Bool.and_eq_true, decide_eq_true_eq] at passes
  obtain ⟨⟨⟨childless, scalar⟩, apart⟩, sent⟩ := passes
  have faithful := ComponentDef.faithful_of_build built rfl rfl
    (ComponentDef.childless_of_isChildless childless)
  have pages : (reached Config.default [.mount "b" page, .mount "a" page]).world.Of (· = page) :=
    of_reached (by rintro _ rfl; exact faithful.toSolitary) fun id definition member => by
      simp only [List.mem_cons, Entry.mount.injEq, List.not_mem_nil, or_false] at member
      exact member.elim And.right And.right
  obtain ⟨uniform, fresh⟩ := uniform_slate built
  have foreign : page.isShared "x" = false := by
    obtain ⟨_, _, templates, _, rfl⟩ := ComponentDef.eq_of_build built
    rfl
  obtain ⟨one, two, first, second, distinct, apart⟩ := exists_of_areApart apart fun there => by
    cases pages there
    exact ⟨foreign, foreign⟩
  have programmed : ∀ entry ∈ [Entry.mount "b" page, .mount "a" page], entry.Programmed := by
    simp [Entry.Programmed]
  have founded := founded_of_isScalar scalar
  have classes {id : String} {component : Instance} (there : (reached Config.default
      [.mount "b" page, .mount "a" page]).world.mounted.get? id = some (some component)) :
      component.definition = page := pages there
  have alone : SubMessage.Alone _ _ one (.assign "a" "x" (.array [.int 1])) :=
    ⟨first, classes (World.instance?_eq_ok_iff.mp first.addressed) ▸ fresh, trivial⟩
  have alone' : SubMessage.Alone _ _ two (.assign "b" "x" (.array [.int 2])) :=
    ⟨second, classes (World.instance?_eq_ok_iff.mp second.addressed) ▸ fresh, trivial⟩
  have all {id : String} {component : Instance} (there : (reached Config.default
      [.mount "b" page, .mount "a" page]).world.mounted.get? id = some (some component)) :
      component.definition.Uniform := classes there ▸ uniform
  exact ⟨page, _, one, two, rfl, programmed, founded, all, alone, alone', apart,
    handle_comm Config.default programmed rfl founded all alone alone' distinct apart, sent⟩

/-! ### Code that tells the orders apart -/

/-- **Messages that have to do with different components**, which share no node, may come in either
order, in any session with components of some kind. -/
def Commuting (kind : ComponentDef → Prop) : Prop :=
  ∀ (config : Config) (entries : List Entry) (session : Session) (first second : SubMessage)
    (one two : Instance), (∀ entry ∈ entries, entry.Programmed) → reached config entries = session →
    session.world.Of kind → first.Private session.world session.beginning one →
    second.Private session.world session.beginning two → first.component ≠ second.component →
    (∀ ref, one.Reaches session.beginning ref → ¬ two.Reaches session.beginning ref) →
    session.Commute first second

/-- Whether two messages for components that share no node are executed, and something else is sent in
the other order. -/
def areOrdered (session : Session) (first second : SubMessage) (refs others : List Ref) : Bool :=
  session.areApart first second refs others &&
    decide ((session.handle [second, first]).sent ≠ (session.handle [first, second]).sent)

/-- Where something else is sent in the other order, the class of the components is to blame. -/
theorem not_commuting_of_areOrdered {kind : ComponentDef → Prop} {page : ComponentDef}
    (solitary : page.Solitary) (given : kind page) {entries : List Entry}
    (programmed : ∀ entry ∈ entries, entry.Programmed)
    (mounted : ∀ id definition, .mount id definition ∈ entries → definition = page)
    {first second : SubMessage} (own : first.Own page) (own' : second.Own page)
    {refs others : List Ref}
    (ordered : (reached Config.default entries).areOrdered first second refs others = true) :
    ¬ Commuting kind := by
  intro commuting
  simp only [areOrdered, Bool.and_eq_true, decide_eq_true_eq] at ordered
  obtain ⟨apart, differ⟩ := ordered
  have pages : (reached Config.default entries).world.Of (· = page) :=
    of_reached (by rintro _ rfl; exact solitary) mounted
  obtain ⟨one, two, alone, alone', distinct, separate⟩ := exists_of_areApart apart fun there => by
    cases pages there
    exact ⟨own, own'⟩
  exact differ (commuting Config.default entries _ first second one two programmed rfl
    (fun _ _ there => pages there ▸ given) alone alone' distinct separate).sent

theorem own_of_action? {definition : ComponentDef} {name : String} {code : ActionCode}
    (found : definition.action? name = some (.plain code)) (own : code.Own definition)
    (id : String) : SubMessage.Own definition (.action id name none) := by
  intro action same
  cases found.symm.trans same
  exact own

/-- Code that takes a ticket. -/
def taking : ActionCode := fun _ => .ask (.get "n") fun
  | .ok ticket => .ask (.set "x" ticket) fun _ => .done (.ok ())
  | .error error => .done (.error (.error error))

/-- A page that takes a ticket and shows it. -/
def clerk : Draft := ((((Draft.empty "Page").addReactive "n" (.factory ticket)).addReactive "x"
  .absent).addAction "take" (.plain taking)).addTemplate standardVariant "<%= x %>"

theorem own_taking {definition : ComponentDef} (ticket : definition.isShared "n" = false)
    (shown : definition.isShared "x" = false) : ActionCode.Own definition taking := by
  intro σ τ left right Alike upheld answers owner pairing l r alike _
  obtain ⟨larger, le, alike, found⟩ := answers alike (.get ticket)
  simp only [taking, Program.run]
  generalize left (.get "n") l.1 l.2 = answer, right (.get "n") r.1 r.2 = other at alike found ⊢
  obtain ⟨answer, here⟩ := answer
  obtain ⟨other, there⟩ := other
  cases found with
  | error error => exact ⟨larger, le, alike, rfl⟩
  | ok values =>
    obtain ⟨largest, more, alike, _⟩ := answers alike (.set shown values)
    exact ⟨largest, le.trans more, alike, rfl⟩

/-- Code that adds to a list of the component. -/
def growing : ActionCode := fun _ => .ask (.get "x") fun
  | .ok (.list list) => .perform (.listPush list (.int 1)) fun _ => .done (.ok ())
  | _ => .done (.ok ())

theorem own_growing {definition : ComponentDef} (own : definition.isShared "x" = false) :
    ActionCode.Own definition growing := by
  intro σ τ left right Alike upheld answers owner pairing l r alike finite
  obtain ⟨larger, le, alike, found⟩ := answers alike (.get own)
  simp only [growing, Program.run, Program.KeepsFinite] at finite ⊢
  generalize left (.get "x") l.1 l.2 = answer, right (.get "x") r.1 r.2 = other
    at alike found finite ⊢
  obtain ⟨answer, here⟩ := answer
  obtain ⟨other, there⟩ := other
  have paired := upheld.paired alike
  cases found with
  | error error => exact ⟨larger, le, alike, rfl⟩
  | @ok held _ values =>
    cases values with
    | list refs =>
      have one : Value.Paired larger (.int 1) (.int 1) := .scalar rfl
      have items := List.rel_append (paired.items refs) (.cons one .nil)
      exact ⟨larger, le, upheld.mutate alike refs (.list items) (finite.1 (paired.finiteLeft refs)),
        rfl⟩
    | scalar plain =>
      cases held with
      | list list => cases plain
      | _ => exact ⟨larger, le, alike, rfl⟩
    | map refs | record refs => exact ⟨larger, le, alike, rfl⟩

/-- Code that assigns a variable of the component. -/
def assigning (value : Value) : ActionCode := fun _ => .ask (.set "x" value) fun _ => .done (.ok ())

theorem own_assigning {definition : ComponentDef} (own : definition.isShared "x" = false)
    {value : Value} (plain : value.ref? = none) : ActionCode.Own definition (assigning value) := by
  intro σ τ left right Alike upheld answers owner pairing l r alike _
  obtain ⟨larger, le, alike, _⟩ := answers alike (.set own (.scalar plain))
  exact ⟨larger, le, alike, rfl⟩

/-- A helper that looks how many watch a list of the component. -/
def watching : HelperCode := fun _ _ => .ask (.get "x") fun
  | .ok (.list list) => .look fun store =>
    .done (.ok (.int (Int64.ofNat (store.bindings list).length)))
  | .ok _ => .done (.ok .nil)
  | .error error => .done (.error (.error error))

/-- A page that shows how many watch its list. -/
def watched : Draft := (((((Draft.empty "Page").addReactive "x" .absent).addHelper "peek"
  watching).addAction "grow" (.plain growing)).addAction "drop" (.plain
    (assigning .nil))).addTemplate standardVariant "<%= peek() %>"

/-- A list in a list. -/
def nested : Program Empty Unit :=
  .perform (.newList []) fun _ => .perform (.newList [.list 0]) fun _ => .done ()

/-- The inner list is read, and taken out. -/
def parted : Program Empty Unit :=
  .perform (.listFirst 1) fun _ => .perform (.listPop 1) fun _ => .done ()

/-- What is done outside of a session by a program. -/
def outside (program : Program Empty Unit) : Entry :=
  .outside fun store => (program.runAlone store).2

/-- The one page holds a list that was once in the list of the other page. -/
def handed (page : ComponentDef) : List Entry :=
  [.external "a" (assigning (.list 0)), outside parted, .external "b" (assigning (.list 1)),
    .mount "b" page, .mount "a" page, outside nested]

theorem solitary_watched {page : ComponentDef} (ok : watched.build = .ok page)
    (childless : page.isChildless = true) : page.Solitary := by
  have childless := @ComponentDef.childless_of_isChildless page childless
  obtain ⟨_, _, templates, _, rfl⟩ := ComponentDef.eq_of_build ok
  refine ⟨.intro ok fun found => (by cases found), fun {name helper} found owner arguments => ?_,
    childless⟩
  rcases get?_insert_eq_some found with ⟨_, rfl⟩ | ⟨_, none⟩
  · intro answer
    cases answer with
    | error error => trivial
    | ok value =>
      cases value with
      | list list => exact fun _ => trivial
      | _ => trivial
  · cases none

/-- **Pages that take tickets** get them in the order of the messages. And a page that looks how many
watch its list counts another page, which has given up its variable, unless the list has been written
to since then. -/
theorem not_commuting :
    (¬ Commuting fun definition => ∀ name helper,
      definition.declared.helpers.get? name = some helper → HelperCode.Uniform helper) ∧
    ¬ Commuting fun definition => ∀ name default,
      definition.default? name = some default → default.Uniform False := by
  constructor
  · have checked : ComponentDef.isBuiltTo clerk.build (fun page => page.isChildless &&
        (reached Config.default [.mount "b" page, .mount "a" page, prepared]).areOrdered
          (.action "a" "take" none) (.action "b" "take" none) [] []) = true := by decide +kernel
    obtain ⟨page, built, passes⟩ := ComponentDef.exists_of_isBuiltTo checked
    obtain ⟨childless, ordered⟩ := Bool.and_eq_true_iff.mp passes
    have faithful := ComponentDef.faithful_of_build built rfl rfl
      (ComponentDef.childless_of_isChildless childless)
    have programmed : ∀ entry ∈ [Entry.mount "b" page, .mount "a" page, prepared],
        entry.Programmed := by
      simp only [List.forall_mem_cons]
      exact ⟨trivial, trivial, ⟨.perform (.newList []) fun _ => .done (), fun _ => rfl⟩, by simp⟩
    have mounted (id : String) (definition : ComponentDef) (member : .mount id definition ∈
        [Entry.mount "b" page, .mount "a" page, prepared]) : definition = page := by
      simp only [prepared, List.mem_cons, Entry.mount.injEq, reduceCtorEq, List.not_mem_nil,
        or_false] at member
      exact member.elim And.right And.right
    obtain ⟨_, _, templates, _, rfl⟩ := ComponentDef.eq_of_build built
    exact not_commuting_of_areOrdered faithful.toSolitary (fun _ _ found => by cases found)
      programmed mounted (own_of_action? rfl (own_taking rfl rfl) "a")
      (own_of_action? rfl (own_taking rfl rfl) "b") ordered
  · have checked : ComponentDef.isBuiltTo watched.build (fun page => page.isChildless &&
        (reached Config.default (handed page)).areOrdered (.action "a" "grow" none)
          (.action "b" "drop" none) [0] [1]) = true := by decide +kernel
    obtain ⟨page, built, passes⟩ := ComponentDef.exists_of_isBuiltTo checked
    obtain ⟨childless, ordered⟩ := Bool.and_eq_true_iff.mp passes
    have solitary := solitary_watched built childless
    have programmed : ∀ entry ∈ handed page, entry.Programmed := by
      simp only [handed, List.forall_mem_cons]
      exact ⟨trivial, ⟨_, fun _ => rfl⟩, trivial, trivial, trivial, ⟨_, fun _ => rfl⟩, by simp⟩
    have mounted (id : String) (definition : ComponentDef)
        (member : .mount id definition ∈ handed page) : definition = page := by
      simp only [handed, outside, List.mem_cons, Entry.mount.injEq, reduceCtorEq, List.not_mem_nil,
        or_false, false_or] at member
      exact member.elim And.right And.right
    obtain ⟨_, _, templates, _, rfl⟩ := ComponentDef.eq_of_build built
    refine not_commuting_of_areOrdered solitary (fun name default found => ?_) programmed mounted
      (own_of_action? rfl (own_growing rfl) "a")
      (own_of_action? rfl (own_assigning rfl rfl) "b") ordered
    rcases Option.or_eq_some_iff.mp found with found | ⟨_, none⟩
    · rcases get?_insert_eq_some found with ⟨_, rfl⟩ | ⟨_, none⟩
      · exact VarDefault.uniform_absent False
      · cases none
    · cases none

end Session

end ReactiveView
