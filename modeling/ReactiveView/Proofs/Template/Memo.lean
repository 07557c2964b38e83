/-
**The memo of templates is transparent.**

Whatever was requested before, with a fault or not, a request is answered as if its source was
compiled now, and the memo keeps under each class and variant the template of the last request that
compiled. What is kept under a class and a variant is always what its source compiles to under them,
so a kept template with the source of a request is the one that compiling would give.

* `Cache.Sound`, `Cache.Sound.take` — what is kept is what its source compiles to.
* `Cache.Sound.answer`, `Cache.Sound.kept` — what one request answers and leaves.
* `Cache.sound_after` — a memo is sound after any requests.
* `Cache.transparent` — what any requests lead to.
-/

import ReactiveView.Template.Cache

namespace ReactiveView.Template

/-- A request for the template of a source under a class and a variant. -/
structure Request where
  className : String
  variant : String
  source : String

namespace Request

/-- The key that a request asks for. -/
def key (request : Request) : String × String := (request.className, request.variant)

/-- The source of a request compiled afresh. -/
def fresh (request : Request) : Except TemplateError Template :=
  compile request.className request.variant request.source

/-- What a request leaves under a key, if anything. -/
def under? (request : Request) (key : String × String) : Option Template :=
  if request.key = key then request.fresh.toOption else none

theorem under?_eq_some {request : Request} {key : String × String} {template : Template} :
    request.under? key = some template ↔ request.key = key ∧ request.fresh = .ok template := by
  unfold under?
  split
  · next same => cases request.fresh <;> simp [same, Except.toOption]
  · next other => simp [other]

/-- **What is compiled is of the class, the variant and the source of the request.** -/
theorem fields_of_fresh {request : Request} {template : Template}
    (compiled : request.fresh = .ok template) :
    template.className = request.className ∧ template.variant = request.variant ∧
      template.source = request.source := by
  unfold fresh compile at compiled
  simp only at compiled
  split at compiled
  · cases compiled
  · cases compiled
    exact ⟨rfl, rfl, rfl⟩

end Request

namespace Cache

/-- What a request answers, and the memo after it. -/
def take (cache : Cache) (request : Request) : Except TemplateError Compiled × Cache :=
  cache.getOrCompile request.className request.variant request.source

/-- The memo after some requests, the last one first. -/
def after : List Request → Cache
  | [] => empty
  | request :: earlier => ((after earlier).take request).2

/-- The template that is kept under a key. -/
def kept? (cache : Cache) (key : String × String) : Option Template :=
  (cache.get? key.1 key.2).map Compiled.template

/-- What is kept under a key is what its source compiles to under it. -/
def Sound (cache : Cache) : Prop :=
  ∀ key template, cache.kept? key = some template →
    compile key.1 key.2 template.source = .ok template

theorem sound_empty : empty.Sound := by
  intro key template kept
  cases kept

variable {cache : Cache} {request : Request}

/-- A template that is found for a request is what its source compiles to. -/
theorem Sound.fresh_of_lookup? (sound : cache.Sound) {compiled : Compiled}
    (found : cache.lookup? request.className request.variant request.source = some compiled) :
    cache.kept? request.key = some compiled.template ∧ request.fresh = .ok compiled.template := by
  obtain ⟨kept, same⟩ := Option.filter_eq_some_iff.mp found
  have holds : cache.kept? request.key = some compiled.template :=
    Option.map_eq_some_iff.mpr ⟨compiled, kept, rfl⟩
  have fresh := sound _ _ holds
  rw [eq_of_beq same] at fresh
  exact ⟨holds, fresh⟩

/-- **A request is answered as if its source was compiled now.** -/
theorem Sound.answer (sound : cache.Sound) :
    (cache.take request).1.map Compiled.template = request.fresh := by
  unfold take getOrCompile
  split
  · next compiled found => exact (sound.fresh_of_lookup? found).2.symm
  · rw [Request.fresh]
    cases compile request.className request.variant request.source <;> rfl

/-- **A request leaves its template under its key**, if it compiles, and all else as it was. -/
theorem Sound.kept (sound : cache.Sound) (key : String × String) :
    (cache.take request).2.kept? key = (request.under? key).or (cache.kept? key) := by
  unfold take getOrCompile
  split
  · next compiled found =>
    obtain ⟨holds, fresh⟩ := sound.fresh_of_lookup? found
    by_cases same : request.key = key
    · rw [Request.under?_eq_some.mpr ⟨same, fresh⟩, Option.some_or, ← same]
      exact holds
    · rw [Request.under?, if_neg same, Option.none_or]
  · rw [← Request.fresh]
    cases fresh : request.fresh with
    | error =>
      have none : request.under? key = none := by
        rw [Request.under?, fresh]
        exact ite_self _
      rw [none, Option.none_or]
    | ok template =>
      by_cases same : request.key = key
      · rw [Request.under?_eq_some.mpr ⟨same, fresh⟩, Option.some_or, ← same, kept?, get?]
        exact congrArg (Option.map Compiled.template) (OrderedMap.get?_insert_self ..)
      · rw [Request.under?, if_neg same, Option.none_or]
        exact congrArg (Option.map Compiled.template)
          (OrderedMap.get?_insert_of_ne _ (Ne.symm same) _)

/-- A request that does not compile leaves the memo as it was. -/
theorem take_of_fault {fault : TemplateError} (faulty : request.fresh = .error fault) :
    (cache.take request).2 = cache := by
  unfold take getOrCompile
  split
  · rfl
  · rw [← Request.fresh, faulty]

theorem Sound.take (sound : cache.Sound) : (cache.take request).2.Sound := by
  intro key template kept
  rw [sound.kept] at kept
  rcases Option.or_eq_some_iff.mp kept with left | ⟨_, earlier⟩
  · obtain ⟨rfl, fresh⟩ := Request.under?_eq_some.mp left
    rw [(Request.fields_of_fresh fresh).2.2]
    exact fresh
  · exact sound key template earlier

/-- **What is kept is what its source compiles to**, after any requests. -/
theorem sound_after (history : List Request) : (after history).Sound := by
  induction history with
  | nil => exact sound_empty
  | cons request earlier ih => exact ih.take

/-- The template of the last request for a key that compiles. -/
def last? (history : List Request) (key : String × String) : Option Template :=
  history.findSome? (·.under? key)

theorem kept?_after (history : List Request) (key : String × String) :
    (after history).kept? key = last? history key := by
  induction history with
  | nil => rfl
  | cons request earlier ih =>
    rw [after, (sound_after earlier).kept, ih, last?, last?, List.findSome?_cons]
    cases request.under? key <;> rfl

/-- **The keys of a memo** are those of the requests that compile. -/
theorem mem_keys_after (history : List Request) (key : String × String) :
    key ∈ (after history).entries.keys ↔
      ∃ request ∈ history, ∃ template, request.key = key ∧ request.fresh = .ok template := by
  have present : ((after history).kept? key).isSome = ((after history).entries.get? key).isSome :=
    Option.isSome_map
  rw [OrderedMap.mem_keys_iff, ← present, kept?_after, last?, List.findSome?_isSome_iff]
  simp only [Option.isSome_iff_exists, Request.under?_eq_some]

/--
**The memo is transparent.** After any requests one more is answered, with a template or a fault, as
its source compiles now; a template is of its class, its variant and its source; a fault leaves the
memo as it was; and then the memo keeps, for exactly the keys of requests that compile, the template
of the last of them.
-/
theorem transparent (history : List Request) (request : Request) :
    ((after history).take request).1.map Compiled.template = request.fresh ∧
    (∀ compiled, ((after history).take request).1 = .ok compiled →
      compiled.template.className = request.className ∧
        compiled.template.variant = request.variant ∧
        compiled.template.source = request.source) ∧
    (∀ fault, ((after history).take request).1 = .error fault →
      ((after history).take request).2 = after history) ∧
    ∀ key,
      (key ∈ ((after history).take request).2.entries.keys ↔
        ∃ earlier ∈ request :: history,
          ∃ template, earlier.key = key ∧ earlier.fresh = .ok template) ∧
      ((after history).take request).2.kept? key = last? (request :: history) key := by
  have answer : ((after history).take request).1.map Compiled.template = request.fresh :=
    (sound_after history).answer
  refine ⟨answer, fun compiled found => ?_, fun fault found => ?_, fun key =>
    ⟨mem_keys_after (request :: history) key, kept?_after (request :: history) key⟩⟩
  · rw [found] at answer
    exact Request.fields_of_fresh answer.symm
  · rw [found] at answer
    exact take_of_fault answer.symm

/-- A source with a fault does not take the place of the template that is kept. -/
example :
    ((after [⟨"Page", "html", "<% if %>"⟩, ⟨"Page", "html", "b"⟩, ⟨"Page", "html", "a"⟩]).kept?
      ("Page", "html")).map Template.source = some "b" := by
  decide +kernel

end Cache

end ReactiveView.Template
