/-
**The limits of a rendering hold.**

A rendering never begins more loop bodies than it may, all its parts together, and no part puts out more
bytes than it may. Where the rendering without these limits would do so before any other error, the
rendering fails there: the error names the part and the limit. Otherwise the limits change nothing.

* `Fits.of_prefix` — what is noted first fits if all that is noted fits.
* `limits_of_render` — what the limits make of a rendering.
-/

import ReactiveView.Proofs.Render.Faithful

namespace ReactiveView.Render

variable {σ : Type}

theorem Fits.of_prefix {config : Config} {front entries : List Entry} (fits : Fits config entries)
    (within : front <+: entries) : Fits config front := by
  obtain ⟨back, rfl⟩ := within
  refine ⟨?_, fun part => ?_⟩
  · have runs := fits.runs
    rw [turns_append] at runs
    omega
  · have output := fits.output part
    rw [ofPart_append, bytes_append] at output
    omega

/--
**The limits of a rendering hold**, whether or not it succeeds, and whether it is dense or sparse.

* What it notes fits: no more loop bodies are begun in all its parts than there may be, and no part puts
  out more bytes than it may.
* So no slot of a dynamic part is longer than the limit.
* If without limits it would note what does not fit, there is a first entry that does not, and the
  rendering fails with an error that names the part of this entry and the limit.
* If without limits all that it notes fits, it is the same with and without limits.
-/
theorem limits_of_render (template : Template) (dirty : Dirty) (view : ClientView) (scope : Scope σ)
    (config : Config) (world : σ) (store : Store) :
    let result := (render template dirty view scope config world store).1
    let lifted := journal .lifted template dirty view scope config world store
    Fits config (journal .kept template dirty view scope config world store) ∧
      (∀ (rendered : Rendered) (place : Nat) (part : DynamicPart) (html : String),
        result = .ok rendered → template.parts[place]? = some (.dynamic part) →
        rendered.markup[place]? = some (some html) → html.utf8ByteSize ≤ config.maxOutputLength) ∧
      (¬ Fits config lifted → ∃ front entry part, front ++ [entry] <+: lifted ∧ Fits config front ∧
        ¬ Fits config (front ++ [entry]) ∧ template.parts[entry.part]? = some (.dynamic part) ∧
        result = .error (.render entry.part part.source (overrun config entry.event))) ∧
      (Fits config lifted → journaled .kept template dirty view scope config world store =
        journaled .lifted template dirty view scope config world store) := by
  intro result lifted
  have limited := (tells_journal template dirty view scope config world store).limited fits_nil
  have fits : Fits config (journal .kept template dirty view scope config world store) := by
    cases limited with
    | fits _ fits => exact fits
    | overruns _ _ fits => exact fits
  refine ⟨fits, fun rendered place part html ran there shown => ?_, fun beyond => ?_, fun all => ?_⟩
  · rw [html_of_render ran there shown]
    exact fits.output place
  · cases limited with
    | fits same fits =>
      rw [same] at fits
      exact absurd fits beyond
    | @overruns error entry failed blamed fits beyond goes =>
      obtain ⟨offset, part, there, number, rfl⟩ := blamed
      rw [Nat.zero_add] at number
      refine ⟨_, entry, part, goes, fits, beyond, number ▸ there, ?_⟩
      exact (render_eq_journaled ..).trans (by rw [failed]; rfl)
  · cases limited with
    | fits same _ => exact same
    | overruns _ _ _ beyond goes => exact absurd (all.of_prefix goes) beyond

/-- Two loops together begin four bodies where there may be three: the second part fails. -/
theorem limits_of_render_of_loops :
    let config := { Config.default with maxIterations := 3 }
    ∃ template, Template.compile "Page" "default"
        "<% for i in 2 %>a<% end %><% for i in 2 %>b<% end %>" = .ok template ∧
      let scope := Scope.ofVariables .empty
      turns (journal .lifted template .all ClientView.empty scope config () Store.empty) = 4 ∧
      turns (journal .kept template .all ClientView.empty scope config () Store.empty) = 3 ∧
      ∃ (entry : Entry) (part : DynamicPart), template.parts[entry.part]? = some (.dynamic part) ∧
        (render template .all ClientView.empty scope config () Store.empty).1 =
          .error (.render entry.part part.source (overrun config entry.event)) := by
  intro config
  have checked : Template.isCompiledTo (Template.compile "Page" "default"
        "<% for i in 2 %>a<% end %><% for i in 2 %>b<% end %>") (fun template =>
      let scope := Scope.ofVariables .empty
      turns (journal .lifted template .all ClientView.empty scope config () Store.empty) == 4 &&
      turns (journal .kept template .all ClientView.empty scope config () Store.empty) == 3) = true := by
    decide +kernel
  obtain ⟨template, compiled, passes⟩ := Template.exists_of_isCompiledTo checked
  obtain ⟨free, within⟩ := Bool.and_eq_true_iff.mp passes
  have limits := limits_of_render template .all ClientView.empty (Scope.ofVariables .empty) config ()
    Store.empty
  have beyond : ¬ Fits config
      (journal .lifted template .all ClientView.empty (Scope.ofVariables .empty) config () Store.empty) :=
    fun fits => absurd (beq_iff_eq.mp free ▸ fits.runs) (by decide)
  obtain ⟨_, entry, part, _, _, _, there, failed⟩ := limits.2.2.1 beyond
  exact ⟨template, compiled, beq_iff_eq.mp free, beq_iff_eq.mp within, entry, part, there, failed⟩

end ReactiveView.Render
