/-
**A client reads the envelope that was sent.**

An envelope has two members: its component, and its payload under the name of the kind of payload. Nothing
stands under the names of the other kinds, so the first payload that can be read is the one that was written,
whatever is in the markup of its slots or in the name of the component.

* `payload?_of_means` — a payload is known by the name it stands under.
* `ofText?_of_means` — any text that writes the members of an envelope is read as the envelope.
* `received_as_sent` — the compact text in particular, and two envelopes never have one text.
-/

import ReactiveView.Message.Envelope
import ReactiveView.Proofs.Json.Fields
import ReactiveView.Proofs.Json.Printing

namespace ReactiveView

open Json (Written RowMeans string? nestingLimit)

@[simp] theorem Status.ofName?_name (news : Status) : Status.ofName? news.name = some news := by
  cases news <;> decide

namespace Outbound

/-- The slots of a rendering as items of an array. -/
def items (slots : List (Option String)) : List Json := slots.map fun slot => slot.elim .null .string

theorem itemsPlain (slots : List (Option String)) : Json.ItemsPlain (items slots) := by
  induction slots with
  | nil => exact trivial
  | cons slot slots ih => cases slot <;> exact ⟨trivial, ih⟩

theorem itemsDepth (slots : List (Option String)) : Json.itemsDepth (items slots) = 0 := by
  induction slots with
  | nil => rfl
  | cons slot slots ih => cases slot <;> exact (Nat.zero_max _).trans ih

theorem isPlain_member (payload : Outbound) : payload.member.2.IsPlain := by
  cases payload with
  | render slots => exact itemsPlain slots
  | status news => exact trivial
  | error html => exact trivial

theorem depth_member (payload : Outbound) : payload.member.2.depth ≤ 1 := by
  cases payload with
  | render slots => exact (congrArg (· + 1) (itemsDepth slots)).le
  | status news => exact Nat.zero_le _
  | error html => exact Nat.zero_le _

/-- No payload stands under the name of the component. -/
theorem member_ne_component (payload : Outbound) : payload.member.1 ≠ "component" := by
  cases payload with
  | render _ => exact show "render" ≠ "component" by decide
  | status _ => exact show "status" ≠ "component" by decide
  | error _ => exact show "error" ≠ "component" by decide

end Outbound

namespace Envelope

variable {α : Type} {name : String} {read : Written → Option α} {written : Written}
  {row : List (String × Written)}

/-! ### What stands under a name -/

/-- What stands under a name alone is read. -/
theorem one?_of_mem (distinct : (row.map Prod.fst).Nodup) (member : (name, written) ∈ row) :
    one? name read row = read written := by
  rw [one?, Written.under_of_mem distinct member]

/-- Nothing is read under a name that is not there. -/
theorem one?_of_notMem (absent : name ∉ row.map Prod.fst) : one? name read row = none := by
  rw [one?, Written.under_of_notMem absent]

/-! ### What is written for a payload -/

/-- A slot is read, whether or not there is markup in it. -/
theorem optionalText?_of_slot {slot : Option String} (means : written.Means (slot.elim .null .string)) :
    written.optionalText? = some slot := by
  cases slot with
  | none =>
    cases means
    rfl
  | some markup => exact Written.optionalText?_of_means means

/-- The slots of a rendering are read one by one. -/
theorem slots?_of_means {slots : List (Option String)}
    (means : written.Means (.array (Outbound.items slots))) : slots? written = some slots := by
  cases means with
  | @array written _ means =>
    rw [slots?, Json.mapM_eq_some_iff]
    induction slots generalizing written with
    | nil =>
      cases means
      exact .nil
    | cons slot slots ih =>
      cases means with
      | cons first rest => exact .cons (optionalText?_of_slot first) (ih rest)

/-- The word for a status is read. -/
theorem status?_of_means {news : Status} (means : written.Means (.string news.name)) :
    status? written = some news := by
  have text := Written.text?_of_means means
  cases means with
  | string _ =>
    rw [status?, text, Option.bind_some, Status.ofName?_name]
    exact nofun

/-- **A payload is known by the name it stands under.** -/
theorem payload?_of_means (distinct : (row.map Prod.fst).Nodup) {payload : Outbound}
    (named : ∀ other ∈ row.map Prod.fst, other = "component" ∨ other = payload.member.1)
    (member : (payload.member.1, written) ∈ row) (means : written.Means payload.member.2) :
    payload? row = some payload := by
  have absent {kind : String} (noComponent : kind ≠ "component") (otherKind : kind ≠ payload.member.1) :
      kind ∉ row.map Prod.fst :=
    fun present => (named kind present).elim noComponent otherKind
  cases payload with
  | render slots =>
    have found : one? "render" slots? row = some slots :=
      (one?_of_mem distinct member).trans (slots?_of_means means)
    rw [payload?, found]
    rfl
  | status news =>
    have found : one? "status" status? row = some news :=
      (one?_of_mem distinct member).trans (status?_of_means means)
    rw [payload?, one?_of_notMem (absent (by decide) (show "render" ≠ "status" by decide)), found]
    rfl
  | error html =>
    have found : one? "error" Written.text? row = some html :=
      (one?_of_mem distinct member).trans (Written.text?_of_means means)
    rw [payload?, one?_of_notMem (absent (by decide) (show "render" ≠ "error" by decide)),
      one?_of_notMem (absent (by decide) (show "status" ≠ "error" by decide)), found]
    rfl

/-! ### The whole envelope -/

variable {envelope : Envelope}

theorem isPlain_json (envelope : Envelope) : envelope.json.IsPlain := by
  refine ⟨⟨trivial, envelope.payload.isPlain_member, trivial⟩, ?_⟩
  simpa using envelope.payload.member_ne_component.symm

theorem depth_json (envelope : Envelope) : envelope.json.depth ≤ nestingLimit := by
  have payload := envelope.payload.depth_member
  have levels : envelope.json.depth = max 0 (max envelope.payload.member.2.depth 0) + 1 := rfl
  unfold nestingLimit
  omega

/-- **A text that writes the members of an envelope is read as the envelope**, with blanks anywhere and any
spelling of names and strings. -/
theorem ofText?_of_means {line : String} (means : written.Means envelope.json)
    (isText : written.IsText line) : ofText? line = some envelope := by
  have value : written.value? nestingLimit = some envelope.json := by
    rw [Written.value?_of_means nestingLimit means, if_pos envelope.depth_json]
  cases means with
  | object own distinct =>
    obtain ⟨row, named, means⟩ := Json.exists_namedMembers? own
    rw [← means.keys_eq] at distinct
    obtain ⟨_, isComponent, component⟩ := means.exists_of_mem List.mem_cons_self
    obtain ⟨_, isPayload, payload⟩ :=
      means.exists_of_mem (List.mem_cons_of_mem _ (List.mem_singleton_self envelope.payload.member))
    have names : ∀ other ∈ row.map Prod.fst, other = "component" ∨ other = envelope.payload.member.1 := by
      rw [means.keys_eq]
      simp
    simp only [ofText?, Written.ofText?_of_isText isText, value, named,
      one?_of_mem distinct isComponent, Written.text?_of_means component,
      payload?_of_means distinct names isPayload payload, Option.bind_eq_bind, Option.bind_some]
    rfl

/-- The compact text of an envelope is read as the envelope. -/
theorem ofText?_text (envelope : Envelope) : ofText? envelope.text = some envelope := by
  obtain ⟨written, means, spelled⟩ := Json.spelled_text _ envelope.isPlain_json
  exact ofText?_of_means means (Written.isText_of_spelled spelled)

/--
**A client reads the envelope that was sent**: from the compact text of an envelope it gets the same component
and the same payload back. So two envelopes never have one text.
-/
theorem received_as_sent :
    (∀ envelope : Envelope, ofText? envelope.text = some envelope) ∧ Function.Injective text := by
  refine ⟨ofText?_text, fun envelope other same => ?_⟩
  have read := ofText?_text envelope
  rw [same, ofText?_text other] at read
  exact (Option.some.inj read).symm

end Envelope

end ReactiveView
