/-
**What the client has of a component.**

The server remembers, part by part, the markup it sent last and the children that each part
showed. A dense rendering replaces all of it; a sparse one replaces the parts it has.

* `ClientView.commit` — the view after a rendering was sent.
* `getElem?_overlay_of_some`, `getElem?_overlay_of_none` — what a sparse rendering replaces and
  leaves.
-/

import ReactiveView.Data.NameSet

namespace ReactiveView

/-- The names that changed since the last rendering. -/
inductive Dirty where
  /-- Everything counts as changed. -/
  | all
  | names (names : NameSet)
deriving DecidableEq

namespace Dirty

/-- Whether nothing changed. -/
def isEmpty : Dirty → Bool
  | .all => false
  | .names changed => changed.isEmpty

/-- Whether a name changed. -/
def contains (dirty : Dirty) (name : String) : Bool :=
  match dirty with
  | .all => true
  | .names changed => changed.contains name

end Dirty

/-- What one part of a rendering brings: nothing, or new markup with the children it shows. -/
structure Slot where
  html : Option String
  /-- The ids of the children that the part shows; none where it was not rendered. -/
  children : Option (List String)

/-- The result of rendering a template once. -/
structure Rendered where
  slots : List Slot
  dense : Bool
  /-- The components rendered inside this one, with everything inside them. -/
  renderedChildren : List String

namespace Rendered

/-- The markup of each part; none where the client already has it. -/
def markup (rendered : Rendered) : List (Option String) := rendered.slots.map Slot.html

/-- Whether no part has new markup. -/
def isEmpty (rendered : Rendered) : Bool := rendered.slots.all fun slot => slot.html.isNone

end Rendered

/-- What the client last received of a component. -/
structure ClientView where
  variant : Option String
  /-- Whether the client has the fixed text of the variant. -/
  staticSent : Bool
  fragments : List (Option String)
  /-- The ids of the children that each part shows. -/
  children : List (List String)

namespace ClientView

/-- The view of a client that has received nothing. -/
def empty : ClientView := ⟨none, false, [], []⟩

instance : Inhabited ClientView := ⟨empty⟩

/-- The markup as the client has it. -/
def html (view : ClientView) : String := String.join (view.fragments.filterMap id)

/-- Whether the next rendering of a variant must bring every part. -/
def needsDense (view : ClientView) (variant : String) : Bool :=
  !view.staticSent || view.variant != some variant

/-- The ids of the children that the markup of the client shows. -/
def liveChildren (view : ClientView) : NameSet := NameSet.ofList view.children.flatten

/-- From now on the client counts as having nothing; its old parts stay in memory. -/
def invalidate (view : ClientView) : ClientView := { view with staticSent := false }

/-- What is new where there is something new, and what was there elsewhere. -/
def overlay {α β : Type} (absent : α) (fresh : β → Option α) : List α → List β → List α
  | _, [] => []
  | [], slot :: slots => (fresh slot).getD absent :: overlay absent fresh [] slots
  | old :: olds, slot :: slots => (fresh slot).getD old :: overlay absent fresh olds slots

/-- The view after a rendering of a variant was sent. -/
def commit (view : ClientView) (variant : String) (rendered : Rendered) : ClientView :=
  if rendered.dense then
    { variant := some variant
      staticSent := true
      fragments := rendered.markup
      children := rendered.slots.map fun slot => slot.children.getD [] }
  else
    { view with
      fragments := overlay none (fun slot => slot.html.map some) view.fragments rendered.slots
      children := overlay [] Slot.children view.children rendered.slots }

theorem length_overlay {α β : Type} (absent : α) (fresh : β → Option α) (olds : List α)
    (slots : List β) : (overlay absent fresh olds slots).length = slots.length := by
  induction slots generalizing olds with
  | nil => cases olds <;> rfl
  | cons slot rest ih => cases olds <;> simp [overlay, ih]

theorem getElem?_overlay_of_some {α β : Type} (absent : α) (fresh : β → Option α) (olds : List α)
    (slots : List β) {index : Nat} {slot : β} {new : α} (there : slots[index]? = some slot)
    (changed : fresh slot = some new) : (overlay absent fresh olds slots)[index]? = some new := by
  induction slots generalizing olds index with
  | nil => simp at there
  | cons first rest ih =>
    cases index with
    | zero =>
      simp only [List.getElem?_cons_zero, Option.some.injEq] at there
      subst there
      cases olds <;> simp [overlay, changed]
    | succ index =>
      simp only [List.getElem?_cons_succ] at there
      cases olds <;> simp [overlay, ih _ there]

theorem getElem?_overlay_of_none {α β : Type} (absent : α) (fresh : β → Option α) (olds : List α)
    (slots : List β) {index : Nat} {slot : β} (there : slots[index]? = some slot)
    (kept : fresh slot = none) :
    (overlay absent fresh olds slots)[index]? = some (olds[index]?.getD absent) := by
  induction slots generalizing olds index with
  | nil => simp at there
  | cons first rest ih =>
    cases index with
    | zero =>
      simp only [List.getElem?_cons_zero, Option.some.injEq] at there
      subst there
      cases olds <;> simp [overlay, kept]
    | succ index =>
      simp only [List.getElem?_cons_succ] at there
      cases olds <;> simp [overlay, ih _ there]

end ClientView

end ReactiveView
