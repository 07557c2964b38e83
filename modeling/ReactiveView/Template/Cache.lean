/-
**A memo of compiled templates.**

Templates are kept under their class and variant. A source that is kept already is not compiled
again; another source under the same key takes the place of the old one, and a source with a fault
changes nothing. Compilations are numbered, so that it shows whether two requests were answered by
the same one.

* `Cache.getOrCompile` — the template of a source, kept or compiled now.
-/

import ReactiveView.Data.OrderedMap
import ReactiveView.Template.Basic

namespace ReactiveView.Template

/-- A compiled template and the number of its compilation. -/
structure Compiled where
  number : Nat
  template : Template

/-- Compiled templates under class and variant. -/
structure Cache where
  entries : OrderedMap (String × String) Compiled
  /-- The number of successful compilations so far. -/
  compilations : Nat

namespace Cache

/-- The memo before anything is compiled. -/
def empty : Cache := ⟨OrderedMap.empty, 0⟩

/-- The template under a class and a variant. -/
def get? (cache : Cache) (className variant : String) : Option Compiled :=
  cache.entries.get? (className, variant)

/-- The number of templates kept. -/
def size (cache : Cache) : Nat := cache.entries.size

/-- Whether no template is kept. -/
def isEmpty (cache : Cache) : Bool := cache.entries.isEmpty

/-- The template under a class and a variant, if it was compiled from the given source. -/
def lookup? (cache : Cache) (className variant source : String) : Option Compiled :=
  (cache.get? className variant).filter fun compiled => compiled.template.source == source

/-- The template of a source, and the memo that keeps it. -/
def getOrCompile (cache : Cache) (className variant source : String) :
    Except TemplateError Compiled × Cache :=
  match cache.lookup? className variant source with
  | some compiled => (.ok compiled, cache)
  | none =>
    match compile className variant source with
    | .error fault => (.error fault, cache)
    | .ok template =>
      let compiled := ⟨cache.compilations, template⟩
      (.ok compiled, ⟨cache.entries.insert (className, variant) compiled, cache.compilations + 1⟩)

end Cache

end ReactiveView.Template
