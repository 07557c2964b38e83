/-
**Text made literal for markup.**

Six characters have a meaning in markup or in an attribute value; each is written as an entity,
every other character stands for itself.

* `escape_append` — escaping works character by character.
* `not_mem_escape` — no escaped text holds a bracket or a quote.
-/

namespace ReactiveView.Html

/-- The entity of a character that markup gives a meaning, and any other character itself. -/
def entity : Char → List Char
  | '&' => ['&', 'a', 'm', 'p', ';']
  | '<' => ['&', 'l', 't', ';']
  | '>' => ['&', 'g', 't', ';']
  | '"' => ['&', 'q', 'u', 'o', 't', ';']
  | '\'' => ['&', '#', 'x', '2', '7', ';']
  | '/' => ['&', '#', 'x', '2', 'f', ';']
  | c => [c]

/-- A text in which every character with a meaning in markup is an entity. -/
def escape (text : String) : String := String.ofList (text.toList.flatMap entity)

theorem escape_append (left right : String) :
    escape (left ++ right) = escape left ++ escape right := by
  simp [escape, String.toList_append, List.flatMap_append, String.ofList_append]

theorem not_mem_entity (c : Char) :
    '<' ∉ entity c ∧ '>' ∉ entity c ∧ '"' ∉ entity c ∧ '\'' ∉ entity c := by
  unfold entity
  split
  iterate 6 decide
  rename_i notLess notGreater notDouble notSingle _
  simp only [List.mem_singleton]
  exact ⟨fun eq => notLess eq.symm, fun eq => notGreater eq.symm, fun eq => notDouble eq.symm,
    fun eq => notSingle eq.symm⟩

theorem not_mem_escape (text : String) :
    '<' ∉ (escape text).toList ∧ '>' ∉ (escape text).toList ∧
      '"' ∉ (escape text).toList ∧ '\'' ∉ (escape text).toList := by
  simp only [escape, String.toList_ofList, List.mem_flatMap, not_exists, not_and]
  exact ⟨fun c _ => (not_mem_entity c).1, fun c _ => (not_mem_entity c).2.1,
    fun c _ => (not_mem_entity c).2.2.1, fun c _ => (not_mem_entity c).2.2.2⟩

end ReactiveView.Html
