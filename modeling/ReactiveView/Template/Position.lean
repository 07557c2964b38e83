/-
**Places in the source of a template.**

A place is the number of characters before it. People count lines and, in a line, columns, both from
one; a newline ends a line.

* `lineAt`, `columnAt` — line and column after a given text.
* `lineAt_append`, `columnAt_append` — how they go on when more text follows.
-/

import ReactiveView.Error

namespace ReactiveView.Template

/-- The line that the end of a text is on. -/
def lineAt (before : List Char) : Nat := before.count '\n' + 1

/-- The characters of the last line of a text. -/
def lastLine (before : List Char) : List Char := (before.reverse.takeWhile (· ≠ '\n')).reverse

/-- The column of the next character after a text. -/
def columnAt (before : List Char) : Nat := (lastLine before).length + 1

/-- A fault at a place of the source. -/
def fault (source : List Char) (place : Nat) (message : String) : TemplateError :=
  let before := source.take place
  ⟨lineAt before, columnAt before, message⟩

theorem lineAt_append (before more : List Char) :
    lineAt (before ++ more) = lineAt before + more.count '\n' := by
  simp only [lineAt, List.count_append]
  omega

theorem columnAt_append (before more : List Char) (oneLine : '\n' ∉ more) :
    columnAt (before ++ more) = columnAt before + more.length := by
  have allowed : ∀ c ∈ more.reverse, decide (c ≠ '\n') = true := by
    intro c member
    rw [List.mem_reverse] at member
    exact decide_eq_true fun same => oneLine (same ▸ member)
  simp only [columnAt, lastLine, List.reverse_append, List.length_reverse]
  rw [List.takeWhile_append_of_pos allowed, List.length_append, List.length_reverse]
  omega

end ReactiveView.Template
