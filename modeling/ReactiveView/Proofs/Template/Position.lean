/-
**Line and column identify a boundary between characters.**

A boundary is known by the bytes before it, which is what an offset counts; a place counts the
characters, and people count lines and columns. All three come to the same order, that of reading, so
that no two boundaries of a source share their line and column.

* `charsBefore` — the place of a boundary, where an offset is the bytes before it.
* `EndsAt` — line and column as they are counted by hand.
* `spotAfter_lt_append` — where there is more text, its end is further on.
* `spotAfter_lt_iff` — the ends of what precedes two boundaries lie in the order of the boundaries.
* `spot_lt_iff_and_endsAt` — so do the faults there, and they are where counting by hand puts them.
-/

import Mathlib.Data.List.DropRight
import Mathlib.Data.Prod.Lex
import ReactiveView.Template.Position

namespace ReactiveView

/-- The line and the column of a fault, in the order of reading. -/
def TemplateError.spot (error : TemplateError) : ℕ ×ₗ ℕ := toLex (error.line, error.column)

namespace Template

/-! ### Counting by hand -/

/-- **Where a text ends**: on the line behind all its newlines, and behind the characters that
follow the last of them, or behind all characters if there is none. -/
structure EndsAt (text : List Char) (line column : Nat) : Prop where
  line_eq : line = text.count '\n' + 1
  column_eq : ∃ lines rest, text = lines ++ rest ∧ (∀ last ∈ lines.getLast?, last = '\n') ∧
    '\n' ∉ rest ∧ column = rest.length + 1

/-- The last line of a text has no newline. -/
theorem newline_notMem_lastLine (before : List Char) : '\n' ∉ lastLine before := by
  intro member
  have differs := List.mem_rtakeWhile_imp (p := (· ≠ '\n')) member
  exact of_decide_eq_true differs rfl

theorem endsAt_lineAt_columnAt (before : List Char) :
    EndsAt before (lineAt before) (columnAt before) where
  line_eq := rfl
  column_eq := by
    -- The last line is taken from the end, up to a newline: what is left is empty or ends with one.
    refine ⟨before.rdropWhile (· ≠ '\n'), lastLine before, ?_, ?_,
      newline_notMem_lastLine before, rfl⟩
    · exact List.rdropWhile_append_rtakeWhile.symm
    · intro last isLast
      obtain ⟨nonempty, rfl⟩ := List.mem_getLast?_eq_getLast isLast
      simpa using List.rdropWhile_last_not (· ≠ '\n') before nonempty

/-! ### The order of reading -/

/-- The line and the column that the end of a text is at. -/
def spotAfter (before : List Char) : ℕ ×ₗ ℕ := toLex (lineAt before, columnAt before)

/-- **Where there is more text, its end is further on**: on a later line if a newline is added, and
otherwise further to the right. -/
theorem spotAfter_lt_append (before : List Char) {more : List Char} (grows : more ≠ []) :
    spotAfter before < spotAfter (before ++ more) := by
  rw [spotAfter, spotAfter, Prod.Lex.toLex_lt_toLex]
  -- A newline in between may well take the column back: then the lines differ.
  by_cases ends : '\n' ∈ more
  · have newlines : 0 < more.count '\n' := List.count_pos_iff.mpr ends
    refine Or.inl ?_
    rw [lineAt_append]
    omega
  · have characters : 0 < more.length := List.length_pos_iff.mpr grows
    refine Or.inr ⟨?_, ?_⟩
    · rw [lineAt_append, List.count_eq_zero.mpr ends, Nat.add_zero]
    · rw [columnAt_append before more ends]
      omega

/-! ### Boundaries between characters -/

variable {source : String}

/-- The characters before a boundary. -/
def preceding (boundary : source.Pos) : List Char := (source.sliceTo boundary).copy.toList

/-- **The place of a boundary**: the characters before it, of which an offset counts the bytes. -/
def charsBefore (boundary : source.Pos) : Nat := (preceding boundary).length

theorem take_charsBefore (boundary : source.Pos) :
    source.toList.take (charsBefore boundary) = preceding boundary := by
  have whole : source.toList = preceding boundary ++ (source.sliceFrom boundary).copy.toList := by
    rw [preceding, ← String.toList_append, ← boundary.splits.eq_append]
  rw [whole]
  exact List.take_left

/-- What precedes a later boundary goes on behind what precedes an earlier one. -/
theorem exists_preceding_eq_append {a b : source.Pos} (earlier : a < b) :
    ∃ more, more ≠ [] ∧ preceding b = preceding a ++ more := by
  obtain ⟨more, nonempty, grows, -⟩ := (a.splits.lt_iff_exists_eq_append b.splits).mp earlier
  refine ⟨more.toList, mt String.toList_eq_nil_iff.mp nonempty, ?_⟩
  rw [preceding, grows, String.toList_append, preceding]

theorem spotAfter_lt_of_lt {a b : source.Pos} (earlier : a < b) :
    spotAfter (preceding a) < spotAfter (preceding b) := by
  obtain ⟨more, nonempty, eq⟩ := exists_preceding_eq_append earlier
  rw [eq]
  exact spotAfter_lt_append _ nonempty

/-- **The ends of what precedes two boundaries lie in the order of the boundaries.** -/
theorem spotAfter_lt_iff {a b : source.Pos} :
    spotAfter (preceding a) < spotAfter (preceding b) ↔ a < b := by
  refine ⟨fun before => ?_, spotAfter_lt_of_lt⟩
  rcases Std.lt_trichotomy a b with earlier | rfl | later
  · exact earlier
  · exact absurd before (lt_irrefl _)
  · exact absurd before (spotAfter_lt_of_lt later).asymm

/-- A fault at a boundary is where the text before the boundary ends. -/
theorem fault_charsBefore (boundary : source.Pos) (message : String) :
    fault source.toList (charsBefore boundary) message =
      ⟨lineAt (preceding boundary), columnAt (preceding boundary), message⟩ := by
  simp only [fault, take_charsBefore]

/--
**The line and the column of a fault identify its offset.** Of the faults at two boundaries between
characters, one has the smaller line, or the same line and the smaller column, exactly when fewer bytes
precede it. And the line and the column are those at which the characters before the boundary end.
-/
theorem spot_lt_iff_and_endsAt (source : String) (a b : source.Pos) (first second : String) :
    ((fault source.toList (charsBefore a) first).spot <
          (fault source.toList (charsBefore b) second).spot ↔ a < b) ∧
      EndsAt (preceding a) (fault source.toList (charsBefore a) first).line
        (fault source.toList (charsBefore a) first).column := by
  rw [fault_charsBefore, fault_charsBefore]
  exact ⟨spotAfter_lt_iff, endsAt_lineAt_columnAt (preceding a)⟩

/-- Seven bytes and five characters into a source, behind a newline and one character of two bytes. -/
example : (fault "é<%\nß%>".toList (charsBefore ("é<%\nß%>".pos ⟨7⟩ (by decide))) "").spot =
    toLex (2, 2) := by
  decide

end Template

end ReactiveView
