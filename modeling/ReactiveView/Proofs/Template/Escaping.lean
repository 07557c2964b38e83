/-
**Escaped text is literal.**

Any text can be put in front of a source that begins with `<%`, or of an empty one: with every `<%`
in it written `<%%`, it is scanned to itself. The segments of the source follow as they were, at
places further back, so its parts are the same, with the text in front.

* `escaped` — a text with every `<%` written `<%%`.
* `scans_escaped` — escaped text is scanned to the text.
* `ForestFlattensTo.relocated`, `partsOf_relocated` — nodes and parts do not hang on their places.
* `compile_escaped` — what escaped text in front of a source is compiled to.
-/

import ReactiveView.Proofs.Template.Coverage
import ReactiveView.Proofs.Template.Standalone

namespace ReactiveView.Template

/-! ### Escaped text -/

/-- A text with every `<%` written `<%%`. -/
def escaped (text : List Char) : List Char := Text.replace ['<', '%'] ['<', '%', '%'] text

@[simp] theorem escaped_nil : escaped [] = [] := Text.replace_nil (by decide) _

theorem escaped_opening (text : List Char) :
    escaped ('<' :: '%' :: text) = '<' :: '%' :: '%' :: escaped text :=
  Text.replace_append (by decide) _ text

theorem escaped_char {c : Char} {text : List Char} (plain : c = '<' → text.head? ≠ some '%') :
    escaped (c :: text) = c :: escaped text := by
  refine Text.replace_cons (by decide) _ (Bool.eq_false_iff.mpr fun begins => ?_)
  obtain ⟨rest, same⟩ := List.isPrefixOf_iff_prefix.mp begins
  cases same
  exact plain rfl rfl

/-- Escaping leaves the first character. -/
theorem head?_escaped (text : List Char) : (escaped text).head? = text.head? := by
  cases text with
  | nil => rw [escaped_nil]
  | cons c text =>
    by_cases opens : c = '<' ∧ text.head? = some '%'
    · obtain ⟨rfl, begins⟩ := opens
      obtain ⟨rest, rfl⟩ := List.head?_eq_some_iff.mp begins
      rw [escaped_opening]
      rfl
    · rw [escaped_char fun same begins => opens ⟨same, begins⟩]
      rfl

/-- **Escaped text is scanned to the text**, if what follows does not go on with an opening. -/
theorem scans_escaped {source : List Char} {textStart : Nat} {found : List Segment}
    (noGoing : source.head? ≠ some '%') :
    ∀ (more : List Char) {text : List Char} {place : Nat},
      Scans (more.reverse ++ text) textStart (place + (escaped more).length) source found →
        Scans text textStart place (escaped more ++ source) found
  | [], _, _, scans => by simpa using scans
  | [c], text, place, scans => by
    rw [escaped_char fun _ => by simp, escaped_nil] at scans ⊢
    exact .char (fun _ => noGoing) scans
  | c :: second :: rest, text, place, scans => by
    by_cases opens : c = '<' ∧ second = '%'
    · obtain ⟨rfl, rfl⟩ := opens
      rw [escaped_opening] at scans ⊢
      refine .escape (scans_escaped noGoing rest ?_)
      have length : place + ('<' :: '%' :: '%' :: escaped rest).length =
          place + 3 + (escaped rest).length := by
        simp only [List.length_cons]
        omega
      rw [length] at scans
      simpa only [List.reverse_cons, List.append_assoc, List.cons_append, List.nil_append]
        using scans
    · have plain : c = '<' → (second :: rest).head? ≠ some '%' :=
        fun same begins => opens ⟨same, Option.some.inj begins⟩
      rw [escaped_char plain] at scans ⊢
      refine .char (fun same => ?_) (scans_escaped noGoing (second :: rest) ?_)
      · show (escaped (second :: rest) ++ source).head? ≠ some '%'
        rw [List.head?_append, head?_escaped, List.head?_cons, Option.some_or]
        exact plain same
      · have length : place + (c :: escaped (second :: rest)).length =
            place + 1 + (escaped (second :: rest)).length := by
          simp only [List.length_cons]
          omega
        rw [length, List.reverse_cons, List.append_assoc, List.singleton_append] at scans
        exact scans

/-! ### A text in front -/

/-- The node of a text that has characters. -/
def textNode (text : List Char) (start stop : Nat) : List SpannedNode :=
  if text.isEmpty then [] else [⟨.text (String.ofList text), start, stop⟩]

/-- **Parts with a text in front**, which joins a text that they begin with; no text is no part. -/
def textInFront (text : List Char) (parts : List Part) : List Part :=
  if text.isEmpty then parts else consText (String.ofList text) parts

theorem partsOf_textNode (source text : List Char) (start stop : Nat) (nodes : List SpannedNode) :
    partsOf source (textNode text start stop ++ nodes) =
      textInFront text (partsOf source nodes) := by
  unfold textNode textInFront
  split <;> rfl

theorem consText_consText (first second : String) (parts : List Part) :
    consText first (consText second parts) = consText (first ++ second) parts := by
  match parts with
  | [] => rfl
  | .fixed following :: rest => simp only [consText, String.append_assoc]
  | .dynamic _ :: _ => rfl

/-- Two texts in front are one. -/
theorem textInFront_append (first second : List Char) (parts : List Part) :
    textInFront (first ++ second) parts = textInFront first (textInFront second parts) := by
  cases first with
  | nil => rfl
  | cons c first =>
    cases second with
    | nil => rw [List.append_nil]; rfl
    | cons other second =>
      show consText (String.ofList ((c :: first) ++ (other :: second))) parts =
        consText (String.ofList (c :: first)) (consText (String.ofList (other :: second)) parts)
      rw [consText_consText, String.ofList_append]

/-- What flattens to a text and more begins with the node of the text. -/
theorem exists_of_flattensTo_text {text : String} {start stop : Nat} {items : List PlacedItem}
    {nodes : List SpannedNode}
    (forest : ForestFlattensTo nodes (⟨.text text, start, stop⟩ :: items)) :
    ∃ rest, nodes = ⟨.text text, start, stop⟩ :: rest ∧ ForestFlattensTo rest items := by
  generalize whole : PlacedItem.mk (.text text) start stop :: items = all at forest
  cases forest with
  | nil => cases whole
  | @cons node rest own later flattens spans goesOn =>
    obtain ⟨node, first, last⟩ := node
    generalize said : own.map PlacedItem.item = saying at flattens
    cases flattens with
    | text =>
      obtain ⟨_, _, rfl⟩ := exists_of_map_eq_singleton said
      cases whole
      obtain ⟨opens, closes⟩ := spans
      cases opens
      cases closes
      exact ⟨rest, rfl, goesOn⟩
    | output | bind =>
      obtain ⟨_, _, rfl⟩ := exists_of_map_eq_singleton said
      cases whole
    | loop | choice =>
      obtain ⟨_, _, rfl, statement, _⟩ := List.map_eq_cons_iff.mp said
      cases whole
      cases statement

/-- What flattens to a text and more is the node of the text and what flattens to the rest. -/
theorem forestFlattensTo_textSegment {text : List Char} {start stop : Nat} {later : List Segment}
    {nodes : List SpannedNode} :
    ForestFlattensTo nodes (itemsOf (textSegment text start stop ++ later)) ↔
      ∃ rest, nodes = textNode text start stop ++ rest ∧ ForestFlattensTo rest (itemsOf later) := by
  unfold textSegment textNode
  split
  · simp
  · constructor
    · exact exists_of_flattensTo_text
    · rintro ⟨rest, rfl, forest⟩
      let node : SpannedNode := ⟨.text (String.ofList text), start, stop⟩
      have flattens : FlattensTo node.node [.text (String.ofList text)] := .text _
      exact @ForestFlattensTo.cons node rest [_] _ flattens ⟨rfl, rfl⟩ forest

/-! ### At other places -/

/-- A node with other places. -/
def SpannedNode.relocated (f : Nat → Nat) (spanned : SpannedNode) : SpannedNode :=
  ⟨spanned.node, f spanned.start, f spanned.stop⟩

/-- **What is read of items does not hang on their places.** -/
theorem ForestFlattensTo.relocated {nodes : List SpannedNode} {items : List PlacedItem}
    (forest : ForestFlattensTo nodes items) (f : Nat → Nat) :
    ForestFlattensTo (nodes.map (SpannedNode.relocated f))
      (items.map (PlacedItem.relocated f)) := by
  induction forest with
  | nil => exact .nil
  | cons flattens spans _ ih =>
    rw [List.map_append]
    refine .cons ?_ (spans.relocated f) ih
    rw [List.map_map]
    exact flattens

/-- **Parts do not hang on what stands in front of their source.** -/
theorem partsOf_relocated (front source : List Char) (nodes : List SpannedNode) :
    partsOf (front ++ source) (nodes.map (SpannedNode.relocated (· + front.length))) =
      partsOf source nodes := by
  induction nodes with
  | nil => rfl
  | cons spanned nodes ih =>
    obtain ⟨node, start, stop⟩ := spanned
    have text : ((front ++ source).take (stop + front.length)).drop (start + front.length) =
        (source.take stop).drop start := by
      rw [Nat.add_comm stop, List.take_length_add_append, Nat.add_comm start,
        List.drop_length_add_append]
    cases node <;> simp only [List.map_cons, SpannedNode.relocated, partsOf, ih, text]

/-! ### Compiling -/

theorem parses_of_mem_textSegment {text : List Char} {start stop : Nat} {segment : Segment}
    (member : segment ∈ textSegment text start stop) : segment.Parses := by
  unfold textSegment at member
  split at member
  · cases member
  · rw [List.mem_singleton.mp member]
    exact Or.inr rfl

/-- **A source with escaped text in front is read** as the text and then as before, further back. -/
theorem parse_escaped {source : List Char} {nodes : List SpannedNode} (text : List Char)
    (parsed : parse source = .ok nodes) (noGoing : source.head? ≠ some '%') :
    ∃ more start stop behind,
      nodes = textNode more start stop ++ behind ∧
      parse (escaped text ++ source) =
        .ok (textNode (text ++ more) start (stop + (escaped text).length) ++
          behind.map (SpannedNode.relocated (· + (escaped text).length))) := by
  obtain ⟨found, scanned, parses, forest⟩ := exists_segments_of_parse parsed
  obtain ⟨raw, tail, later, -, -, rfl, anywhere⟩ := (scans_iff.mpr scanned).exists_text
  obtain ⟨behind, rfl, remaining⟩ := forestFlattensTo_textSegment.mp forest
  refine ⟨unescaped raw, 0, 0 + raw.length, behind, rfl, ?_⟩
  have shifts : ShiftsFrom (· + (escaped text).length) 0 := fun more => by
    simp only [Nat.zero_add, Nat.add_zero, Nat.add_comm]
  have scans := anywhere shifts text.reverse 0
  rw [List.reverse_reverse, Nat.add_right_comm, ← List.append_nil text.reverse] at scans
  have whole := scans_escaped noGoing text scans
  refine parse_eq_ok (scans_iff.mp whole) ?_ ?_
  · intro segment member
    rcases List.mem_append.mp member with front | moved
    · exact parses_of_mem_textSegment front
    · obtain ⟨original, inside, rfl⟩ := List.mem_map.mp moved
      exact (parses original (List.mem_append_right _ inside)).relocated _
  · refine forestFlattensTo_textSegment.mpr ⟨_, rfl, ?_⟩
    rw [itemsOf_relocated]
    exact remaining.relocated _

/--
**Escaped text is literal.** In front of a source that is compiled, and is empty or begins with
`<%`, any text can be written with every `<%` in it as `<%%`: the source is compiled to the same
parts with the text in front.
-/
theorem compile_escaped {className variant source : String} {template : Template}
    (compiled : compile className variant source = .ok template)
    (starts : source = "" ∨ ['<', '%'] <+: source.toList) (text : String) :
    compile className variant (String.ofList (escaped text.toList) ++ source) =
      .ok ⟨className, variant, String.ofList (escaped text.toList) ++ source,
        textInFront text.toList template.parts⟩ := by
  obtain ⟨nodes, parsed, rfl⟩ := exists_of_compile compiled
  have noGoing : source.toList.head? ≠ some '%' := by
    rcases starts with rfl | ⟨rest, same⟩
    · exact nofun
    · rw [← same]
      exact nofun
  obtain ⟨more, start, stop, behind, rfl, read⟩ := parse_escaped text.toList parsed noGoing
  have chars : (String.ofList (escaped text.toList) ++ source).toList =
      escaped text.toList ++ source.toList := by
    rw [String.toList_append, String.toList_ofList]
  rw [← chars] at read
  rw [compile_eq_ok read, partsOf_textNode, partsOf_textNode, textInFront_append, chars,
    partsOf_relocated]

/-- Text that begins with a written `<%`, a comment and an output. -/
def signsPage : String := "<%%<%# sign %>>-<%= a %>"

/-- A lone `<` in front of `<%`, and one at the end, where the page begins. -/
def signs : String := "a<<%%<"

theorem compile_escaped_of_signsPage :
    ∃ template, compile "Page" "html" signsPage = .ok template ∧
      compile "Page" "html" (String.ofList (escaped signs.toList) ++ signsPage) =
        .ok ⟨"Page", "html", "a<<%%%<<%%<%# sign %>>-<%= a %>",
          textInFront signs.toList template.parts⟩ := by
  have passes : isCompiledTo (compile "Page" "html" signsPage) (fun _ => true) = true := by
    decide +kernel
  have page : String.ofList (escaped signs.toList) ++ signsPage =
      "a<<%%%<<%%<%# sign %>>-<%= a %>" := by
    decide +kernel
  obtain ⟨template, compiled, -⟩ := exists_of_isCompiledTo passes
  have begins : ['<', '%'] <+: signsPage.toList := by decide
  exact ⟨template, compiled, page ▸ compile_escaped compiled (Or.inr begins) signs⟩

end ReactiveView.Template
