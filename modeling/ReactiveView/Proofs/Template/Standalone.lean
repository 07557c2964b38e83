/-
**The parts of a template are self-contained.**

The text of a dynamic part, compiled on its own, is a template of this one part: of the same kind and
node, with the same dependencies and locals, and with the same text. A part is a node that is no
text. The items it flattens to start and end with a tag, so its text is scanned to the segments
between these two tags, and they say the same at another place.

* `FlattensTo.exists_tags` — what is no text starts and ends with a tag.
* `exists_segments_between` — the segments from the one tag to the other.
* `Segment.item?_relocated` — what a segment says does not hang on its place.
* `parse_textIn` — the text of a node is read as this node.
* `compile_source_of_mem` — the text of a part is compiled to this part.
-/

import ReactiveView.Proofs.Template.Balance
import ReactiveView.Proofs.Template.Names
import ReactiveView.Proofs.Template.Scanning

namespace ReactiveView.Template

/-! ### Where the items of a node start and end -/

/-- What the code of a tag says. -/
def Item.IsTag : Item → Prop
  | .text _ => False
  | .output .. => True
  | .statement _ => True

/-- A node that is no text. -/
def IsDynamic : Node → Prop
  | .text _ => False
  | .output .. => True
  | .choice _ => True
  | .loop .. => True
  | .bind .. => True

/-- The branches of a choice end with `end`. -/
theorem TailFlattensTo.getLast? {later : Branches} {items : List Item}
    (flattens : TailFlattensTo later items) : items.getLast? = some (.statement .close) := by
  cases flattens with
  | close => rfl
  | otherwise => rw [← List.cons_append, List.getLast?_concat]
  | branch _ goesOn => rw [← List.cons_append, List.getLast?_append, goesOn.getLast?, Option.some_or]

/-- **What is no text starts and ends with a tag.** -/
theorem FlattensTo.exists_tags {node : Node} {items : List Item} (flattens : FlattensTo node items)
    (dynamic : IsDynamic node) :
    ∃ first last, items.head? = some first ∧ first.IsTag ∧ items.getLast? = some last ∧
      last.IsTag := by
  cases flattens with
  | text => cases dynamic
  | output => exact ⟨_, _, rfl, trivial, rfl, trivial⟩
  | bind => exact ⟨_, _, rfl, trivial, rfl, trivial⟩
  | loop =>
    refine ⟨_, .statement .close, rfl, trivial, ?_, trivial⟩
    rw [← List.cons_append, List.getLast?_concat]
  | choice _ goesOn =>
    refine ⟨_, .statement .close, rfl, trivial, ?_, trivial⟩
    rw [← List.cons_append, List.getLast?_append, goesOn.getLast?, Option.some_or]

/-! ### The segments of a node -/

/-- A list without what a filter drops at its front. -/
theorem exists_filterMap_front {α β : Type} {f : α → Option β} {list : List α} {own : List β}
    (filtered : list.filterMap f = own) (nonempty : own ≠ []) :
    ∃ dropped rest, list = dropped ++ rest ∧ rest.filterMap f = own ∧
      rest.head?.bind f = own.head? := by
  obtain ⟨first, others, rfl⟩ := List.exists_cons_of_ne_nil nonempty
  obtain ⟨dropped, kept, rest, rfl, _, same, behind⟩ := List.filterMap_eq_cons_iff.mp filtered
  refine ⟨dropped, kept :: rest, rfl, ?_, same⟩
  rw [List.filterMap_cons_some same, behind]

/-- A list without what a filter drops at its end. -/
theorem exists_filterMap_back {α β : Type} {f : α → Option β} {list : List α} {own : List β}
    (filtered : list.filterMap f = own) (nonempty : own ≠ []) :
    ∃ rest dropped, list = rest ++ dropped ∧ rest.filterMap f = own ∧
      rest.getLast?.bind f = own.getLast? := by
  have turned : list.reverse.filterMap f = own.reverse := by
    rw [List.filterMap_reverse, filtered]
  obtain ⟨dropped, rest, same, kept, first⟩ :=
    exists_filterMap_front turned (by rwa [ne_eq, List.reverse_eq_nil_iff])
  refine ⟨rest.reverse, dropped.reverse, ?_, ?_, ?_⟩
  · rw [← List.reverse_append, ← same, List.reverse_reverse]
  · rw [List.filterMap_reverse, kept, List.reverse_reverse]
  · rw [List.getLast?_reverse, first, List.head?_reverse]

/-- The part of a list that a part of the filtered list comes from; it starts and ends with it. -/
theorem exists_filterMap_between {α β : Type} {f : α → Option β} {list : List α}
    {before own after : List β} (filtered : list.filterMap f = before ++ own ++ after)
    (nonempty : own ≠ []) :
    ∃ front between back, list = front ++ between ++ back ∧ between.filterMap f = own ∧
      between.head?.bind f = own.head? ∧ between.getLast?.bind f = own.getLast? := by
  obtain ⟨whole, back, rfl, filtered, _⟩ := List.filterMap_eq_append_iff.mp filtered
  obtain ⟨front, inner, rfl, _, filtered⟩ := List.filterMap_eq_append_iff.mp filtered
  obtain ⟨skipped, rest, rfl, filtered, first⟩ := exists_filterMap_front filtered nonempty
  obtain ⟨between, left, rfl, filtered, last⟩ := exists_filterMap_back filtered nonempty
  refine ⟨front ++ skipped, between, left ++ back, by simp only [List.append_assoc], filtered, ?_,
    last⟩
  obtain ⟨start, others, rfl⟩ := List.exists_cons_of_ne_nil (l := between) (by
    rintro rfl
    exact nonempty filtered.symm)
  exact first

theorem exists_tag_of_item? {segment : Segment} {item : PlacedItem}
    (said : segment.item? = some item) (tag : item.item.IsTag) :
    ∃ found, segment = .tag found ∧ found.start = item.start ∧ found.stop = item.stop := by
  cases segment with
  | text chars start stop =>
    cases said
    cases tag
  | tag found =>
    obtain ⟨_, _, rfl⟩ := Option.map_eq_some_iff.mp said
    exact ⟨found, rfl, rfl, rfl⟩

/-- **The segments that a node is read from**: from a tag at its start to a tag at its end. -/
theorem exists_segments_between {found : List Segment} {before own after : List PlacedItem}
    {spanned : SpannedNode} (whole : itemsOf found = before ++ own ++ after)
    (flattens : FlattensTo spanned.node (own.map PlacedItem.item))
    (spans : Spans own spanned.start spanned.stop) (dynamic : IsDynamic spanned.node) :
    ∃ front between back opening closing, found = front ++ between ++ back ∧
      itemsOf between = own ∧
      between.head? = some (.tag opening) ∧ opening.start = spanned.start ∧
      between.getLast? = some (.tag closing) ∧ closing.stop = spanned.stop := by
  obtain ⟨_, _, headSaid, headTag, lastSaid, lastTag⟩ := flattens.exists_tags dynamic
  obtain ⟨first, headOwn, rfl⟩ := Option.map_eq_some_iff.mp (List.head?_map ▸ headSaid)
  obtain ⟨last, lastOwn, rfl⟩ := Option.map_eq_some_iff.mp (List.getLast?_map ▸ lastSaid)
  have nonempty : own ≠ [] := fun none => by rw [none] at headOwn; cases headOwn
  obtain ⟨front, between, back, rfl, items, heads, lasts⟩ :=
    exists_filterMap_between whole nonempty
  obtain ⟨_, head, said⟩ := Option.bind_eq_some_iff.mp (heads.trans headOwn)
  obtain ⟨opening, rfl, start, _⟩ := exists_tag_of_item? said headTag
  obtain ⟨_, tail, said⟩ := Option.bind_eq_some_iff.mp (lasts.trans lastOwn)
  obtain ⟨closing, rfl, _, stop⟩ := exists_tag_of_item? said lastTag
  refine ⟨front, between, back, opening, closing, rfl, items, head, ?_, tail, ?_⟩
  · simpa only [headOwn, Option.map_some, Option.some.injEq, ← start] using spans.first
  · simpa only [lastOwn, Option.map_some, Option.some.injEq, ← stop] using spans.last

/-! ### At another place -/

/-- An item with other places. -/
def PlacedItem.relocated (f : Nat → Nat) (item : PlacedItem) : PlacedItem :=
  ⟨item.item, f item.start, f item.stop⟩

/-- **What a segment says does not hang on its place.** -/
theorem Segment.item?_relocated (f : Nat → Nat) (segment : Segment) :
    (segment.relocated f).item? = segment.item?.map (PlacedItem.relocated f) := by
  cases segment with
  | text => rfl
  | tag found =>
    rw [Segment.relocated, Segment.item?, Segment.item?, Option.map_map]
    rfl

theorem Segment.Parses.relocated {segment : Segment} (parses : segment.Parses) (f : Nat → Nat) :
    (segment.relocated f).Parses := by
  rcases parses with idle | said
  · cases segment with
    | text => cases idle
    | tag => exact Or.inl idle
  · rw [Segment.Parses, Segment.item?_relocated, Option.isSome_map]
    exact Or.inr said

theorem itemsOf_relocated (f : Nat → Nat) (segments : List Segment) :
    itemsOf (segments.map (Segment.relocated f)) =
      (itemsOf segments).map (PlacedItem.relocated f) := by
  rw [itemsOf, itemsOf, List.filterMap_map, List.map_filterMap]
  exact congrArg (fun g => segments.filterMap g) (funext fun _ => Segment.item?_relocated f _)

theorem Spans.relocated {items : List PlacedItem} {start stop : Nat}
    (spans : Spans items start stop) (f : Nat → Nat) : Spans (items.map (PlacedItem.relocated f)) (f start) (f stop) := by
  obtain ⟨first, last⟩ := spans
  obtain ⟨_, opens, rfl⟩ := Option.map_eq_some_iff.mp first
  obtain ⟨_, closes, rfl⟩ := Option.map_eq_some_iff.mp last
  constructor
  · rw [List.head?_map, opens]
    rfl
  · rw [List.getLast?_map, closes]
    rfl

/-- An item that is a number of characters further to the front. -/
def PlacedItem.moved (distance : Nat) (item : PlacedItem) : PlacedItem :=
  ⟨item.item, item.start - distance, item.stop - distance⟩

theorem Segment.Parses.moved {segment : Segment} (parses : segment.Parses) (distance : Nat) :
    (segment.moved distance).Parses := by
  rw [Segment.moved_eq_relocated]
  exact parses.relocated _

theorem itemsOf_moved (distance : Nat) (segments : List Segment) :
    itemsOf (segments.map (Segment.moved distance)) =
      (itemsOf segments).map (PlacedItem.moved distance) := by
  rw [Segment.moved_eq_relocated]
  exact itemsOf_relocated (· - distance) segments

theorem Spans.moved {items : List PlacedItem} {start stop : Nat} (spans : Spans items start stop)
    (distance : Nat) :
    Spans (items.map (PlacedItem.moved distance)) (start - distance) (stop - distance) :=
  spans.relocated (· - distance)

/-! ### Reading the text of a node -/

/-- What the segments of a source are read as, and that all of them can be read. -/
theorem exists_segments_of_parse {source : List Char} {nodes : List SpannedNode}
    (parsed : parse source = .ok nodes) :
    ∃ found, segments source = .ok found ∧ (∀ segment ∈ found, segment.Parses) ∧
      ForestFlattensTo nodes (itemsOf found) := by
  unfold parse at parsed
  split at parsed
  · cases parsed
  · next found scanned =>
    have parses := Forest.parses_of_run parsed
    exact ⟨found, scanned, parses, (run_eq_ok_iff parses).mp parsed⟩

theorem parse_eq_ok {source : List Char} {found : List Segment} {nodes : List SpannedNode}
    (scanned : segments source = .ok found) (parses : ∀ segment ∈ found, segment.Parses)
    (forest : ForestFlattensTo nodes (itemsOf found)) : parse source = .ok nodes := by
  rw [parse, scanned]
  exact (run_eq_ok_iff parses).mpr forest

/-- The text that a node was read from. -/
def SpannedNode.textIn (source : List Char) (spanned : SpannedNode) : List Char :=
  (source.take spanned.stop).drop spanned.start

/-- **The text of a node is read as this node**, at the front of the text. -/
theorem parse_textIn {source : List Char} {nodes : List SpannedNode}
    (parsed : parse source = .ok nodes) {spanned : SpannedNode} (member : spanned ∈ nodes)
    (dynamic : IsDynamic spanned.node) :
    parse (spanned.textIn source) = .ok [⟨spanned.node, 0, spanned.stop - spanned.start⟩] := by
  obtain ⟨found, scanned, parses, forest⟩ := exists_segments_of_parse parsed
  obtain ⟨before, own, after, whole, flattens, spans⟩ := forest.exists_of_mem member
  obtain ⟨front, between, back, opening, closing, rfl, rfl, head, start, tail, stop⟩ :=
    exists_segments_between whole flattens spans dynamic
  rw [SpannedNode.textIn, ← start, ← stop]
  refine parse_eq_ok (segments_between scanned head tail) ?_ ?_
  · intro segment moved
    obtain ⟨original, inside, rfl⟩ := List.mem_map.mp moved
    exact (parses original (List.mem_append_left _ (List.mem_append_right _ inside))).moved _
  · have moved := spans.moved spanned.start
    rw [Nat.sub_self] at moved
    rw [itemsOf_moved, start, stop, ← List.append_nil ((itemsOf between).map _)]
    refine .cons ?_ moved .nil
    rw [List.map_map]
    exact flattens

/-! ### Parts -/

/-- The part that a node of a source is. -/
def partOf (source : List Char) (spanned : SpannedNode) : DynamicPart where
  source := String.ofList (spanned.textIn source)
  kind := (partKind? spanned.node).getD .block
  dependencies := (analyze spanned.node).dependencies
  locals := (analyze spanned.node).bound
  node := spanned.node

theorem partsOf_of_isDynamic (source : List Char) (spanned : SpannedNode) (rest : List SpannedNode)
    (dynamic : IsDynamic spanned.node) :
    partsOf source (spanned :: rest) = .dynamic (partOf source spanned) :: partsOf source rest := by
  obtain ⟨node, start, stop⟩ := spanned
  cases node with
  | text => cases dynamic
  | _ => rfl

/-- A dynamic part is the part of a node that is no text. -/
theorem exists_of_mem_partsOf {source : List Char} {nodes : List SpannedNode} {part : DynamicPart}
    (member : .dynamic part ∈ partsOf source nodes) :
    ∃ spanned ∈ nodes, IsDynamic spanned.node ∧ part = partOf source spanned := by
  induction nodes with
  | nil => cases member
  | cons first rest ih =>
    have later (member : .dynamic part ∈ partsOf source rest) :
        ∃ spanned ∈ first :: rest, IsDynamic spanned.node ∧ part = partOf source spanned := by
      obtain ⟨spanned, inside, found⟩ := ih member
      exact ⟨spanned, List.mem_cons_of_mem first inside, found⟩
    by_cases dynamic : IsDynamic first.node
    · rw [partsOf_of_isDynamic source first rest dynamic] at member
      rcases List.mem_cons.mp member with same | member
      · exact ⟨first, List.mem_cons_self, dynamic, Part.dynamic.inj same⟩
      · exact later member
    · obtain ⟨node, start, stop⟩ := first
      cases node with
      | text => exact later (mem_consText member)
      | _ => exact absurd trivial dynamic

/-- The text of a node is all of itself. -/
theorem SpannedNode.textIn_textIn (source : List Char) (spanned : SpannedNode) :
    SpannedNode.textIn (spanned.textIn source) ⟨spanned.node, 0, spanned.stop - spanned.start⟩ =
      spanned.textIn source := by
  have short : (spanned.textIn source).length ≤ spanned.stop - spanned.start := by
    rw [textIn, List.length_drop]
    exact Nat.sub_le_sub_right (List.length_take_le ..) _
  rw [textIn, List.drop_zero, List.take_of_length_le short]

theorem partOf_textIn (source : List Char) (spanned : SpannedNode) :
    partOf (spanned.textIn source) ⟨spanned.node, 0, spanned.stop - spanned.start⟩ =
      partOf source spanned := by
  rw [partOf, spanned.textIn_textIn, partOf]

theorem exists_of_compile {className variant source : String} {template : Template}
    (compiled : compile className variant source = .ok template) :
    ∃ nodes, parse source.toList = .ok nodes ∧
      template = ⟨className, variant, source, partsOf source.toList nodes⟩ := by
  unfold compile at compiled
  simp only at compiled
  split at compiled
  · cases compiled
  · next nodes parsed => exact ⟨nodes, parsed, (Except.ok.inj compiled).symm⟩

theorem compile_eq_ok {source : String} {nodes : List SpannedNode}
    (parsed : parse source.toList = .ok nodes) (className variant : String) :
    compile className variant source =
      .ok ⟨className, variant, source, partsOf source.toList nodes⟩ := by
  unfold compile
  simp only [parsed]

/--
**Parts are self-contained**: the text of a dynamic part is compiled, under the same class and
variant, to a template of exactly this part.
-/
theorem compile_source_of_mem {className variant source : String} {template : Template}
    (compiled : compile className variant source = .ok template) {part : DynamicPart}
    (member : .dynamic part ∈ template.parts) :
    compile className variant part.source =
      .ok ⟨className, variant, part.source, [.dynamic part]⟩ := by
  unfold compile at compiled
  simp only at compiled
  split at compiled
  · cases compiled
  · next nodes parsed =>
    cases compiled
    obtain ⟨spanned, inside, dynamic, rfl⟩ := exists_of_mem_partsOf member
    have text : (partOf source.toList spanned).source.toList = spanned.textIn source.toList :=
      String.toList_ofList
    rw [compile, text]
    simp only [parse_textIn parsed inside dynamic]
    rw [partsOf_of_isDynamic _ ⟨spanned.node, 0, _⟩ [] dynamic, partOf_textIn]
    rfl

/-- The sources of the parts that are computed. -/
def computedSources (template : Template) : List String :=
  template.parts.filterMap fun
    | .fixed _ => none
    | .dynamic part => some part.source

/--
A choice with a loop and a comment in it, an end of a tag in a string, a written `<%`, newlines that
are swallowed, and an output.
-/
def annotatedPage : String :=
  "a <%% b\n<% if x -%>\n<%# note %><% for i, n in y %>[<%= i + \"%>\" %>]<% end -%>\n" ++
    "<% else %>c <%% d<% end -%>\ne <%== z %>"

/-- The sources of its two parts that are computed. -/
def annotatedSources : List String :=
  ["<% if x -%>\n<%# note %><% for i, n in y %>[<%= i + \"%>\" %>]<% end -%>\n" ++
    "<% else %>c <%% d<% end -%>", "<%== z %>"]

theorem compile_source_of_mem_of_annotatedPage :
    ∃ template, compile "Page" "html" annotatedPage = .ok template ∧
      computedSources template = annotatedSources ∧
      ∀ part, .dynamic part ∈ template.parts →
        compile "Page" "html" part.source = .ok ⟨"Page", "html", part.source, [.dynamic part]⟩ := by
  have passes : isCompiledTo (compile "Page" "html" annotatedPage)
      (computedSources · == annotatedSources) = true := by
    decide +kernel
  obtain ⟨template, compiled, same⟩ := exists_of_isCompiledTo passes
  exact ⟨template, compiled, eq_of_beq same, fun part => compile_source_of_mem compiled⟩

end ReactiveView.Template
