/-
**Scanning loses nothing.**

The segments of a source are its texts and tags in order. They cover all of it, but for the newlines
that tags swallow; what a segment says is what stands there.

* `Text.replace_append`, `Text.replace_cons` — replacing goes through a text from the left.
* `Scans.exists_text` — a source begins with text, up to a tag or the end.
* `Covers`, `Segment.Faithful` — how segments cover a source, and what they say of it.
* `lossless_of_segments` — nothing of a source is lost.
-/

import ReactiveView.Proofs.Template.Scanning
import ReactiveView.Text.Search
import ReactiveView.Text.Utf8

namespace ReactiveView.Text

/-! ### Replacing -/

section Replacing

variable {part text : List Char}

/-- Characters that are to be passed over might as well not be there. -/
theorem piecesFrom_skip (separator : List Char) (skip : Nat) (piece text : List Char) :
    piecesFrom separator skip piece text = piecesFrom separator 0 piece (text.drop skip) := by
  induction text generalizing skip with
  | nil => simp only [List.drop_nil, piecesFrom]
  | cons c rest ih =>
    cases skip with
    | zero => rfl
    | succ more => rw [piecesFrom, ih, List.drop_succ_cons]

/-- What was read of a piece stands in front of the first piece. -/
theorem piecesFrom_piece (separator piece text : List Char) : ∃ first others,
    piecesFrom separator 0 [] text = first :: others ∧
      piecesFrom separator 0 piece text = (piece.reverse ++ first) :: others := by
  induction text generalizing piece with
  | nil => exact ⟨[], [], rfl, by rw [piecesFrom, List.append_nil]⟩
  | cons c rest ih =>
    rw [piecesFrom, piecesFrom]
    split
    · exact ⟨[], _, rfl, by rw [List.append_nil]⟩
    · obtain ⟨first, others, bare, read⟩ := ih [c]
      obtain ⟨_, _, same, longer⟩ := ih (c :: piece)
      rw [bare] at same
      cases same
      refine ⟨_, others, read, ?_⟩
      rw [longer]
      simp only [List.reverse_cons, List.append_assoc, List.reverse_nil, List.nil_append]

theorem replace_eq (nonempty : part ≠ []) (replacement text : List Char) :
    replace part replacement text = join replacement (piecesFrom part 0 [] text) := by
  cases part with
  | nil => exact absurd rfl nonempty
  | cons first more => rfl

theorem replace_nil (nonempty : part ≠ []) (replacement : List Char) :
    replace part replacement [] = [] := by
  rw [replace_eq nonempty, piecesFrom]
  rfl

/-- An occurrence at the front is replaced. -/
theorem replace_append (nonempty : part ≠ []) (replacement text : List Char) :
    replace part replacement (part ++ text) = replacement ++ replace part replacement text := by
  rw [replace_eq nonempty, replace_eq nonempty]
  obtain ⟨first, more, rfl⟩ := List.exists_cons_of_ne_nil nonempty
  have occurs : (first :: more).isPrefixOf (first :: (more ++ text)) = true := by
    rw [← List.cons_append, List.isPrefixOf_iff_prefix]
    exact List.prefix_append ..
  rw [List.cons_append, piecesFrom, if_pos occurs, piecesFrom_skip, List.length_cons,
    Nat.add_sub_cancel, List.drop_left]
  obtain ⟨piece, others, pieces, -⟩ := piecesFrom_piece (first :: more) [] text
  rw [pieces]
  simp [join, List.intercalate]

/-- A character where nothing is replaced stays. -/
theorem replace_cons (nonempty : part ≠ []) (replacement : List Char) {c : Char}
    (other : part.isPrefixOf (c :: text) = false) :
    replace part replacement (c :: text) = c :: replace part replacement text := by
  rw [replace_eq nonempty, replace_eq nonempty, piecesFrom, other]
  obtain ⟨first, others, bare, read⟩ := piecesFrom_piece part [c] text
  simp only [Bool.false_eq_true, if_false, read, bare]
  cases others <;> simp [join, List.intercalate]

end Replacing

end ReactiveView.Text

namespace ReactiveView.Template

/-! ### Texts -/

/-- A text with every `<%%` read as `<%`, from the left. -/
def unescaped (text : List Char) : List Char :=
  Text.replace ['<', '%', '%'] ['<', '%'] text

@[simp] theorem unescaped_nil : unescaped [] = [] := Text.replace_nil (by decide) _

theorem unescaped_escape (text : List Char) :
    unescaped ('<' :: '%' :: '%' :: text) = '<' :: '%' :: unescaped text :=
  Text.replace_append (by decide) _ text

theorem unescaped_char {c : Char} {text : List Char} (plain : c = '<' → text.head? ≠ some '%') :
    unescaped (c :: text) = c :: unescaped text := by
  refine Text.replace_cons (by decide) _ (Bool.eq_false_iff.mpr fun begins => ?_)
  obtain ⟨rest, same⟩ := List.isPrefixOf_iff_prefix.mp begins
  cases same
  exact plain rfl rfl

theorem unescaped_ne_nil {c : Char} {text : List Char} : unescaped (c :: text) ≠ [] := by
  by_cases begins : ['<', '%', '%'] <+: c :: text
  · obtain ⟨rest, same⟩ := begins
    rw [← same, List.cons_append, List.cons_append, List.cons_append, unescaped_escape]
    exact List.cons_ne_nil _ _
  · have other := Bool.eq_false_iff.mpr (mt List.isPrefixOf_iff_prefix.mp begins)
    rw [unescaped, Text.replace_cons (by decide) _ other]
    exact List.cons_ne_nil _ _

/-- What a source begins with at a place where no text does: nothing or a tag. -/
inductive AtTag : Nat → List Char → List Segment → Prop
  | done (place : Nat) : AtTag place [] []
  | tag {place : Nat} {kind : TagKind} {mark inside newline rest : List Char}
    {segments : List Segment} {next : Nat} (written : TagText kind mark inside)
    (swallows : swallowed inside (newline ++ rest) = newline.length)
    (follows : next = (makeTag kind mark.length place inside).stop + newline.length)
    (later : Scans [] next next rest segments) :
    AtTag place ('<' :: '%' :: (mark ++ (inside ++ '%' :: '>' :: (newline ++ rest))))
      (.tag (makeTag kind mark.length place inside) :: segments)

/--
**What a source begins with is text up to a tag or the end.** It goes on the text that was read
before, whatever that is, and means the same at every place.
-/
theorem Scans.exists_text {text source : List Char} {textStart place : Nat} {found : List Segment}
    (scans : Scans text textStart place source found) :
    ∃ raw tail later, source = raw ++ tail ∧ AtTag (place + raw.length) tail later ∧
      found = textSegment (text.reverse ++ unescaped raw) textStart (place + raw.length) ++ later ∧
      ∀ {f}, ShiftsFrom f place → ∀ other start,
        Scans other start (f place) source
          (textSegment (other.reverse ++ unescaped raw) start (f place + raw.length) ++
            later.map (Segment.relocated f)) := by
  induction scans with
  | done text textStart place =>
    refine ⟨[], [], [], rfl, .done _, ?_, fun _ other start => ?_⟩
    · rw [unescaped_nil, List.append_nil, List.append_nil, List.length_nil, Nat.add_zero]
    · rw [unescaped_nil, List.append_nil, List.map_nil, List.append_nil, List.length_nil,
        Nat.add_zero]
      exact .done ..
  | @char text textStart place c rest segments plain later ih =>
    obtain ⟨raw, tail, behind, rfl, atTag, rfl, anywhere⟩ := ih
    have lone : c = '<' → raw.head? ≠ some '%' := by
      intro opens begins
      refine plain opens ?_
      rw [List.head?_append, begins, Option.some_or]
    have length (start : Nat) : start + 1 + raw.length = start + (c :: raw).length := by
      rw [List.length_cons]
      omega
    have joined (other : List Char) :
        (c :: other).reverse ++ unescaped raw = other.reverse ++ unescaped (c :: raw) := by
      rw [unescaped_char lone, List.reverse_cons, List.append_assoc, List.singleton_append]
    refine ⟨c :: raw, tail, behind, rfl, length place ▸ atTag, by rw [joined, length], ?_⟩
    intro f shifts other start
    have goesOn := anywhere (shifts.later (Nat.le_add_right place 1)) (c :: other) start
    rw [shifts, length, joined] at goesOn
    exact .char plain goesOn
  | @escape text textStart place rest segments later ih =>
    obtain ⟨raw, tail, behind, rfl, atTag, rfl, anywhere⟩ := ih
    have length (start : Nat) :
        start + 3 + raw.length = start + ('<' :: '%' :: '%' :: raw).length := by
      simp only [List.length_cons]
      omega
    have joined (other : List Char) : ('%' :: '<' :: other).reverse ++ unescaped raw =
        other.reverse ++ unescaped ('<' :: '%' :: '%' :: raw) := by
      rw [unescaped_escape]
      simp only [List.reverse_cons, List.append_assoc, List.cons_append, List.nil_append]
    refine ⟨_, tail, behind, rfl, length place ▸ atTag, by rw [joined, length], ?_⟩
    intro f shifts other start
    have goesOn := anywhere (shifts.later (Nat.le_add_right place 3)) ('%' :: '<' :: other) start
    rw [shifts, length, joined] at goesOn
    exact .escape goesOn
  | @tag text textStart place kind mark inside newline rest segments next written swallows follows
      later ih =>
    refine ⟨[], _, _, rfl, .tag written swallows follows later, ?_,
      fun {f} shifts other start => ?_⟩
    · rw [unescaped_nil, List.append_nil, List.length_nil, Nat.add_zero]
    · have order : place ≤ next := by
        simp only [follows, makeTag]
        omega
      simp only [unescaped_nil, List.append_nil, List.length_nil, Nat.add_zero, List.map_cons,
        Segment.relocated, makeTag_relocated shifts]
      refine .tag written swallows ?_ (later.relocated (shifts.later order))
      simp only [follows, makeTag, Nat.add_assoc, shifts _]

/-! ### What segments cover -/

/-- The place of the first character of a segment. -/
def Segment.start : Segment → Nat
  | .text _ start _ => start
  | .tag found => found.start

/-- The place after the last character of a segment. -/
def Segment.stop : Segment → Nat
  | .text _ _ stop => stop
  | .tag found => found.stop

/-- The part of a source that a segment covers. -/
def Segment.textIn (source : List Char) (segment : Segment) : List Char :=
  (source.take segment.stop).drop segment.start

/-- How many characters behind a segment no segment covers: those of one newline behind a tag that
is closed by `-%>`. -/
def Segment.leftOut (source : List Char) (segment : Segment) : Nat :=
  match segment with
  | .text .. => 0
  | .tag found =>
    if ['-', '%', '>'] <:+ segment.textIn source then newlineLength (source.drop found.stop) else 0

/-- **Segments cover a source from a place on**: each starts where the one before it stops, or
behind the newline that is left out there, and the last one ends the source. -/
inductive Covers (source : List Char) : Nat → List Segment → Prop
  | done : Covers source source.length []
  | next {segment : Segment} {later : List Segment} (ordered : segment.start < segment.stop)
    (goesOn : Covers source (segment.stop + segment.leftOut source) later) :
    Covers source segment.start (segment :: later)

/-- **A tag stands between `<%` and `%>`, and its code is found at its place**, without blanks at
its ends. -/
structure Tag.Faithful (source : List Char) (found : Tag) : Prop where
  delimited : ∃ inner, (Segment.tag found).textIn source = '<' :: '%' :: (inner ++ ['%', '>'])
  inside : found.start + 2 ≤ found.codeStart ∧
    found.codeStart + found.code.length + 2 ≤ found.stop
  code : (source.drop found.codeStart).take found.code.length = found.code
  first : ∀ c, found.code.head? = some c → Text.isBlank c = false
  last : ∀ c, found.code.getLast? = some c → Text.isBlank c = false

/-- **What a segment says of the part of a source that it covers.** -/
def Segment.Faithful (source : List Char) (segment : Segment) : Prop :=
  match segment with
  | .text chars .. => chars ≠ [] ∧ chars = unescaped (segment.textIn source)
  | .tag found => found.Faithful source

/-- The number of bytes in front of a place. -/
def byteOffset (source : List Char) (place : Nat) : Nat := (Utf8.encode (source.take place)).length

/-- **The ends of a segment cut no character**: its bytes are those of the characters it covers. -/
structure Segment.OnBoundaries (source : List Char) (segment : Segment) : Prop where
  inside : segment.stop ≤ source.length
  bytes : ((Utf8.encode source).take (byteOffset source segment.stop)).drop
    (byteOffset source segment.start) = Utf8.encode (segment.textIn source)

/-! ### The code of a tag -/

/-- The blanks in front of a trimmed text, and those behind it. -/
theorem exists_trim (raw : List Char) : ∃ front back, raw = front ++ (Text.trim raw ++ back) ∧
    raw.length - (Text.trimStart raw).length = front.length := by
  obtain ⟨back, tail⟩ := Text.trimEnd_prefix (Text.trimStart raw)
  have whole : raw.takeWhile Text.isBlank ++ Text.trimStart raw = raw :=
    List.takeWhile_append_dropWhile
  refine ⟨raw.takeWhile Text.isBlank, back, by rw [Text.trim, tail, whole], ?_⟩
  have length := congrArg List.length whole
  rw [List.length_append] at length
  omega

/-- The code of a tag is what is inside it without a last hyphen, and trimmed. -/
theorem exists_makeTag (kind : TagKind) (mark place : Nat) (inside : List Char) :
    ∃ raw hyphen, inside = raw ++ hyphen ∧ (makeTag kind mark place inside).code = Text.trim raw ∧
      (makeTag kind mark place inside).codeStart =
        place + 2 + mark + (raw.length - (Text.trimStart raw).length) := by
  by_cases trimmed : inside.getLast? = some '-'
  · obtain ⟨raw, rfl⟩ := List.getLast?_eq_some_iff.mp trimmed
    refine ⟨raw, ['-'], rfl, ?_, ?_⟩ <;>
      simp only [makeTag, trimmed, beq_self_eq_true, if_true, List.dropLast_concat]
  · refine ⟨inside, [], (List.append_nil _).symm, ?_, ?_⟩ <;>
      simp only [makeTag, beq_eq_false_iff_ne.mpr trimmed, Bool.false_eq_true, if_false]

/-- The text of a tag with a mark and what is inside. -/
def tagSpelling (mark inside : List Char) : List Char :=
  '<' :: '%' :: (mark ++ (inside ++ ['%', '>']))

theorem tagSpelling_append (mark inside rest : List Char) :
    tagSpelling mark inside ++ rest = '<' :: '%' :: (mark ++ (inside ++ '%' :: '>' :: rest)) := by
  simp only [tagSpelling, List.append_assoc, List.cons_append, List.nil_append]

/-- The marks of tags. -/
theorem TagText.mark_mem {kind : TagKind} {mark inside : List Char}
    (written : TagText kind mark inside) : mark ∈ [[], ['#'], ['='], ['=', '=']] := by
  have marked := congrArg Prod.snd (written.marked [])
  unfold tagKind at marked
  match mark with
  | [] => simp
  | [first] =>
    split at marked
    · next same =>
      obtain ⟨rfl, -⟩ := List.cons.inj same
      simp
    · cases marked
    · next same =>
      obtain ⟨rfl, -⟩ := List.cons.inj same
      simp
    · cases marked
  | [first, second] =>
    split at marked
    · cases marked
    · next same =>
      obtain ⟨rfl, others⟩ := List.cons.inj same
      obtain ⟨rfl, -⟩ := List.cons.inj others
      simp
    · cases marked
    · cases marked
  | _ :: _ :: _ :: _ => split at marked <;> cases marked

/-- A tag is closed by `-%>` exactly if what is inside it ends with a hyphen. -/
theorem TagText.hyphen_iff {kind : TagKind} {mark inside : List Char}
    (written : TagText kind mark inside) :
    ['-', '%', '>'] <:+ tagSpelling mark inside ↔ inside.getLast? = some '-' := by
  have parted : tagSpelling mark inside = (('<' :: '%' :: mark) ++ inside) ++ ['%', '>'] := by
    simp only [tagSpelling, List.append_assoc, List.cons_append]
  have noHyphen : ('<' :: '%' :: mark).getLast? ≠ some '-' := by
    have marks := written.mark_mem
    simp only [List.mem_cons, List.not_mem_nil, or_false] at marks
    rcases marks with rfl | rfl | rfl | rfl <;> decide
  rw [parted, show ['-', '%', '>'] = ['-'] ++ ['%', '>'] from rfl, List.suffix_append_self_iff,
    List.suffix_iff_exists_eq_append, ← List.getLast?_eq_some_iff, List.getLast?_append]
  cases last : inside.getLast? with
  | none => simpa only [Option.none_or, reduceCtorEq, iff_false] using noHyphen
  | some c => rw [Option.some_or]

/-! ### Covering -/

/-- A part of a source is covered by a segment that starts and stops where it does. -/
theorem covered_of_append {source before part after : List Char} (segment : Segment)
    (whole : source = before ++ (part ++ after)) (start : segment.start = before.length)
    (stop : segment.stop = before.length + part.length) :
    segment.textIn source = part ∧ source.drop segment.stop = after ∧
      segment.OnBoundaries source := by
  have parted : source = (before ++ part) ++ after := by rw [whole, List.append_assoc]
  have length : segment.stop = (before ++ part).length := by rw [stop, List.length_append]
  have front : source.take segment.stop = before ++ part := by
    rw [parted, length, List.take_left]
  have back : source.take segment.start = before := by rw [whole, start, List.take_left]
  have text : segment.textIn source = part := by
    rw [Segment.textIn, front, start, List.drop_left]
  refine ⟨text, by rw [parted, length, List.drop_left], ?_, ?_⟩
  · simp only [parted, length, List.length_append]
    omega
  · have bytes : Utf8.encode source = Utf8.encode (before ++ part) ++ Utf8.encode after := by
      simp only [parted, Utf8.encode, List.flatMap_append]
    have joined : Utf8.encode (before ++ part) = Utf8.encode before ++ Utf8.encode part := by
      simp only [Utf8.encode, List.flatMap_append]
    rw [text, byteOffset, byteOffset, front, back, bytes, List.take_left, joined, List.drop_left]

/-- The code of a tag in a source is found at its place, without blanks at its ends. -/
theorem faithful_of_append {source before mark inside after : List Char} (kind : TagKind)
    (whole : source = before ++ (tagSpelling mark inside ++ after))
    (covered : (Segment.tag (makeTag kind mark.length before.length inside)).textIn source =
      tagSpelling mark inside) :
    (makeTag kind mark.length before.length inside).Faithful source := by
  obtain ⟨raw, hyphen, split, code, place⟩ :=
    exists_makeTag kind mark.length before.length inside
  obtain ⟨front, back, same, leading⟩ := exists_trim raw
  rw [leading] at place
  have parts : inside = front ++ (Text.trim raw ++ (back ++ hyphen)) := by
    rw [split]
    exact (congrArg (· ++ hyphen) same).trans (by simp only [List.append_assoc])
  have length := congrArg List.length parts
  simp only [List.length_append] at length
  refine ⟨⟨mark ++ inside, ?_⟩, ⟨?_, ?_⟩, ?_, fun c => ?_, fun c => ?_⟩
  · rw [covered, tagSpelling, List.append_assoc]
  · rw [place]
    simp only [makeTag]
    omega
  · rw [place, code]
    simp only [makeTag]
    omega
  · have parted : source = (before ++ '<' :: '%' :: (mark ++ front)) ++
        (Text.trim raw ++ (back ++ (hyphen ++ '%' :: '>' :: after))) := by
      rw [whole, tagSpelling_append, parts]
      simp only [List.append_assoc, List.cons_append]
    have distance : before.length + 2 + mark.length + front.length =
        (before ++ '<' :: '%' :: (mark ++ front)).length := by
      simp only [List.length_append, List.length_cons]
      omega
    rw [code, place, distance, parted, List.drop_left, List.take_left]
  · rw [code]
    exact Text.trim_head raw
  · rw [code]
    exact Text.trim_last raw

/-- **Nothing of a source is lost** from a place on. -/
structure Lossless (source : List Char) (place : Nat) (found : List Segment) : Prop where
  covers : Covers source place found
  faithful : ∀ segment ∈ found, segment.Faithful source
  boundaries : ∀ segment ∈ found, segment.OnBoundaries source

namespace Lossless

variable {source before rest : List Char} {later : List Segment}

theorem done : Lossless source source.length [] := ⟨.done, nofun, nofun⟩

theorem next {segment : Segment} {start : Nat} (starts : segment.start = start)
    (ordered : segment.start < segment.stop) (faithful : segment.Faithful source)
    (boundaries : segment.OnBoundaries source)
    (goesOn : Lossless source (segment.stop + segment.leftOut source) later) :
    Lossless source start (segment :: later) where
  covers := starts ▸ .next ordered goesOn.covers
  faithful := List.forall_mem_cons.mpr ⟨faithful, goesOn.faithful⟩
  boundaries := List.forall_mem_cons.mpr ⟨boundaries, goesOn.boundaries⟩

/-- A text in front of what loses nothing. -/
theorem text {raw : List Char} (whole : source = before ++ (raw ++ rest))
    (goesOn : Lossless source (before.length + raw.length) later) :
    Lossless source before.length
      (textSegment (unescaped raw) before.length (before.length + raw.length) ++ later) := by
  cases raw with
  | nil => simpa [textSegment] using goesOn
  | cons c raw =>
    let segment : Segment :=
      .text (unescaped (c :: raw)) before.length (before.length + (c :: raw).length)
    obtain ⟨covered, -, boundaries⟩ := covered_of_append segment whole rfl rfl
    have present : (unescaped (c :: raw)).isEmpty = false := by
      rw [Bool.eq_false_iff, ne_eq, List.isEmpty_iff]
      exact unescaped_ne_nil
    rw [textSegment, present]
    show Lossless source before.length (segment :: later)
    refine next rfl ?_ ⟨unescaped_ne_nil, by rw [covered]⟩ boundaries goesOn
    exact Nat.lt_add_of_pos_right (Nat.succ_pos raw.length)

/-- A tag, and the newline that it swallows, in front of what loses nothing. -/
theorem tag {kind : TagKind} {mark inside newline : List Char} (written : TagText kind mark inside)
    (swallows : swallowed inside (newline ++ rest) = newline.length)
    (whole : source = before ++ (tagSpelling mark inside ++ (newline ++ rest)))
    (goesOn : Lossless source
      ((makeTag kind mark.length before.length inside).stop + newline.length) later) :
    Lossless source before.length
      (.tag (makeTag kind mark.length before.length inside) :: later) := by
  let found := makeTag kind mark.length before.length inside
  have stop : found.stop = before.length + (tagSpelling mark inside).length := by
    simp only [found, makeTag, tagSpelling, List.length_cons, List.length_append, List.length_nil]
    omega
  obtain ⟨covered, behind, boundaries⟩ :=
    covered_of_append (.tag found) whole rfl stop
  have leftOut : (Segment.tag found).leftOut source = newline.length := by
    have behind : source.drop found.stop = newline ++ rest := behind
    simp only [Segment.leftOut, covered, written.hyphen_iff, behind]
    rw [← swallows, swallowed]
    simp only [beq_iff_eq]
  refine next rfl ?_ (faithful_of_append kind whole covered) boundaries (leftOut ▸ goesOn)
  simp only [Segment.start, Segment.stop, makeTag]
  omega

end Lossless

/-- **Scanning loses nothing** of what follows a place. -/
theorem Scans.lossless {source before rest : List Char} {found : List Segment}
    (scans : Scans [] before.length before.length rest found) (whole : source = before ++ rest) :
    Lossless source before.length found := by
  obtain ⟨raw, tail, later, split, atTag, rfl, -⟩ := scans.exists_text
  rw [split] at whole
  refine .text whole ?_
  have parted : source = (before ++ raw) ++ tail := by rw [whole, List.append_assoc]
  rw [← List.length_append] at atTag ⊢
  generalize front : before ++ raw = read at atTag parted
  generalize start : read.length = place at atTag
  cases atTag with
  | done =>
    rw [List.append_nil] at parted
    rw [← start, ← parted]
    exact .done
  | @tag kind mark inside newline rest segments next written swallows follows goesOn =>
    subst start
    rw [← tagSpelling_append] at parted
    refine .tag written swallows parted ?_
    have through : next = (read ++ (tagSpelling mark inside ++ newline)).length := by
      simp only [follows, makeTag, tagSpelling, List.length_append, List.length_cons,
        List.length_nil]
      omega
    rw [← follows]
    rw [through] at goesOn ⊢
    exact goesOn.lossless (by simp only [parted, List.append_assoc])
termination_by rest.length
decreasing_by
  simp only [split, List.length_append, List.length_cons]
  omega

/--
**Scanning loses nothing.** The segments of a source cover it in order and without a gap, but for
the one newline that stands right behind a tag closed by `-%>`. A text has characters, and it is the
part of the source that it covers with every `<%%` read as `<%`. A tag stands between `<%` and
`%>`, and its code is found at its place, without blanks at its ends.
-/
theorem lossless_of_segments {source : List Char} {found : List Segment}
    (scanned : segments source = .ok found) : Lossless source 0 found := by
  have scans : Scans [] ([] : List Char).length ([] : List Char).length source found :=
    scans_iff.mpr scanned
  exact scans.lossless rfl

/-- A character of two bytes, written `<%`, both newlines behind tags that swallow them, and an end
of a tag in a string. -/
def mixedPage : List Char := "ß<%%<%= 'a%>' -%>\r\n\n<%#x-%>\nz<%%%>".toList

/-- The parts of the source that its segments cover. -/
def mixedParts : List String :=
  ["ß<%%", "<%= 'a%>' -%>", "\n", "<%#x-%>", "z<%%%>"]

theorem lossless_of_segments_of_mixedPage : ∃ found, segments mixedPage = .ok found ∧
    found.map (fun segment => String.ofList (segment.textIn mixedPage)) = mixedParts ∧
    Lossless mixedPage 0 found := by
  have parts : (segments mixedPage).toOption.map
      (List.map fun segment => String.ofList (segment.textIn mixedPage)) = some mixedParts := by
    decide +kernel
  cases scanned : segments mixedPage with
  | error => rw [scanned] at parts; cases parts
  | ok found =>
    rw [scanned] at parts
    exact ⟨found, rfl, Option.some.inj parts, lossless_of_segments scanned⟩

end ReactiveView.Template
