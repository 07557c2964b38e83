/-
**Scanning may start and end at any tag.**

A source is scanned one character, one written `<%` or one tag at a time. What is found does not
hang on what stands before a tag, or behind it: from the start of the tag on, the tag and all later
segments are found again; in the source up to its end, the earlier segments and the tag. Nor does it
hang on where the source is: in front, all segments are as many characters further to the front.

* `closing?_spec` — where a tag ends is seen from its code, whatever follows.
* `Scans`, `scans_iff` — how a source is scanned, step by step.
* `Scans.restart`, `Scans.cut`, `Scans.moved` — from a tag on, up to a tag, at another place.
* `segments_between` — the text from one tag to another is scanned to the segments between them.
-/

import ReactiveView.Template.Segment

namespace ReactiveView.Template

/-! ### Where a tag ends -/

/-- What a text begins with up to a character does not hang on what follows the character. -/
theorem exists_cons_of_append {front other more : List Char} {mark c : Char}
    (starts : front ++ mark :: other = c :: more) (rest : List Char) :
    ∃ later, front ++ mark :: rest = c :: later := by
  cases front with
  | nil =>
    cases starts
    exact ⟨rest, rfl⟩
  | cons first front =>
    cases starts
    exact ⟨front ++ mark :: rest, rfl⟩

/-- What is inside a comment, its end and what follows make up the text. -/
theorem commentEnd?_spec {text inside after : List Char}
    (found : commentEnd? text = some (inside, after)) :
    text = inside ++ '%' :: '>' :: after ∧
      ∀ other, commentEnd? (inside ++ '%' :: '>' :: other) = some (inside, other) := by
  fun_induction commentEnd? text generalizing inside with
  | case1 => cases found
  | case2 rest =>
    cases found
    exact ⟨rfl, fun _ => rfl⟩
  | case3 c rest open_ ih =>
    obtain ⟨⟨inner, behind⟩, eq, same⟩ := Option.map_eq_some_iff.mp found
    obtain ⟨rfl, rfl⟩ : c :: inner = inside ∧ behind = after := by simpa using same
    obtain ⟨rfl, again⟩ := ih eq
    refine ⟨rfl, fun other => ?_⟩
    rw [List.cons_append, commentEnd?, again, Option.map_some]
    intro more percent closes
    obtain ⟨later, closed⟩ := exists_cons_of_append closes ('>' :: behind)
    exact open_ later percent closed

theorem codeEnd?_spec {quote : Option Char} {text inside after : List Char}
    (found : codeEnd? quote text = some (inside, after)) :
    text = inside ++ '%' :: '>' :: after ∧
      ∀ other, codeEnd? quote (inside ++ '%' :: '>' :: other) = some (inside, other) := by
  fun_induction codeEnd? quote text generalizing inside with
  | case1 => cases found
  | case2 open_ skipped rest ih =>
    obtain ⟨⟨inner, behind⟩, eq, same⟩ := Option.map_eq_some_iff.mp found
    obtain ⟨rfl, rfl⟩ : '\\' :: skipped :: inner = inside ∧ behind = after := by simpa using same
    obtain ⟨rfl, again⟩ := ih eq
    refine ⟨rfl, fun other => ?_⟩
    rw [List.cons_append, List.cons_append, codeEnd?, again, Option.map_some]
  | case3 open_ c rest lone ih =>
    obtain ⟨⟨inner, behind⟩, eq, same⟩ := Option.map_eq_some_iff.mp found
    obtain ⟨rfl, rfl⟩ : c :: inner = inside ∧ behind = after := by simpa using same
    obtain ⟨rfl, again⟩ := ih eq
    refine ⟨rfl, fun other => ?_⟩
    rw [List.cons_append, codeEnd?, again, Option.map_some]
    intro skipped more backslash follows
    obtain ⟨later, escaped⟩ := exists_cons_of_append follows ('>' :: behind)
    exact lone skipped later backslash escaped
  | case4 rest =>
    cases found
    exact ⟨rfl, fun _ => by rw [List.nil_append, codeEnd?]⟩
  | case5 c rest open_ ih =>
    obtain ⟨⟨inner, behind⟩, eq, same⟩ := Option.map_eq_some_iff.mp found
    obtain ⟨rfl, rfl⟩ : c :: inner = inside ∧ behind = after := by simpa using same
    obtain ⟨rfl, again⟩ := ih eq
    refine ⟨rfl, fun other => ?_⟩
    rw [List.cons_append, codeEnd?, again, Option.map_some]
    intro more percent closes
    obtain ⟨later, closed⟩ := exists_cons_of_append closes ('>' :: behind)
    exact open_ later percent closed

/-- **Where a tag ends is seen from what is inside it**, whatever follows. -/
theorem closing?_spec {kind : TagKind} {text inside after : List Char}
    (found : closing? kind text = some (inside, after)) :
    text = inside ++ '%' :: '>' :: after ∧
      ∀ other, closing? kind (inside ++ '%' :: '>' :: other) = some (inside, other) := by
  cases kind with
  | comment => exact commentEnd?_spec found
  | output | rawOutput | statement => exact codeEnd?_spec found

/-- The mark of a tag is seen from its first two characters. -/
theorem tagKind_append {front : List Char} (two : 2 ≤ front.length) (rest : List Char) :
    tagKind (front ++ rest) = tagKind front := by
  match front, two with
  | first :: second :: front, _ =>
    by_cases sharp : first = '#'
    · subst sharp
      rfl
    · by_cases equals : first = '='
      · subst equals
        by_cases double : second = '='
        · subst double
          rfl
        · simp [tagKind, double]
      · simp [tagKind, sharp, equals]

theorem mark_le_length (inner : List Char) : (tagKind inner).2 ≤ inner.length := by
  unfold tagKind
  split <;> simp

/-- The number of characters that a tag with the given inside swallows of what follows it. -/
def swallowed (inside after : List Char) : Nat :=
  if inside.getLast? == some '-' then newlineLength after else 0

theorem newlineLength_le (text : List Char) : newlineLength text ≤ text.length := by
  unfold newlineLength
  split <;> simp

theorem swallowed_le (inside after : List Char) : swallowed inside after ≤ after.length := by
  unfold swallowed
  split
  · exact newlineLength_le after
  · exact Nat.zero_le _

/-- What follows a newline, or the lack of one, decides nothing about it. -/
theorem newlineLength_of_append {newline front rest : List Char}
    (length : newlineLength (newline ++ (front ++ rest)) = newline.length) :
    newlineLength (newline ++ front) = newline.length := by
  match newline with
  | [] =>
    rw [List.nil_append] at length ⊢
    unfold newlineLength
    split
    · cases length
    · cases length
    · rfl
  | [first] =>
    have newline : first = '\n' := by
      unfold newlineLength at length
      split at length
      · cases length
      · next same => exact (List.cons.inj same).1
      · cases length
    subst newline
    rfl
  | [first, second] =>
    have newline : first = '\r' ∧ second = '\n' := by
      unfold newlineLength at length
      split at length
      · next same =>
        obtain ⟨rfl, others⟩ := List.cons.inj same
        exact ⟨rfl, (List.cons.inj others).1⟩
      · cases length
      · cases length
    obtain ⟨rfl, rfl⟩ := newline
    rfl
  | _ :: _ :: _ :: _ =>
    unfold newlineLength at length
    split at length <;> cases length

theorem swallowed_of_append {inside newline front rest : List Char}
    (length : swallowed inside (newline ++ (front ++ rest)) = newline.length) :
    swallowed inside (newline ++ front) = newline.length := by
  unfold swallowed at length ⊢
  split
  · next hyphen =>
    rw [if_pos hyphen] at length
    exact newlineLength_of_append length
  · next none =>
    rw [if_neg none] at length
    exact length

/-! ### Step by step -/

/-- **The text of a tag**: its mark and what is inside, which make it a tag whatever follows. -/
structure TagText (kind : TagKind) (mark inside : List Char) : Prop where
  noEscape : (mark ++ (inside ++ ['%'])).head? ≠ some '%'
  marked : ∀ other, tagKind (mark ++ (inside ++ '%' :: '>' :: other)) = (kind, mark.length)
  closes : ∀ other, closing? kind (inside ++ '%' :: '>' :: other) = some (inside, other)

/--
**How a source is scanned**: `text` was read since `textStart`, backwards, and the source is at
`place`.
-/
inductive Scans : List Char → Nat → Nat → List Char → List Segment → Prop
  | done (text : List Char) (textStart place : Nat) :
    Scans text textStart place [] (textSegment text.reverse textStart place)
  | char {text : List Char} {textStart place : Nat} {c : Char} {rest : List Char}
    {segments : List Segment} (plain : c = '<' → rest.head? ≠ some '%')
    (later : Scans (c :: text) textStart (place + 1) rest segments) :
    Scans text textStart place (c :: rest) segments
  | escape {text : List Char} {textStart place : Nat} {rest : List Char} {segments : List Segment}
    (later : Scans ('%' :: '<' :: text) textStart (place + 3) rest segments) :
    Scans text textStart place ('<' :: '%' :: '%' :: rest) segments
  | tag {text : List Char} {textStart place : Nat} {kind : TagKind}
    {mark inside newline rest : List Char} {segments : List Segment} {next : Nat}
    (written : TagText kind mark inside)
    (swallows : swallowed inside (newline ++ rest) = newline.length)
    (follows : next = (makeTag kind mark.length place inside).stop + newline.length)
    (later : Scans [] next next rest segments) :
    Scans text textStart place
      ('<' :: '%' :: (mark ++ (inside ++ '%' :: '>' :: (newline ++ rest))))
      (textSegment text.reverse textStart place ++
        .tag (makeTag kind mark.length place inside) :: segments)

theorem spelling_eq (mark inside other : List Char) :
    mark ++ (inside ++ '%' :: '>' :: other) = (mark ++ (inside ++ ['%'])) ++ '>' :: other := by
  simp only [List.append_assoc, List.cons_append, List.nil_append]

/-- The text of the tag that was found at a place. -/
theorem tagText_of_closing? {inner inside after : List Char} {kind : TagKind} {mark : Nat}
    (noEscape : ∀ rest, inner ≠ '%' :: rest) (marked : tagKind inner = (kind, mark))
    (closed : closing? kind (inner.drop mark) = some (inside, after)) :
    TagText kind (inner.take mark) inside ∧ (inner.take mark).length = mark ∧
      inner = inner.take mark ++ (inside ++ '%' :: '>' :: after) := by
  obtain ⟨parted, closes⟩ := closing?_spec closed
  have length : (inner.take mark).length = mark := by
    have bound := mark_le_length inner
    rw [marked] at bound
    exact List.length_take_of_le bound
  have whole : inner = inner.take mark ++ (inside ++ '%' :: '>' :: after) := by
    rw [← parted, List.take_append_drop]
  have parts (other : List Char) : inner.take mark ++ (inside ++ '%' :: '>' :: other) =
      (inner.take mark ++ (inside ++ ['%', '>'])) ++ other := by
    simp only [List.append_assoc, List.cons_append, List.nil_append]
  refine ⟨⟨fun starts => ?_, fun other => ?_, closes⟩, length, whole⟩
  · obtain ⟨rest, same⟩ := List.head?_eq_some_iff.mp starts
    refine noEscape (rest ++ '>' :: after) ?_
    rw [← List.cons_append, ← same, ← spelling_eq]
    exact whole
  · have two : 2 ≤ (inner.take mark ++ (inside ++ ['%', '>'])).length := by
      simp only [List.length_append, List.length_cons, List.length_nil]
      omega
    rw [length, parts, tagKind_append two, ← tagKind_append two after, ← parts, ← whole, marked]

theorem scans_of_segmentsFrom {text source : List Char} {textStart place : Nat}
    {found : List Segment} (scanned : segmentsFrom text textStart place source = .ok found) :
    Scans text textStart place source found := by
  fun_induction segmentsFrom text textStart place source generalizing found with
  | case1 text textStart place rest ih => exact .escape (ih scanned)
  | case2 => cases scanned
  | case3 => cases scanned
  | case4 text textStart place inner noEscape kind mark marked inside after closed tag swallows next
      later eq =>
    rename_i ih
    cases scanned
    obtain ⟨written, length, whole⟩ := tagText_of_closing? noEscape marked closed
    have taken : (after.take swallows).length = swallows :=
      List.length_take_of_le (swallowed_le inside after)
    have follows : next = (makeTag kind (inner.take mark).length place inside).stop +
        (after.take swallows).length := by
      rw [length, taken]
    have newline : swallowed inside (after.take swallows ++ after.drop swallows) =
        (after.take swallows).length := by
      rw [List.take_append_drop, taken]
      rfl
    have scans : Scans text textStart place _ _ := .tag written newline follows (ih eq)
    rwa [List.take_append_drop, ← whole, length] at scans
  | case5 text textStart place c rest noEscape noTag ih =>
    refine .char (fun opens starts => ?_) (ih scanned)
    obtain ⟨inner, rfl⟩ := List.head?_eq_some_iff.mp starts
    exact noTag inner opens rfl
  | case6 text textStart place =>
    cases scanned
    exact .done text textStart place

theorem Scans.segmentsFrom_eq {text source : List Char} {textStart place : Nat}
    {found : List Segment} (scans : Scans text textStart place source found) :
    segmentsFrom text textStart place source = .ok found := by
  induction scans with
  | done text textStart place => rw [segmentsFrom]
  | @char text textStart place c rest segments plain _ ih =>
    rw [segmentsFrom]
    · exact ih
    · rintro more rfl rfl
      exact plain rfl rfl
    · rintro more rfl rfl
      exact plain rfl rfl
  | escape _ ih =>
    rw [segmentsFrom]
    exact ih
  | @tag text textStart place kind mark inside newline rest segments next written swallows follows
      _ ih =>
    rw [segmentsFrom]
    · simp only [written.marked]
      split
      · next closed =>
        rw [written.marked, List.drop_left, written.closes] at closed
        cases closed
      · next found after closed =>
        rw [written.marked, List.drop_left, written.closes] at closed
        cases closed
        have counted : (if inside.getLast? == some '-' then newlineLength (newline ++ rest) else 0) =
            newline.length := swallows
        simp only [counted, List.drop_left, ← follows, ih]
    · intro more starts
      obtain ⟨first, front, spelled⟩ := List.exists_cons_of_ne_nil
        (List.append_ne_nil_of_right_ne_nil mark
          (List.append_ne_nil_of_right_ne_nil inside (List.cons_ne_nil '%' [])))
      rw [spelling_eq, spelled] at starts
      refine written.noEscape ?_
      rw [spelled, List.head?_cons, (List.cons.inj starts).1]

/-- **What scanning finds.** -/
theorem scans_iff {source : List Char} {found : List Segment} :
    Scans [] 0 0 source found ↔ segments source = .ok found :=
  ⟨Scans.segmentsFrom_eq, scans_of_segmentsFrom⟩

/-! ### From a tag on, and up to a tag -/

theorem tag_notMem_textSegment (text : List Char) (textStart place : Nat) (found : Tag) :
    Segment.tag found ∉ textSegment text textStart place := by
  unfold textSegment
  split <;> simp

/-- A tag behind a text and the tag that ends it is this tag, or it is among the later segments. -/
theorem textSegment_append_eq {text : List Char} {textStart place : Nat} {first found : Tag}
    {later front back : List Segment}
    (same : textSegment text textStart place ++ .tag first :: later = front ++ .tag found :: back) :
    (front = textSegment text textStart place ∧ first = found ∧ later = back) ∨
      ∃ more, front = textSegment text textStart place ++ .tag first :: more ∧
        later = more ++ .tag found :: back := by
  rcases List.append_eq_append_iff.mp same with ⟨between, rfl, rest⟩ | ⟨between, before, rest⟩
  · cases between with
    | nil =>
      cases rest
      exact Or.inl ⟨List.append_nil _, rfl, rfl⟩
    | cons _ more =>
      cases rest
      exact Or.inr ⟨more, rfl, rfl⟩
  · cases between with
    | nil =>
      cases rest
      exact Or.inl ⟨by rw [before, List.append_nil], rfl, rfl⟩
    | cons _ more =>
      obtain ⟨rfl, _⟩ := List.cons.inj rest
      exact absurd (before ▸ List.mem_append_right front List.mem_cons_self)
        (tag_notMem_textSegment text textStart place found)

/-- **Scanning may start at a tag**: from there on the tag and all later segments are found again. -/
theorem Scans.restart {text source : List Char} {textStart place : Nat} {front back : List Segment}
    {found : Tag} (scans : Scans text textStart place source (front ++ .tag found :: back)) :
    ∃ skipped rest, source = skipped ++ rest ∧ found.start = place + skipped.length ∧
      Scans [] found.start found.start rest (.tag found :: back) := by
  generalize same : front ++ .tag found :: back = segments at scans
  induction scans generalizing front with
  | done text textStart place =>
    exact absurd (same ▸ List.mem_append_right front List.mem_cons_self)
      (tag_notMem_textSegment text.reverse textStart place found)
  | @char text textStart place c rest segments plain later ih =>
    obtain ⟨skipped, rest, rfl, start, scans⟩ := ih same
    refine ⟨c :: skipped, rest, rfl, ?_, scans⟩
    rw [start, List.length_cons]
    omega
  | @escape text textStart place rest segments later ih =>
    obtain ⟨skipped, rest, rfl, start, scans⟩ := ih same
    refine ⟨'<' :: '%' :: '%' :: skipped, rest, rfl, ?_, scans⟩
    simp only [start, List.length_cons]
    omega
  | @tag text textStart place kind mark inside newline rest segments next written swallows follows
      later ih =>
    rcases textSegment_append_eq same.symm with ⟨rfl, rfl, rfl⟩ | ⟨more, rfl, rfl⟩
    · exact ⟨[], _, rfl, rfl, .tag written swallows follows later⟩
    · obtain ⟨skipped, rest, rfl, start, scans⟩ := ih rfl
      refine ⟨'<' :: '%' :: (mark ++ (inside ++ '%' :: '>' :: (newline ++ skipped))), rest, ?_, ?_,
        scans⟩
      · simp only [List.append_assoc, List.cons_append]
      · simp only [start, follows, makeTag, List.length_cons, List.length_append]
        omega

theorem swallowed_nil (inside : List Char) : swallowed inside [] = 0 := by
  unfold swallowed
  split <;> rfl

/-- **Scanning may end at a tag**: up to its end the same segments are found. -/
theorem Scans.cut {text source : List Char} {textStart place : Nat} {front back : List Segment}
    {found : Tag} (scans : Scans text textStart place source (front ++ .tag found :: back)) :
    ∃ read rest, source = read ++ rest ∧ found.stop = place + read.length ∧
      Scans text textStart place read (front ++ [.tag found]) := by
  generalize same : front ++ .tag found :: back = segments at scans
  induction scans generalizing front with
  | done text textStart place =>
    exact absurd (same ▸ List.mem_append_right front List.mem_cons_self)
      (tag_notMem_textSegment text.reverse textStart place found)
  | @char text textStart place c rest segments plain later ih =>
    obtain ⟨read, rest, rfl, stop, scans⟩ := ih same
    refine ⟨c :: read, rest, rfl, ?_, .char (fun opens starts => ?_) scans⟩
    · rw [stop, List.length_cons]
      omega
    · obtain ⟨more, rfl⟩ := List.head?_eq_some_iff.mp starts
      exact plain opens rfl
  | @escape text textStart place rest segments later ih =>
    obtain ⟨read, rest, rfl, stop, scans⟩ := ih same
    refine ⟨'<' :: '%' :: '%' :: read, rest, rfl, ?_, .escape scans⟩
    simp only [stop, List.length_cons]
    omega
  | @tag text textStart place kind mark inside newline rest segments next written swallows follows
      later ih =>
    rcases textSegment_append_eq same.symm with ⟨rfl, rfl, rfl⟩ | ⟨more, rfl, rfl⟩
    · refine ⟨'<' :: '%' :: (mark ++ (inside ++ '%' :: '>' :: ([] ++ []))), newline ++ rest, ?_, ?_,
        .tag written (swallowed_nil inside) rfl (.done [] _ _)⟩
      · simp only [List.append_assoc, List.cons_append, List.nil_append]
      · simp only [makeTag, List.length_cons, List.length_append, List.length_nil]
        omega
    · obtain ⟨read, rest, rfl, stop, scans⟩ := ih rfl
      refine ⟨'<' :: '%' :: (mark ++ (inside ++ '%' :: '>' :: (newline ++ read))), rest, ?_, ?_, ?_⟩
      · simp only [List.append_assoc, List.cons_append]
      · simp only [stop, follows, makeTag, List.length_cons, List.length_append]
        omega
      · rw [List.append_assoc]
        exact .tag written (swallowed_of_append swallows) follows scans

/-! ### At another place -/

/-- From a place on all places are shifted alike. -/
def ShiftsFrom (f : Nat → Nat) (place : Nat) : Prop := ∀ more, f (place + more) = f place + more

theorem ShiftsFrom.later {f : Nat → Nat} {place next : Nat} (shifts : ShiftsFrom f place)
    (order : place ≤ next) : ShiftsFrom f next := by
  obtain ⟨distance, rfl⟩ := Nat.exists_eq_add_of_le order
  intro more
  rw [Nat.add_assoc, shifts, shifts, Nat.add_assoc]

/-- A tag with other places. -/
def Tag.relocated (f : Nat → Nat) (found : Tag) : Tag :=
  { found with codeStart := f found.codeStart, start := f found.start, stop := f found.stop }

/-- A segment with other places. -/
def Segment.relocated (f : Nat → Nat) : Segment → Segment
  | .text chars start stop => .text chars (f start) (f stop)
  | .tag found => .tag (found.relocated f)

theorem textSegment_relocated (f : Nat → Nat) (text : List Char) (textStart place : Nat) :
    (textSegment text textStart place).map (Segment.relocated f) =
      textSegment text (f textStart) (f place) := by
  unfold textSegment
  split <;> rfl

theorem makeTag_relocated {f : Nat → Nat} {place : Nat} (shifts : ShiftsFrom f place)
    (kind : TagKind) (mark : Nat) (inside : List Char) :
    (makeTag kind mark place inside).relocated f = makeTag kind mark (f place) inside := by
  simp only [makeTag, Tag.relocated, Nat.add_assoc, shifts _]

/-- **Scanning is the same at another place.** -/
theorem Scans.relocated {f : Nat → Nat} {text source : List Char} {textStart place : Nat}
    {found : List Segment} (scans : Scans text textStart place source found)
    (shifts : ShiftsFrom f place) :
    Scans text (f textStart) (f place) source (found.map (Segment.relocated f)) := by
  induction scans with
  | done text textStart place =>
    rw [textSegment_relocated]
    exact .done ..
  | @char text textStart place c rest segments plain later ih =>
    refine .char plain ?_
    rw [← shifts]
    exact ih (shifts.later (Nat.le_add_right place 1))
  | @escape text textStart place rest segments later ih =>
    refine .escape ?_
    rw [← shifts]
    exact ih (shifts.later (Nat.le_add_right place 3))
  | @tag text textStart place kind mark inside newline rest segments next written swallows follows
      later ih =>
    rw [List.map_append, textSegment_relocated, List.map_cons, Segment.relocated,
      makeTag_relocated shifts]
    refine .tag written swallows ?_ (ih (shifts.later ?_))
    · simp only [follows, makeTag, Nat.add_assoc, shifts _]
    · simp only [follows, makeTag]
      omega

/-- A tag that is a number of characters further to the front. -/
def Tag.moved (distance : Nat) (found : Tag) : Tag :=
  { found with
    codeStart := found.codeStart - distance
    start := found.start - distance
    stop := found.stop - distance }

/-- A segment that is a number of characters further to the front. -/
def Segment.moved (distance : Nat) : Segment → Segment
  | .text chars start stop => .text chars (start - distance) (stop - distance)
  | .tag found => .tag (found.moved distance)

theorem Segment.moved_eq_relocated (distance : Nat) :
    Segment.moved distance = Segment.relocated (· - distance) := by
  funext segment
  cases segment <;> rfl

/-- **Scanning is the same further to the front.** -/
theorem Scans.moved {text source : List Char} {textStart place distance : Nat}
    {found : List Segment} (scans : Scans text textStart place source found)
    (bound : distance ≤ place) :
    Scans text (textStart - distance) (place - distance) source
      (found.map (Segment.moved distance)) := by
  rw [Segment.moved_eq_relocated]
  exact scans.relocated (f := (· - distance)) fun _ => Nat.sub_add_comm bound

/--
**The text from one tag to another is scanned to the segments between them**, as many characters
further to the front as stand before the first tag.
-/
theorem segments_between {source : List Char} {before between after : List Segment}
    {first last : Tag} (scanned : segments source = .ok (before ++ between ++ after))
    (opens : between.head? = some (.tag first)) (closes : between.getLast? = some (.tag last)) :
    segments ((source.take last.stop).drop first.start) =
      .ok (between.map (Segment.moved first.start)) := by
  obtain ⟨more, rfl⟩ := List.head?_eq_some_iff.mp opens
  have scans := scans_iff.mpr scanned
  rw [List.append_assoc, List.cons_append] at scans
  obtain ⟨skipped, rest, rfl, start, scans⟩ := scans.restart
  obtain ⟨front, same⟩ := List.getLast?_eq_some_iff.mp closes
  rw [← List.cons_append, same, List.append_assoc, List.singleton_append] at scans
  obtain ⟨read, rest, rfl, stop, scans⟩ := scans.cut
  have cut : ((skipped ++ (read ++ rest)).take last.stop).drop first.start = read := by
    rw [stop, start, Nat.zero_add, ← List.append_assoc, ← List.length_append, List.take_left,
      List.drop_left]
  have moved := scans.moved (Nat.le_refl first.start)
  rw [Nat.sub_self] at moved
  rw [cut, same]
  exact scans_iff.mp moved

end ReactiveView.Template
