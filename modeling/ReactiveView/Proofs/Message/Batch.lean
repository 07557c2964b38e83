/-
**A batch is read as what was meant.**

A sub-message is an object whose members tell it: the component, the action and the line of its parameters, or
the component, the action that is kept for assignments, the name and the value. The members may come in any
order, with blanks anywhere and with any spelling of their names and strings; each is found under its name, and
a member under any other name spoils the batch. So does a member that had to be there.

* `SubMessage.members` — what a sub-message is written with.
* `IsBatch` — the texts of a batch, with the members of each sub-message.
* `ofWritten?_of_writtenBy` — a sub-message is read from its members.
* `Amiss` — the members of which no sub-message is made.
* `batchOfText_of_writtenBy` — a batch is read just if the values in it have room.
* `batch_read_as_written` — a batch of any length, as a whole.
-/

import ReactiveView.Message.Inbound
import ReactiveView.Proofs.Json.Fields
import ReactiveView.Proofs.Json.Printing
import ReactiveView.Proofs.Message.Params

namespace ReactiveView

open Json (Written string? nestingLimit)

namespace SubMessage

/-- The names of the members that a sub-message may have. -/
def memberNames : List String := ["component", "action", "params", "name", "value"]

/-- **What a sub-message is written with.** -/
def members : SubMessage → List (String × Json)
  | action component name none => [("component", .string component), ("action", .string name)]
  | action component name (some params) =>
    [("component", .string component), ("action", .string name), ("params", .string params.encode)]
  | assign component name value =>
    [("component", .string component), ("action", .string assignmentAction), ("name", .string name),
      ("value", value)]

/-- A sub-message that can be written: no action has the name that is kept for assignments, and the value of
an assignment has whole numbers of 64 bits only. -/
def IsPlain : SubMessage → Prop
  | action _ name _ => name ≠ assignmentAction
  | assign _ _ value => value.IsPlain

/-- The value of an assignment nests no deeper than it may within a batch. -/
def Fits : SubMessage → Prop
  | action _ _ _ => True
  | assign _ _ value => value.depth ≤ nestingLimit - depth

instance : DecidablePred Fits := fun message =>
  match message with
  | action _ _ _ => isTrue trivial
  | assign _ _ value => inferInstanceAs (Decidable (value.depth ≤ nestingLimit - depth))

/-- A sub-message is written by members that mean its own, in any order. -/
def WrittenBy (message : SubMessage) (row : List (String × Written)) : Prop :=
  ∃ order : List (String × Json), order.Perm message.members ∧ Json.RowMeans row order

/-- **A text of a batch**, each of whose sub-messages has the members of a row. -/
def IsBatch (rows : List (List (String × Written))) (text : String) : Prop :=
  ∃ name items, string? name = some "messages" ∧
    (Written.object [(name, .array items)]).IsText text ∧ items.mapM Written.namedMembers? = some rows

/-- **Members of which no sub-message is made**: one has a name of its own, or one is missing that has to be
there. -/
inductive Amiss (row : List (String × Written)) : Prop
  | unknown {name : String} {written : Written} (member : (name, written) ∈ row)
    (foreign : name ∉ memberNames)
  | noComponent (absent : "component" ∉ row.map Prod.fst)
  | noAction (absent : "action" ∉ row.map Prod.fst)
  | noName {written : Written} (member : ("action", written) ∈ row)
    (means : written.Means (.string assignmentAction)) (absent : "name" ∉ row.map Prod.fst)

variable {message : SubMessage} {written : Written} {row : List (String × Written)}

/-! ### What fields make -/

variable {component name target value : Written}

/-- Under any action but the one that is kept, fields make an action. -/
theorem ofFields?_action {addressed named : String} (params : Option Written) {line : Option String}
    (isComponent : component.text? = some addressed) (isName : name.text? = some named)
    (other : named ≠ assignmentAction) (isLine : (params.getD .null).optionalText? = some line) :
    ofFields? [some component, some name, params, none, none] =
      some (action addressed named (line.map Params.decode)) := by
  simp only [ofFields?, isComponent, isName, isLine, Option.bind_eq_bind, Option.bind_some, if_neg other]
  rfl

/-- **Under the action that is kept, fields make an assignment** if there is room for the value. -/
theorem ofFields?_assign {addressed assigned : String} {meant : Json}
    (isComponent : component.text? = some addressed) (isName : name.text? = some assignmentAction)
    (isTarget : target.optionalText? = some (some assigned)) (means : value.Means meant) :
    ofFields? [some component, some name, none, some target, some value] =
      if meant.depth ≤ nestingLimit - depth then some (assign addressed assigned meant) else none := by
  have read := Written.value?_of_means (nestingLimit - depth) means
  simp only [ofFields?, isComponent, isName, Option.getD_some, isTarget, read, Option.bind_eq_bind,
    Option.bind_some, if_true]
  by_cases fits : meant.depth ≤ nestingLimit - depth
  · rw [if_pos fits, if_pos fits]
    rfl
  · rw [if_neg fits, if_neg fits]
    rfl

theorem ofFields?_noAction (component params target value : Option Written) :
    ofFields? [component, none, params, target, value] = none := by
  cases component <;> rfl

/-- An assignment without a name is none. -/
theorem ofFields?_noName (component params value : Option Written)
    (assigns : name.text? = some assignmentAction) :
    ofFields? [component, some name, params, none, value] = none := by
  cases component with
  | none => rfl
  | some component =>
    rw [Option.eq_none_iff_forall_ne_some]
    intro message made
    simp only [ofFields?, assigns, Option.bind_eq_bind, Option.bind_eq_some_iff, Option.bind_some,
      if_true] at made
    obtain ⟨_, _, _, _, target, isTarget, _, _, made⟩ := made
    cases isTarget
    cases made

/-! ### One sub-message -/

/-- The fields of which a sub-message is made stand under their names, and nothing else stands there. -/
theorem fields_of_ofWritten? (named : written.namedMembers? = some row)
    (made : ofWritten? written = some message) : (∀ member ∈ row, member.1 ∈ memberNames) ∧
      ∃ fields, ofFields? fields = some message ∧
        List.Forall₂ (fun name field => Written.atMostOne? (Written.under name row) = some field)
          memberNames fields := by
  obtain ⟨fields, found, made⟩ := Option.bind_eq_some_iff.mp made
  obtain ⟨known, each⟩ := (Written.fields?_eq_some_iff named).mp found
  exact ⟨known rfl, fields, made, each⟩

/-- A sub-message is made of what stands under the names of its fields. -/
theorem ofWritten?_of_fields (named : written.namedMembers? = some row)
    (known : ∀ member ∈ row, member.1 ∈ memberNames) {fields : List (Option Written)}
    (each : List.Forall₂ (fun name field => Written.atMostOne? (Written.under name row) = some field)
      memberNames fields) : ofWritten? written = ofFields? fields := by
  have found : written.fields? true memberNames = some fields :=
    (Written.fields?_eq_some_iff named).mpr ⟨fun _ => known, each⟩
  rw [ofWritten?, ← memberNames, found, Option.bind_some]

/-- No two members of a sub-message have one name. -/
theorem nodup_members (message : SubMessage) : (message.members.map Prod.fst).Nodup := by
  rcases message with ⟨component, name, _ | params⟩ | _ <;> simp [members]

/-- The members of a sub-message have names that they may have. -/
theorem members_subset (message : SubMessage) : message.members.map Prod.fst ⊆ memberNames := by
  rcases message with ⟨component, name, _ | params⟩ | _ <;> simp [members, memberNames]

section Members

variable (writtenBy : message.WrittenBy row)

include writtenBy

/-- The names are those of the members. -/
theorem WrittenBy.keys : (row.map Prod.fst).Perm (message.members.map Prod.fst) := by
  obtain ⟨order, perm, means⟩ := writtenBy
  rw [means.keys_eq]
  exact perm.map Prod.fst

theorem WrittenBy.known : ∀ member ∈ row, member.1 ∈ memberNames := fun _ inside =>
  message.members_subset (writtenBy.keys.mem_iff.mp (List.mem_map_of_mem inside))

/-- Each member is found under its name. -/
theorem WrittenBy.exists_of_mem {name : String} {value : Json} (member : (name, value) ∈ message.members) :
    ∃ written, Written.atMostOne? (Written.under name row) = some (some written) ∧ written.Means value := by
  have distinct := writtenBy.keys.nodup_iff.mpr message.nodup_members
  obtain ⟨order, perm, means⟩ := writtenBy
  obtain ⟨written, inside, means⟩ := means.exists_of_mem (perm.mem_iff.mpr member)
  exact ⟨written, Written.atMostOne?_of_mem distinct inside, means⟩

/-- Nothing is found under any other name. -/
theorem WrittenBy.of_notMem {name : String} (absent : name ∉ message.members.map Prod.fst) :
    Written.atMostOne? (Written.under name row) = some none :=
  Written.atMostOne?_of_notMem fun inside => absent (writtenBy.keys.mem_iff.mp inside)

/-- **A sub-message is read from its members** if its value has room in a batch, and else not at all. -/
theorem ofWritten?_of_writtenBy (plain : message.IsPlain) (named : written.namedMembers? = some row) :
    ofWritten? written = if message.Fits then some message else none := by
  match message, plain with
  | action component name none, other =>
    obtain ⟨_, isComponent, component⟩ := writtenBy.exists_of_mem List.mem_cons_self
    obtain ⟨_, isName, name⟩ := writtenBy.exists_of_mem (List.mem_cons_of_mem _ List.mem_cons_self)
    have noParams : Written.atMostOne? (Written.under "params" row) = some none :=
      writtenBy.of_notMem (by simp [members])
    have noTarget : Written.atMostOne? (Written.under "name" row) = some none :=
      writtenBy.of_notMem (by simp [members])
    have noValue : Written.atMostOne? (Written.under "value" row) = some none :=
      writtenBy.of_notMem (by simp [members])
    rw [ofWritten?_of_fields named writtenBy.known
      (.cons isComponent (.cons isName (.cons noParams (.cons noTarget (.cons noValue .nil)))))]
    exact ofFields?_action none (Written.text?_of_means component) (Written.text?_of_means name) other rfl
  | action component name (some params), other =>
    obtain ⟨_, isComponent, component⟩ := writtenBy.exists_of_mem List.mem_cons_self
    obtain ⟨_, isName, name⟩ := writtenBy.exists_of_mem (List.mem_cons_of_mem _ List.mem_cons_self)
    obtain ⟨written, isParams, line⟩ := writtenBy.exists_of_mem
      (List.mem_cons_of_mem _ (List.mem_cons_of_mem _ List.mem_cons_self))
    have noTarget : Written.atMostOne? (Written.under "name" row) = some none :=
      writtenBy.of_notMem (by simp [members])
    have noValue : Written.atMostOne? (Written.under "value" row) = some none :=
      writtenBy.of_notMem (by simp [members])
    rw [ofWritten?_of_fields named writtenBy.known
      (.cons isComponent (.cons isName (.cons isParams (.cons noTarget (.cons noValue .nil))))),
      ofFields?_action (some written) (Written.text?_of_means component) (Written.text?_of_means name) other
        (Written.optionalText?_of_means line), Option.map_some, Params.decode_line]
    rfl
  | assign component name value, _ =>
    obtain ⟨_, isComponent, component⟩ := writtenBy.exists_of_mem List.mem_cons_self
    obtain ⟨_, isName, action⟩ := writtenBy.exists_of_mem (List.mem_cons_of_mem _ List.mem_cons_self)
    obtain ⟨_, isTarget, target⟩ := writtenBy.exists_of_mem
      (List.mem_cons_of_mem _ (List.mem_cons_of_mem _ List.mem_cons_self))
    obtain ⟨_, isValue, value⟩ := writtenBy.exists_of_mem
      (List.mem_cons_of_mem _ (List.mem_cons_of_mem _ (List.mem_cons_of_mem _ List.mem_cons_self)))
    have noParams : Written.atMostOne? (Written.under "params" row) = some none :=
      writtenBy.of_notMem (by simp [members])
    rw [ofWritten?_of_fields named writtenBy.known
      (.cons isComponent (.cons isName (.cons noParams (.cons isTarget (.cons isValue .nil)))))]
    exact ofFields?_assign (Written.text?_of_means component) (Written.text?_of_means action)
      (Written.optionalText?_of_means target) value

end Members

/-- No sub-message is made of members that are amiss. -/
theorem ofWritten?_of_amiss (named : written.namedMembers? = some row) (amiss : Amiss row) :
    ofWritten? written = none := by
  rw [Option.eq_none_iff_forall_ne_some]
  intro message made
  obtain ⟨known, fields, made, each⟩ := fields_of_ofWritten? named made
  rcases each with _ | ⟨isComponent, _ | ⟨isName, _ | ⟨_, _ | ⟨isTarget, _ | ⟨_, none⟩⟩⟩⟩⟩
  cases none
  cases amiss with
  | unknown member foreign => exact foreign (known _ member)
  | noComponent absent =>
    rw [Written.atMostOne?_of_notMem absent] at isComponent
    cases isComponent
    cases made
  | noAction absent =>
    rw [Written.atMostOne?_of_notMem absent] at isName
    cases isName
    cases (ofFields?_noAction _ _ _ _).symm.trans made
  | noName member means absent =>
    obtain rfl := Written.eq_of_atMostOne? isName member
    rw [Written.atMostOne?_of_notMem absent] at isTarget
    cases isTarget
    cases (ofFields?_noName _ _ _ (Written.text?_of_means means)).symm.trans made

/-! ### A batch -/

variable {rows : List (List (String × Written))} {text : String} {messages : List SubMessage}

/-- **A text of a batch is read item by item.** -/
theorem batchOfText_of_isBatch (isBatch : IsBatch rows text) : ∃ items : List Written,
    List.Forall₂ (fun item row => item.namedMembers? = some row) items rows ∧
      (∀ messages, items.mapM ofWritten? = some messages → batchOfText text = .ok messages) ∧
      (items.mapM ofWritten? = none → batchOfText text = .error .invalidMessage) := by
  obtain ⟨name, items, named, isText, understood⟩ := isBatch
  refine ⟨items, Json.mapM_eq_some_iff.mp understood, ?_⟩
  have members : (Written.object [(name, .array items)]).namedMembers? =
      some [("messages", .array items)] := by
    rw [Written.namedMembers?, Json.mapM_eq_some_iff]
    refine .cons ?_ .nil
    rw [named]
    rfl
  have fields : (Written.object [(name, .array items)]).fields? false ["messages"] =
      some [some (.array items)] :=
    (Written.fields?_eq_some_iff members).mpr
      ⟨fun strict => absurd strict Bool.false_ne_true, .cons rfl .nil⟩
  have read : (Written.ofText? text).bind batchOfWritten? = items.mapM ofWritten? := by
    rw [Written.ofText?_of_isText isText, Option.bind_some, batchOfWritten?, fields]
    rfl
  constructor
  · intro messages made
    rw [batchOfText, read, made]
  · intro none
    rw [batchOfText, read, none]

/-- The sub-messages that items are written for are read, if all of them have room. -/
theorem mapM_of_writtenBy {items : List Written} (plain : ∀ message ∈ messages, message.IsPlain)
    (writtenBy : List.Forall₂ WrittenBy messages rows)
    (named : List.Forall₂ (fun item row => item.namedMembers? = some row) items rows) :
    items.mapM ofWritten? = if ∀ message ∈ messages, message.Fits then some messages else none := by
  induction writtenBy generalizing items with
  | nil =>
    cases named
    rfl
  | @cons message row messages rows first _ ih =>
    cases named with
    | @cons item _ items _ itsNames others =>
      have one := ofWritten?_of_writtenBy first (plain message List.mem_cons_self) itsNames
      have rest := ih (fun message member => plain message (List.mem_cons_of_mem _ member)) others
      rw [List.mapM_cons, one, rest]
      simp only [List.forall_mem_cons]
      by_cases here : message.Fits
      · by_cases later : ∀ message ∈ messages, message.Fits
        · rw [if_pos here, if_pos later, if_pos ⟨here, later⟩]
          rfl
        · rw [if_pos here, if_neg later, if_neg fun both => later both.2]
          rfl
      · have never : ¬ (message.Fits ∧ ∀ message ∈ messages, message.Fits) := fun both => here both.1
        rw [if_neg here, if_neg never]
        rfl

/-- **A batch is read as the sub-messages it is written for** if their values have room, and else not at all. -/
theorem batchOfText_of_writtenBy (plain : ∀ message ∈ messages, message.IsPlain)
    (writtenBy : List.Forall₂ WrittenBy messages rows) (isBatch : IsBatch rows text) :
    batchOfText text =
      if ∀ message ∈ messages, message.Fits then .ok messages else .error .invalidMessage := by
  obtain ⟨items, named, reads, refuses⟩ := batchOfText_of_isBatch isBatch
  have made := mapM_of_writtenBy plain writtenBy named
  by_cases fit : ∀ message ∈ messages, message.Fits
  · rw [if_pos fit] at made ⊢
    exact reads messages made
  · rw [if_neg fit] at made ⊢
    exact refuses made

/-- A batch with a sub-message that is amiss is not read. -/
theorem batchOfText_of_amiss (isBatch : IsBatch rows text) {row : List (String × Written)}
    (member : row ∈ rows) (amiss : Amiss row) : batchOfText text = .error .invalidMessage := by
  obtain ⟨items, named, -, refuses⟩ := batchOfText_of_isBatch isBatch
  refine refuses (Option.eq_none_iff_forall_ne_some.mpr fun messages made => ?_)
  obtain ⟨item, inside, itsNames⟩ := Json.exists_of_forall₂_of_mem named member
  obtain ⟨_, _, read⟩ := Json.exists_of_forall₂_of_mem (Json.mapM_eq_some_iff.mp made).flip inside
  cases (ofWritten?_of_amiss itsNames amiss).symm.trans read

/-! ### The compact text -/

/-- The batch whose sub-messages have the given members. -/
def batchJson (rows : List (List (String × Json))) : Json := .object [("messages", .array (rows.map .object))]

/-- **The compact text of a batch.** -/
def batchText (messages : List SubMessage) : String := (batchJson (messages.map members)).text

/-- The items of a batch have the members that they are written with. -/
theorem exists_rows {pairs : List (List (String × Json))} : ∀ {items : List Written},
    Written.ItemsMean items (pairs.map .object) → ∃ rows : List (List (String × Written)),
      items.mapM Written.namedMembers? = some rows ∧ List.Forall₂ Json.RowMeans rows pairs := by
  induction pairs with
  | nil =>
    rintro items means
    cases means
    exact ⟨[], rfl, .nil⟩
  | cons members pairs ih =>
    rintro items means
    cases means with
    | cons first rest =>
      obtain ⟨rows, understood, means⟩ := ih rest
      cases first with
      | object own _ =>
        obtain ⟨row, names, mean⟩ := Json.exists_namedMembers? own
        exact ⟨row :: rows, Json.mapM_eq_some_iff.mpr (.cons names (Json.mapM_eq_some_iff.mp understood)),
          .cons mean means⟩

/-- Objects are plain one by one. -/
theorem itemsPlain_objects {pairs : List (List (String × Json))}
    (plain : ∀ members ∈ pairs, (Json.object members).IsPlain) : Json.ItemsPlain (pairs.map .object) := by
  induction pairs with
  | nil => exact trivial
  | cons members pairs ih =>
    exact ⟨plain members List.mem_cons_self,
      ih fun members inside => plain members (List.mem_cons_of_mem _ inside)⟩

/-- **The compact text is one of the batch.** -/
theorem exists_isBatch {pairs : List (List (String × Json))}
    (plain : ∀ members ∈ pairs, (Json.object members).IsPlain) :
    ∃ rows, IsBatch rows (batchJson pairs).text ∧ List.Forall₂ Json.RowMeans rows pairs := by
  have whole : (batchJson pairs).IsPlain :=
    ⟨⟨itemsPlain_objects plain, trivial⟩, List.pairwise_singleton _ _⟩
  obtain ⟨written, means, spelled⟩ := Json.spelled_text _ whole
  cases means with
  | object means _ =>
    cases means with
    | cons named value none =>
      cases none
      cases value with
      | array means =>
        obtain ⟨rows, understood, mean⟩ := exists_rows means
        exact ⟨rows, ⟨_, _, named, Written.isText_of_spelled spelled, understood⟩, mean⟩

/-- The members of a plain sub-message are plain. -/
theorem isPlain_members (plain : message.IsPlain) : (Json.object message.members).IsPlain := by
  refine ⟨?_, message.nodup_members⟩
  match message, plain with
  | action component name none, _ => exact ⟨trivial, trivial, trivial⟩
  | action component name (some params), _ => exact ⟨trivial, trivial, trivial, trivial⟩
  | assign component name value, plain => exact ⟨trivial, trivial, trivial, plain, trivial⟩

/-- **The compact text of sub-messages is one of a batch that is written for them.** -/
theorem isBatch_batchText (plain : ∀ message ∈ messages, message.IsPlain) :
    ∃ rows, IsBatch rows (batchText messages) ∧ List.Forall₂ WrittenBy messages rows := by
  have objects : ∀ pairs ∈ messages.map members, (Json.object pairs).IsPlain := by
    intro pairs inside
    obtain ⟨message, member, rfl⟩ := List.mem_map.mp inside
    exact isPlain_members (plain message member)
  obtain ⟨rows, isBatch, means⟩ := exists_isBatch objects
  refine ⟨rows, isBatch, ?_⟩
  rw [List.forall₂_map_right_iff] at means
  exact means.flip.imp fun message row mean => ⟨_, List.Perm.refl _, mean⟩

/--
**A batch is read as what was meant.** Sub-messages are read from their compact text, and from any other text
that writes them, whatever the order of the members, the blanks and the spelling of names and strings. No
sub-messages at all are read from a batch in which one has a member of another name, or misses its component,
its action or the name of the variable that it assigns.
-/
theorem batch_read_as_written (plain : ∀ message ∈ messages, message.IsPlain)
    (fits : ∀ message ∈ messages, message.Fits) :
    batchOfText (batchText messages) = .ok messages ∧
    ∀ rows text, IsBatch rows text →
      (List.Forall₂ WrittenBy messages rows → batchOfText text = .ok messages) ∧
      ((∃ row ∈ rows, Amiss row) → batchOfText text = .error .invalidMessage) := by
  have read {rows : List (List (String × Written))} {text : String} (isBatch : IsBatch rows text)
      (writtenBy : List.Forall₂ WrittenBy messages rows) : batchOfText text = .ok messages := by
    rw [batchOfText_of_writtenBy plain writtenBy isBatch, if_pos fits]
  constructor
  · obtain ⟨rows, isBatch, writtenBy⟩ := isBatch_batchText plain
    exact read isBatch writtenBy
  · intro rows text isBatch
    refine ⟨read isBatch, ?_⟩
    rintro ⟨row, member, amiss⟩
    exact batchOfText_of_amiss isBatch member amiss

/-- Two actions and an assignment. -/
def threeMessages : List SubMessage :=
  [action "c1" "add_tag" (some (Params.decode "name=rspec&x=a%20b")), action "c1" "clear" none,
    assign "c2" "query" (.string "ru")]

/-- The three are read from their text; an assignment to no variable is not read. -/
theorem batch_read_as_written_of_three :
    batchOfText (batchText threeMessages) = .ok threeMessages ∧
    batchOfText (batchJson [[("component", .string "c"), ("action", .string assignmentAction)]]).text =
      .error .invalidMessage := by
  have plain : ∀ message ∈ threeMessages, message.IsPlain := by
    simp [threeMessages, IsPlain, assignmentAction, Json.IsPlain]
  have fits : ∀ message ∈ threeMessages, message.Fits := by
    simp [threeMessages, Fits, Json.depth]
  obtain ⟨read, others⟩ := batch_read_as_written plain fits
  refine ⟨read, ?_⟩
  have objects : ∀ pairs ∈ [[("component", Json.string "c"), ("action", Json.string assignmentAction)]],
      (Json.object pairs).IsPlain := by
    simp [Json.IsPlain, Json.MembersPlain]
  obtain ⟨rows, isBatch, means⟩ := exists_isBatch objects
  obtain ⟨row, inside, mean⟩ := Json.exists_of_forall₂_of_mem means List.mem_cons_self
  obtain ⟨_, member, assigns⟩ := mean.exists_of_mem (List.mem_cons_of_mem _ List.mem_cons_self)
  refine (others rows _ isBatch).2 ⟨row, inside, .noName member assigns ?_⟩
  rw [mean.keys_eq]
  decide

/-- Lists within lists, as many as given. -/
def nested : Nat → Json
  | 0 => .null
  | levels + 1 => .array [nested levels]

theorem depth_nested (levels : Nat) : (nested levels).depth = levels := by
  induction levels with
  | zero => rfl
  | succ levels ih => rw [nested, Json.depth, Json.itemsDepth, Json.itemsDepth, ih, Nat.max_zero]

theorem isPlain_nested (levels : Nat) : (nested levels).IsPlain := by
  induction levels with
  | zero => exact trivial
  | succ levels ih => exact ⟨ih, trivial⟩

/-- **A value of more than 124 levels is too deep**: within a batch its innermost list is the 128th level. -/
theorem batch_refused_of_depth : (assign "c" "x" (nested 125)).IsPlain ∧
    batchOfText (batchText [assign "c" "x" (nested 125)]) = .error .invalidMessage := by
  refine ⟨isPlain_nested 125, ?_⟩
  have plain : ∀ message ∈ [assign "c" "x" (nested 125)], message.IsPlain := by
    rintro message member
    rw [List.mem_singleton.mp member]
    exact isPlain_nested 125
  obtain ⟨rows, isBatch, writtenBy⟩ := isBatch_batchText plain
  rw [batchOfText_of_writtenBy plain writtenBy isBatch, if_neg]
  intro fits
  have shallow := fits _ (List.mem_singleton_self _)
  rw [Fits, depth_nested] at shallow
  exact absurd shallow (by decide)

end SubMessage

end ReactiveView
