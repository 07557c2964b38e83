/-
**A tag ends where its expression does.**

Where the code of a tag ends is found by looking for quotes alone, and what stands in quotes is
found again when the code is read. On a text that is an expression both agree: a string is passed
over as it is read, and outside of strings no expression has an end of a tag in it. So an output tag
around the text holds all of it.

* `codeEnd?_string` — what is read as a string is passed over.
* `codeEnd?_of_tokensFrom` — tokens that no end of a tag can be made of are passed over.
* `Reading.isChain_keepsOpen` — the signs of an end of a tag do not follow each other.
* `compile_outputTag` — what a tag around an expression is compiled to.
-/

import ReactiveView.Proofs.Template.Coverage
import ReactiveView.Proofs.Template.Lexing
import ReactiveView.Proofs.Template.Roundtrip
import ReactiveView.Proofs.Template.Standalone

namespace ReactiveView

/-- The expression of a text; blanks in front of its first token are passed over, as they are behind
every token. -/
def Expr.ofText? (text : List Char) : Option Expr :=
  let code := Text.trimStart text
  match tokensFrom (text.length - code.length) code with
  | .error _ => none
  | .ok tokens => (readExpr tokens).toOption

/-! ### Looking for the end of a tag -/

namespace Template

/-- **A text that is passed over** where the end of a tag is looked for. -/
def IsPassed (text : List Char) : Prop :=
  ∀ other, codeEnd? none (text ++ other) =
    (codeEnd? none other).map fun found => (text ++ found.1, found.2)

theorem IsPassed.nil : IsPassed [] := fun _ => (congrFun Option.map_id _).symm

/-- A character that neither begins a string nor an end of a tag is passed over. -/
theorem codeEnd?_cons {c : Char} {rest : List Char} (noDouble : c ≠ '"') (noSingle : c ≠ '\'')
    (noEnd : c = '%' → rest.head? ≠ some '>') :
    codeEnd? none (c :: rest) = (codeEnd? none rest).map fun found => (c :: found.1, found.2) := by
  rw [codeEnd?]
  · simp only [beq_eq_false_iff_ne.mpr noDouble, beq_eq_false_iff_ne.mpr noSingle, Bool.or_self,
      Bool.false_eq_true, if_false]
  · rintro more rfl rfl
    exact noEnd rfl rfl

theorem IsPassed.cons {c : Char} {text : List Char} (passed : IsPassed text) (noDouble : c ≠ '"')
    (noSingle : c ≠ '\'') (noPercent : c ≠ '%') : IsPassed (c :: text) := by
  intro other
  rw [List.cons_append, codeEnd?_cons noDouble noSingle fun percent => absurd percent noPercent,
    passed other, Option.map_map]
  rfl

/-- A text without quotes and without percent signs is passed over. -/
theorem isPassed_plain {text : List Char}
    (plain : ∀ c ∈ text, c ≠ '"' ∧ c ≠ '\'' ∧ c ≠ '%') : IsPassed text := by
  induction text with
  | nil => exact .nil
  | cons c text ih =>
    obtain ⟨⟨noDouble, noSingle, noPercent⟩, later⟩ := List.forall_mem_cons.mp plain
    exact (ih later).cons noDouble noSingle noPercent

theorem isPassed_blanks {blanks : List Char} (blank : ∀ c ∈ blanks, Text.isBlank c = true) :
    IsPassed blanks := by
  refine isPassed_plain fun c member => ⟨?_, ?_, ?_⟩ <;>
  · rintro rfl
    exact absurd (blank _ member) (by decide)

/-- **What stands between quotes is passed over**, with all ends of tags in it. -/
theorem codeEnd?_string {quote : Char} {body text : List Char}
    (stands : Token.Quotes quote body text) (noBackslash : quote ≠ '\\') (other : List Char) :
    codeEnd? (some quote) (text ++ quote :: other) =
      (codeEnd? none other).map fun found => (text ++ quote :: found.1, found.2) := by
  induction stands with
  | nil =>
    rw [List.nil_append, codeEnd?]
    · simp only [beq_self_eq_true, if_true, List.nil_append]
    · intro _ _ same
      exact absurd same noBackslash
  | plain noQuote noEscape stands ih =>
    rw [List.cons_append, codeEnd?]
    · simp only [beq_eq_false_iff_ne.mpr noQuote, Bool.false_eq_true, if_false, ih,
        Option.map_map, List.cons_append]
      rfl
    · intro _ _ same
      exact absurd same noEscape
  | escaped stands ih =>
    rw [List.cons_append, List.cons_append, codeEnd?, ih, Option.map_map]
    rfl

end Template

namespace Token.Takes

open Template

variable {token : Token} {taken : List Char}

/-- **What a token is read from is passed over**, but for a percent sign. -/
theorem passed (takes : token.Takes taken) : IsPassed taken ∨ token = percent ∧ taken = ['%'] := by
  cases takes with
  | wordy inside =>
    refine Or.inl (isPassed_plain fun c member => ?_)
    rcases inside c member with part | rfl
    · exact ⟨ne_of_isWordPart part (by decide), ne_of_isWordPart part (by decide),
        ne_of_isWordPart part (by decide)⟩
    · decide
  | @quoted quote body text kind stands =>
    refine Or.inl fun other => ?_
    have noBackslash : quote ≠ '\\' := by
      rcases kind with rfl | rfl <;> decide
    have string := codeEnd?_string stands noBackslash other
    have opens : codeEnd? none (quote :: (text ++ quote :: other)) =
        (codeEnd? (some quote) (text ++ quote :: other)).map
          fun found => (quote :: found.1, found.2) := by
      rcases kind with rfl | rfl <;> rfl
    rw [List.cons_append, List.append_assoc, List.singleton_append, opens, string, Option.map_map]
    simp only [List.append_assoc, List.cons_append]
    rfl
  | @pair first second _ known =>
    refine Or.inl (isPassed_plain ?_)
    unfold ofPair at known
    split at known <;>
      first
      | cases known; done
      | exact List.forall_mem_cons.mpr ⟨by decide, List.forall_mem_cons.mpr ⟨by decide, nofun⟩⟩
  | @lone c _ known =>
    by_cases sign : c = '%'
    · subst sign
      cases known
      exact Or.inr ⟨rfl, rfl⟩
    · refine Or.inl (IsPassed.nil.cons ?_ ?_ sign) <;>
      · rintro rfl
        cases known

end Token.Takes

/-- A percent sign and a sign that would make it an end of a tag do not follow each other. -/
def Token.KeepsOpen (first second : Token) : Prop :=
  first = percent → second ≠ greater ∧ second ≠ atLeast

namespace Template

theorem IsPassed.append_eq {text rest : List Char} {found : List Char × List Char}
    (passed : IsPassed text) (ends : codeEnd? none rest = some found) :
    codeEnd? none (text ++ rest) = some (text ++ found.1, found.2) := by
  rw [passed, ends, Option.map_some]

/-- Blanks in front of a text that is passed over are passed over with it. -/
theorem codeEnd?_of_trimStart {text rest other : List Char}
    (ends : codeEnd? none (Text.trimStart text ++ rest) = some (Text.trimStart text, other)) :
    codeEnd? none (text ++ rest) = some (text, other) := by
  have blanks : IsPassed (text.takeWhile Text.isBlank) :=
    isPassed_blanks fun c member => List.mem_takeWhile_imp member
  have whole := blanks.append_eq ends
  rwa [← List.append_assoc, takeWhile_append_trimStart] at whole

/-- **Tokens that keep a tag open are passed over.** -/
theorem codeEnd?_of_tokensFrom {place : Nat} {text : List Char} {placed : List PlacedToken}
    (read : tokensFrom place text = .ok placed)
    (chain : (placed.map PlacedToken.token).IsChain Token.KeepsOpen) (other : List Char) :
    codeEnd? none (text ++ '%' :: '>' :: other) = some (text, other) := by
  fun_induction tokensFrom place text generalizing placed with
  | case1 => rfl
  | case2 => cases read
  | case3 => cases read
  | case4 place c rest token after one next later eq =>
    rename_i ih
    cases read
    have ends := ih eq chain.tail
    obtain ⟨taken, rfl, takes⟩ := Token.takes_of_nextToken one
    have behind : codeEnd? none (after ++ '%' :: '>' :: other) = some (after, other) :=
      codeEnd?_of_trimStart ends
    rw [List.cons_append, List.append_assoc, ← List.cons_append]
    rcases takes.passed with passed | ⟨rfl, same⟩
    · exact passed.append_eq behind
    · cases same
      -- The percent sign is no end of a tag, as no token that begins with `>` follows it.
      rw [List.singleton_append, codeEnd?_cons (by decide) (by decide), behind]
      · rfl
      · intro _ begins
        rw [List.head?_append] at begins
        cases after with
        | nil => cases begins
        | cons c rest =>
          rw [List.head?_cons, Option.some_or] at begins
          cases begins
          have solid : next = '>' :: rest := rfl
          rw [solid] at eq
          obtain ⟨token, taken, later, rfl, takes⟩ := takes_of_tokensFrom eq
          obtain ⟨noGreater, noAtLeast⟩ := (List.isChain_cons_cons.mp chain).1 rfl
          exact takes.of_greater.elim noGreater noAtLeast

end Template

/-! ### Expressions -/

namespace Reading

variable {state next last : Reading} {tokens : List Token}

/-- An operand follows a percent sign and a minus sign. -/
theorem operand_of_sign {token : Token} (sign : token = .percent ∨ token = .minus)
    (step : state.step token = some next) : next.mode = .operand := by
  obtain ⟨mode, pending⟩ := state
  rcases sign with rfl | rfl <;> cases mode <;> cases step <;> rfl

/-- An expression does not end with a minus sign. -/
theorem last_ne_minus {value : Expr} (reads : state.after tokens = some last)
    (complete : last.finish = some value) : tokens.getLast? ≠ some .minus := by
  intro ends
  obtain ⟨front, rfl⟩ := List.getLast?_eq_some_iff.mp ends
  rw [after, List.foldlM_append] at reads
  obtain ⟨middle, -, reads⟩ := Option.bind_eq_some_iff.mp reads
  obtain ⟨next, step, same⟩ := Option.bind_eq_some_iff.mp reads
  cases same
  obtain ⟨mode, pending⟩ := last
  obtain rfl := operand_of_sign (Or.inr rfl) step
  cases complete

/-- An expression does not begin with an equals sign. -/
theorem first_ne_equality {first : Token} (reads : start.after (first :: tokens) = some last) :
    first ≠ .assign ∧ first ≠ .equals := by
  obtain ⟨next, step, -⟩ := Option.bind_eq_some_iff.mp reads
  constructor <;>
  · rintro rfl
    cases step

/-- **Tokens that are read keep a tag open.** -/
theorem isChain_keepsOpen (reads : state.after tokens = some last) :
    tokens.IsChain Token.KeepsOpen := by
  induction tokens generalizing state with
  | nil => exact .nil
  | cons first rest ih =>
    obtain ⟨next, one, reads⟩ := Option.bind_eq_some_iff.mp reads
    have chain := ih reads
    cases rest with
    | nil => exact .singleton first
    | cons second rest =>
      obtain ⟨after, other, -⟩ := Option.bind_eq_some_iff.mp reads
      refine .cons_cons ?_ chain
      rintro rfl
      obtain ⟨mode, pending⟩ := next
      obtain rfl := operand_of_sign (Or.inl rfl) one
      constructor <;>
      · rintro rfl
        cases other

end Reading

/-- What an expression is read from. -/
theorem Expr.exists_of_ofText? {text : List Char} {expr : Expr}
    (accepts : Expr.ofText? text = some expr) :
    ∃ place placed last, tokensFrom place (Text.trimStart text) = .ok placed ∧
      Reading.start.after (placed.map PlacedToken.token) = some last ∧
      last.finish = some expr := by
  unfold ofText? at accepts
  simp only at accepts
  split at accepts
  · cases accepts
  · next placed read =>
    cases result : readExpr placed with
    | error stuck =>
      rw [result] at accepts
      cases accepts
    | ok value =>
      rw [result] at accepts
      cases accepts
      obtain ⟨last, reads, complete⟩ := Reading.run_eq_ok_iff.mp result
      exact ⟨_, placed, last, read, reads, complete⟩

namespace Template

/-- The mark of an output tag. -/
def outputMark (raw : Bool) : List Char := if raw then ['=', '='] else ['=']

/-- The kind of an output tag. -/
def outputKind (raw : Bool) : TagKind := if raw then .rawOutput else .output

variable {text : List Char} {expr : Expr}

/-- One equals sign is the mark of an output tag if another does not follow. -/
theorem tagKind_output {rest : List Char} (single : rest.head? ≠ some '=') :
    tagKind ('=' :: rest) = (.output, 1) := by
  unfold tagKind
  split
  · next same => cases same
  · next same =>
    cases same
    exact absurd rfl single
  · rfl
  · next none => exact (none rest rfl).elim

/-- **An expression is all that is inside an output tag around it.** -/
theorem tagText_of_ofText? (accepts : Expr.ofText? text = some expr) (raw : Bool) :
    TagText (outputKind raw) (outputMark raw) text := by
  obtain ⟨place, placed, last, read, reads, complete⟩ := Expr.exists_of_ofText? accepts
  refine ⟨by cases raw <;> exact nofun, fun other => ?_, fun other => ?_⟩
  · cases raw with
    | true => rfl
    | false =>
      refine tagKind_output fun begins => ?_
      cases text with
      | nil => cases begins
      | cons c rest =>
        cases begins
        have solid : Text.trimStart ('=' :: rest) = '=' :: rest := rfl
        rw [solid] at read
        obtain ⟨first, taken, later, rfl, takes⟩ := takes_of_tokensFrom read
        obtain ⟨noAssign, noEquals⟩ := Reading.first_ne_equality reads
        exact takes.of_equality.elim noAssign noEquals
  · have ends := codeEnd?_of_tokensFrom read (Reading.isChain_keepsOpen reads) other
    have whole := codeEnd?_of_trimStart ends
    cases raw <;> exact whole

/-- An expression does not end with a hyphen. -/
theorem getLast?_of_ofText? (accepts : Expr.ofText? text = some expr) :
    text.getLast? ≠ some '-' := by
  obtain ⟨place, placed, last, read, reads, complete⟩ := Expr.exists_of_ofText? accepts
  intro hyphen
  rw [← takeWhile_append_trimStart text, List.getLast?_append] at hyphen
  cases ends : (Text.trimStart text).getLast? with
  | some c =>
    rw [ends] at hyphen
    cases hyphen
    exact Reading.last_ne_minus reads complete (last_of_tokensFrom read ends)
  | none =>
    rw [ends, Option.none_or] at hyphen
    exact absurd (List.mem_takeWhile_imp (List.mem_of_getLast? hyphen)) (by decide)

/-- The code of a tag around an expression is read as the expression. -/
theorem read?_of_ofText? (accepts : Expr.ofText? text = some expr) (kind : TagKind)
    (mark start : Nat) : (makeTag kind mark start text).read? readExpr = some expr := by
  obtain ⟨place, placed, last, read, reads, complete⟩ := Expr.exists_of_ofText? accepts
  obtain ⟨same, tokens, alike⟩ := tokenize_trim read
  have code : (makeTag kind mark start text).code = Text.trim text := by
    simp only [makeTag, beq_eq_false_iff_ne.mpr (getLast?_of_ofText? accepts), Bool.false_eq_true,
      if_false]
  have result : readExpr same = .ok expr :=
    Reading.run_eq_ok_iff.mpr ⟨last, by rw [alike, reads], complete⟩
  rw [Tag.read?, code, tokens]
  simp only [Except.toOption, Option.bind_some, result]

/-- The text of an output tag. -/
def outputSource (raw : Bool) (code : String) : String :=
  (if raw then "<%==" else "<%=") ++ code ++ "%>"

/-- The only part of an output tag with an expression. -/
def outputPart (raw : Bool) (code : String) (expr : Expr) : DynamicPart where
  source := outputSource raw code
  kind := .expression
  dependencies := (analyze (.output expr raw)).dependencies
  locals := (analyze (.output expr raw)).bound
  node := .output expr raw

/-- An output tag whose code is an expression says the output of the expression. -/
theorem item?_of_read? {tag : Tag} {raw : Bool} (kind : tag.kind = outputKind raw)
    (read : tag.read? readExpr = some expr) : tag.item? = some (.output expr raw) := by
  unfold Tag.item?
  rw [kind, read]
  cases raw <;> rfl

/-- An output tag around an expression is read as the output of the expression. -/
theorem parse_outputTag (accepts : Expr.ofText? text = some expr) (raw : Bool) {source : List Char}
    (whole : source = tagSpelling (outputMark raw) text) :
    parse source = .ok [⟨.output expr raw, 0, source.length⟩] := by
  have written := tagText_of_ofText? accepts raw
  let found := makeTag (outputKind raw) (outputMark raw).length 0 text
  have stop : found.stop = source.length := by
    rw [whole]
    simp only [found, makeTag, tagSpelling, List.length_cons, List.length_append, List.length_nil]
    omega
  have scans : Scans [] 0 0 source [.tag found] := by
    rw [whole]
    have none : swallowed text ([] ++ []) = ([] : List Char).length := by
      unfold swallowed
      split <;> rfl
    exact .tag written none rfl (.done ..)
  have said : (Segment.tag found).item? = some ⟨.output expr raw, 0, source.length⟩ := by
    have item : found.item? = some (.output expr raw) :=
      item?_of_read? rfl (read?_of_ofText? accepts _ _ _)
    rw [Segment.item?, item, ← stop]
    rfl
  refine parse_eq_ok (scans_iff.mp scans) (fun segment member => ?_) ?_
  · rw [List.mem_singleton.mp member]
    exact Or.inr (by rw [said]; rfl)
  · rw [itemsOf, List.filterMap_cons_some said]
    let node : SpannedNode := ⟨.output expr raw, 0, source.length⟩
    have flattens : FlattensTo node.node [.output expr raw] := .output ..
    exact @ForestFlattensTo.cons node [] [_] [] flattens ⟨rfl, rfl⟩ .nil

/--
**A tag ends where its expression does.** Any text that is an expression, whatever is in its
strings, can be put into an output tag: the source is compiled to one part, which is the output of
the expression, raw or not as the tag says.
-/
theorem compile_outputTag {code : String} (accepts : Expr.ofText? code.toList = some expr)
    (raw : Bool) (className variant : String) :
    compile className variant (outputSource raw code) =
      .ok ⟨className, variant, outputSource raw code, [.dynamic (outputPart raw code expr)]⟩ := by
  have whole : (outputSource raw code).toList = tagSpelling (outputMark raw) code.toList := by
    cases raw <;> simp [outputSource, outputMark, tagSpelling]
  have parsed := parse_outputTag accepts raw whole
  have text : SpannedNode.textIn (outputSource raw code).toList
      ⟨.output expr raw, 0, (outputSource raw code).toList.length⟩ =
        (outputSource raw code).toList := by
    rw [SpannedNode.textIn, List.take_length, List.drop_zero]
  rw [compile_eq_ok parsed, partsOf_of_isDynamic _ ⟨.output expr raw, _, _⟩ _ trivial, partOf, text,
    String.ofList_toList]
  rfl

/-- Ends of tags in strings of either quotes, with escapes and a character of two bytes, a percent
sign outside of them, and blanks around. -/
def quotedEnds : String := " f(\"%>\\\"\\\\\", '%>ß\"') % (a-1) "

theorem compile_outputTag_of_quotedEnds :
    ∃ expr, Expr.ofText? quotedEnds.toList = some expr ∧
      expr.print = "f(\"%>\\\"\\\\\",\"%>ß\\\"\")%(a-1)" ∧
      ∀ raw, compile "Page" "html" (outputSource raw quotedEnds) =
        .ok ⟨"Page", "html", outputSource raw quotedEnds,
          [.dynamic (outputPart raw quotedEnds expr)]⟩ := by
  have printed : (Expr.ofText? quotedEnds.toList).map Expr.print =
      some "f(\"%>\\\"\\\\\",\"%>ß\\\"\")%(a-1)" := by
    decide +kernel
  obtain ⟨expr, accepts, print⟩ := Option.map_eq_some_iff.mp printed
  exact ⟨expr, accepts, print, fun raw => compile_outputTag accepts raw "Page" "html"⟩

end Template

end ReactiveView
