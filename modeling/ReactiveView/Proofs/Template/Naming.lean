/-
**The value of a tag may get a name first.**

An output tag with an expression in it says the same as two tags: a statement that gives the value of the
expression a name, and an output tag with the name in it. Any text that is an expression can stand in the
statement as it stands in the output tag, and the source is read as the two nodes.

* `Lexes` — the tokens of a text, wherever it stands.
* `tagText_binding`, `item?_binding` — an expression is all that is behind the equals sign of a statement.
* `Expr.ofText?_name` — a name with blanks around it is an expression.
* `parse_namedSource`, `exists_compile_namedSource` — what is read of both tags.
-/

import ReactiveView.Proofs.Template.Closing

namespace ReactiveView

/-! ### Tokens of a text -/

/-- **The tokens of a text**, wherever in the code of a tag the text stands. -/
def Lexes (text : List Char) (tokens : List Token) : Prop :=
  ∀ place, ∃ placed, tokensFrom place text = .ok placed ∧ placed.map PlacedToken.token = tokens

theorem Lexes.nil : Lexes [] [] := fun place => ⟨[], by rw [tokensFrom], rfl⟩

theorem Lexes.cons {c : Char} {rest after : List Char} {token : Token} {tokens : List Token}
    (one : nextToken c rest = .ok (token, after)) (later : Lexes (Text.trimStart after) tokens) :
    Lexes (c :: rest) (token :: tokens) := by
  intro place
  obtain ⟨placed, reads, same⟩ :=
    later (place + ((c :: rest).length - (Text.trimStart after).length))
  exact ⟨⟨token, place⟩ :: placed, tokensFrom_cons one reads, by rw [List.map_cons, same]⟩

/-- What is read at one place is read at all. -/
theorem lexes_of_tokensFrom {place : Nat} {text : List Char} {placed : List PlacedToken}
    (read : tokensFrom place (Text.trimStart text) = .ok placed) :
    Lexes (Text.trimStart text) (placed.map PlacedToken.token) := by
  have noBlanks : ∀ c ∈ ([] : List Char), Text.isBlank c = true := nofun
  rw [← List.append_nil text] at read
  exact tokensFrom_blanks noBlanks read

/-- The tokens of an expression, and how they are read. -/
theorem Expr.ofText?_eq_some_iff {text : List Char} {expr : Expr} :
    Expr.ofText? text = some expr ↔ ∃ tokens last, Lexes (Text.trimStart text) tokens ∧
      Reading.start.after tokens = some last ∧ last.finish = some expr := by
  constructor
  · intro accepts
    obtain ⟨place, placed, last, read, reads, complete⟩ := Expr.exists_of_ofText? accepts
    exact ⟨_, last, lexes_of_tokensFrom read, reads, complete⟩
  · rintro ⟨tokens, last, lexes, reads, complete⟩
    obtain ⟨placed, read, rfl⟩ := lexes (text.length - (Text.trimStart text).length)
    have result : readExpr placed = .ok expr := Reading.run_eq_ok_iff.mpr ⟨last, reads, complete⟩
    unfold ofText?
    simp only [read, result]
    rfl

/-! ### Names -/

section Names

variable {name : String} (fits : Token.isName name = true)

include fits

/-- The characters of a name are neither quotes nor signs nor blanks. -/
theorem isWordPart_of_mem_name {c : Char} (member : c ∈ name.toList) :
    Token.isWordPart c = true := by
  obtain ⟨first, rest, eq, start, inside, -⟩ := Token.isName_cons fits
  rw [eq] at member
  rcases List.mem_cons.mp member with rfl | later
  · simp only [Token.isWordStart, Token.isWordPart, Char.isAlphanum, Bool.or_eq_true] at start ⊢
    exact start.imp Or.inl id
  · exact List.all_eq_true.mp inside c later

/-- A name is not trimmed in front. -/
theorem trimStart_name (rest : List Char) :
    Text.trimStart (name.toList ++ rest) = name.toList ++ rest := by
  obtain ⟨first, others, eq, -⟩ := Token.isName_cons fits
  refine trimStart_of_solid fun c head => Token.isBlank_of_isWordPart (isWordPart_of_mem_name fits ?_)
  rw [eq] at head ⊢
  cases head
  exact List.mem_cons_self

/-- **A name is a token of its own** in front of what is no part of it. -/
theorem Lexes.word {rest : List Char} {tokens : List Token}
    (ends : ∀ c, rest.head? = some c → Token.isWordPart c = false)
    (later : Lexes (Text.trimStart rest) tokens) :
    Lexes (name.toList ++ rest) (.ident name :: tokens) := by
  obtain ⟨first, tail, eq, start, inside, plain⟩ := Token.isName_cons fits
  have one : nextToken first (tail ++ rest) = .ok (.ident name, rest) := by
    rw [Token.nextToken_word start inside ends, ← eq, String.ofList_toList,
      Token.ofWord_of_not_mem plain]
  rw [eq]
  exact .cons one later

/-- **A name is an expression**, also with blanks around it. -/
theorem Expr.ofText?_name : Expr.ofText? (' ' :: (name.toList ++ [' '])) = some (.name name) := by
  have blank : Text.trimStart (' ' :: (name.toList ++ [' '])) = name.toList ++ [' '] :=
    trimStart_name fits [' ']
  refine Expr.ofText?_eq_some_iff.mpr ⟨[.ident name], ⟨.word name, []⟩, ?_, rfl, rfl⟩
  rw [blank]
  refine Lexes.word fits (fun c head => ?_) .nil
  cases head
  rfl

end Names

namespace Template

/-! ### A statement that gives a name -/

/-- What is inside a statement tag that gives a name the value of an expression. -/
def bindingCode (name : String) (code : List Char) : List Char :=
  " let ".toList ++ (name.toList ++ (" =".toList ++ code))

variable {name : String} {code : List Char} {expr : Expr}

/-- **An expression is all that is behind the equals sign of a statement.** -/
theorem tagText_binding (fits : Token.isName name = true)
    (accepts : Expr.ofText? code = some expr) : TagText .statement [] (bindingCode name code) := by
  refine ⟨nofun, fun _ => rfl, fun other => ?_⟩
  have word : IsPassed name.toList := isPassed_plain fun c member => by
    have part := isWordPart_of_mem_name fits member
    exact ⟨Token.ne_of_isWordPart part (by decide), Token.ne_of_isWordPart part (by decide),
      Token.ne_of_isWordPart part (by decide)⟩
  have starts : IsPassed " let ".toList := isPassed_plain (by simp)
  have equals : IsPassed " =".toList := isPassed_plain (by simp)
  have ends : codeEnd? none (code ++ '%' :: '>' :: other) = some (code, other) :=
    (tagText_of_ofText? accepts true).closes other
  have whole := starts.append_eq (word.append_eq (equals.append_eq ends))
  simpa only [bindingCode, closing?, List.append_assoc] using whole

theorem getLast?_binding (accepts : Expr.ofText? code = some expr) :
    (bindingCode name code).getLast? ≠ some '-' := by
  have last := getLast?_of_ofText? accepts
  unfold bindingCode
  rw [List.getLast?_append, List.getLast?_append, List.getLast?_append]
  cases ends : code.getLast? with
  | none => exact nofun
  | some c =>
    rw [ends] at last
    exact last

/-- The tokens of the statement are those of the expression behind the name and the equals sign. -/
theorem lexes_binding (fits : Token.isName name = true) {tokens : List Token}
    (lexes : Lexes (Text.trimStart code) tokens) (single : code.head? ≠ some '=') :
    Lexes (Text.trimStart (bindingCode name code))
      (.ident "let" :: .ident name :: .assign :: tokens) := by
  have sign : nextToken '=' code = .ok (.assign, code) := by
    refine Token.sign_of_lone rfl fun second head => ?_
    have other : second ≠ '=' := fun same => single (same ▸ head)
    simp [Token.ofPair, other]
  have behind : Lexes (name.toList ++ (" =".toList ++ code)) (.ident name :: .assign :: tokens) := by
    refine Lexes.word fits (fun c head => ?_) (.cons sign lexes)
    cases head
    rfl
  have word : nextToken 'l' ("et ".toList ++ (name.toList ++ (" =".toList ++ code))) =
      .ok (.ident "let", ' ' :: (name.toList ++ (" =".toList ++ code))) := rfl
  refine Lexes.cons word ?_
  have blank : Text.trimStart (' ' :: (name.toList ++ (" =".toList ++ code))) =
      name.toList ++ (" =".toList ++ code) := trimStart_name fits _
  rw [blank]
  exact behind

/-- An expression does not begin with an equals sign. -/
theorem head?_of_ofText? (accepts : Expr.ofText? code = some expr) : code.head? ≠ some '=' := by
  intro begins
  obtain ⟨rest, rfl⟩ := List.head?_eq_some_iff.mp begins
  have marked : (TagKind.rawOutput, 2) = (TagKind.output, 1) :=
    (tagText_of_ofText? accepts false).marked []
  cases marked

theorem readStatement_binding {placed : List PlacedToken} {tokens : List Token} {last : Reading}
    (listed : placed.map PlacedToken.token = .ident "let" :: .ident name :: .assign :: tokens)
    (reads : Reading.start.after tokens = some last) (complete : last.finish = some expr) :
    readStatement placed = .ok (.bind name expr) := by
  obtain ⟨⟨_, _⟩, behindWord, rfl, rfl, fromName⟩ := List.map_eq_cons_iff.mp listed
  obtain ⟨⟨_, _⟩, behindName, rfl, rfl, fromSign⟩ := List.map_eq_cons_iff.mp fromName
  obtain ⟨⟨_, _⟩, behindSign, rfl, rfl, fromValue⟩ := List.map_eq_cons_iff.mp fromSign
  have value : readExpr behindSign = .ok expr :=
    Reading.run_eq_ok_iff.mpr ⟨last, by rw [fromValue, reads], complete⟩
  change (readExpr behindSign).map (Statement.bind name) = _
  rw [value]
  rfl

/-- **The tag says that the name is given to the value of the expression.** -/
theorem item?_binding (fits : Token.isName name = true) (accepts : Expr.ofText? code = some expr)
    (start : Nat) : (makeTag .statement 0 start (bindingCode name code)).item? =
      some (.statement (.bind name expr)) := by
  obtain ⟨tokens, last, lexes, reads, complete⟩ := Expr.ofText?_eq_some_iff.mp accepts
  obtain ⟨placed, read, listed⟩ := lexes_binding fits lexes (head?_of_ofText? accepts) 0
  obtain ⟨same, tokenized, alike⟩ := tokenize_trim read
  have trimmed : (makeTag .statement 0 start (bindingCode name code)).code =
      Text.trim (bindingCode name code) := by
    simp only [makeTag, beq_eq_false_iff_ne.mpr (getLast?_binding accepts), Bool.false_eq_true,
      if_false]
  rw [listed] at alike
  have statement : readStatement same = .ok (.bind name expr) :=
    readStatement_binding alike reads complete
  have filled : (Text.trim (bindingCode name code)).isEmpty = false := by
    cases empty : Text.trim (bindingCode name code) with
    | cons => rfl
    | nil =>
      rw [empty, tokenize, tokensFrom] at tokenized
      cases tokenized
      cases alike
  simp only [Tag.item?, Tag.read?, trimmed, tokenized]
  change (if (Text.trim (bindingCode name code)).isEmpty then none else _) = _
  rw [if_neg (by rw [filled]; exact Bool.false_ne_true)]
  change ((readStatement same).toOption).map Item.statement = _
  rw [statement]
  rfl

/-! ### Both tags -/

/-- A source that gives the value of some code a name, and outputs the name as it is. -/
def namedSource (name code : String) : String :=
  "<% let " ++ name ++ " =" ++ code ++ "%>" ++ outputSource true (" " ++ name ++ " ")

/-- A tag right behind another one is found where that one stops. -/
theorem Scans.behind {kind : TagKind} {mark inside rest : List Char} {place : Nat}
    {segments : List Segment} (written : TagText kind mark inside)
    (noHyphen : inside.getLast? ≠ some '-')
    (later : Scans [] (makeTag kind mark.length place inside).stop
      (makeTag kind mark.length place inside).stop rest segments) :
    Scans [] place place (tagSpelling mark inside ++ rest)
      (.tag (makeTag kind mark.length place inside) :: segments) := by
  have keeps : swallowed inside ([] ++ rest) = ([] : List Char).length := by
    rw [swallowed, beq_eq_false_iff_ne.mpr noHyphen]
    rfl
  rw [tagSpelling_append]
  exact .tag written keeps rfl later

/-- **Both tags are read as a node that gives the name, and a node that outputs it.** -/
theorem parse_namedSource {code : String} (fits : Token.isName name = true)
    (accepts : Expr.ofText? code.toList = some expr) : ∃ middle stop,
      parse (namedSource name code).toList =
        .ok [⟨.bind name expr, 0, middle⟩, ⟨.output (.name name) true, middle, stop⟩] := by
  let first := makeTag .statement 0 0 (bindingCode name code.toList)
  let second := makeTag .rawOutput 2 first.stop (' ' :: (name.toList ++ [' ']))
  have word := Expr.ofText?_name fits
  have whole : (namedSource name code).toList =
      tagSpelling [] (bindingCode name code.toList) ++
        (tagSpelling (outputMark true) (' ' :: (name.toList ++ [' '])) ++ []) := by
    simp [namedSource, outputSource, outputMark, tagSpelling, bindingCode]
  have scans : Scans [] 0 0 (namedSource name code).toList [.tag first, .tag second] := by
    rw [whole]
    refine .behind (tagText_binding fits accepts) (getLast?_binding accepts) ?_
    exact .behind (tagText_of_ofText? word true) (getLast?_of_ofText? word) (.done ..)
  have binds : (Segment.tag first).item? =
      some ⟨.statement (.bind name expr), 0, first.stop⟩ := by
    rw [Segment.item?, item?_binding fits accepts]
    rfl
  have outputs : (Segment.tag second).item? =
      some ⟨.output (.name name) true, first.stop, second.stop⟩ := by
    have raw : second.kind = outputKind true := rfl
    rw [Segment.item?, item?_of_read? raw (read?_of_ofText? word _ _ _)]
    rfl
  refine ⟨first.stop, second.stop, parse_eq_ok (scans_iff.mp scans) (fun segment member => ?_) ?_⟩
  · rcases List.mem_pair.mp member with rfl | rfl
    · exact Or.inr (by rw [binds]; rfl)
    · exact Or.inr (by rw [outputs]; rfl)
  · rw [itemsOf, List.filterMap_cons_some binds, List.filterMap_cons_some outputs]
    let front : SpannedNode := ⟨.bind name expr, 0, first.stop⟩
    let back : SpannedNode := ⟨.output (.name name) true, first.stop, second.stop⟩
    have flattensFront : FlattensTo front.node [.statement (.bind name expr)] := .bind ..
    have flattensBack : FlattensTo back.node [.output (.name name) true] := .output ..
    exact @ForestFlattensTo.cons front _ [_] _ flattensFront ⟨rfl, rfl⟩
      (@ForestFlattensTo.cons back [] [_] [] flattensBack ⟨rfl, rfl⟩ .nil)

/-! ### What the tags are compiled to -/

theorem exists_compile_outputTag {code : String} (accepts : Expr.ofText? code.toList = some expr)
    (raw : Bool) (className variant : String) : ∃ part : DynamicPart, part.node = .output expr raw ∧
      compile className variant (outputSource raw code) =
        .ok ⟨className, variant, outputSource raw code, [.dynamic part]⟩ := by
  have whole : (outputSource raw code).toList = tagSpelling (outputMark raw) code.toList := by
    cases raw <;> simp [outputSource, outputMark, tagSpelling]
  have parsed := parse_outputTag accepts raw whole
  refine ⟨partOf (outputSource raw code).toList
    ⟨.output expr raw, 0, (outputSource raw code).toList.length⟩, rfl, ?_⟩
  rw [compile_eq_ok parsed, partsOf_of_isDynamic _ ⟨.output expr raw, _, _⟩ _ trivial]
  rfl

/-- **Both tags are parts of the template.** -/
theorem exists_compile_namedSource {code : String} (fits : Token.isName name = true)
    (accepts : Expr.ofText? code.toList = some expr) (className variant : String) :
    ∃ front back : DynamicPart, front.node = .bind name expr ∧ back.node = .output (.name name) true ∧
      compile className variant (namedSource name code) =
        .ok ⟨className, variant, namedSource name code, [.dynamic front, .dynamic back]⟩ := by
  obtain ⟨middle, stop, parsed⟩ := parse_namedSource fits accepts
  refine ⟨partOf (namedSource name code).toList ⟨.bind name expr, 0, middle⟩,
    partOf (namedSource name code).toList ⟨.output (.name name) true, middle, stop⟩, rfl, rfl, ?_⟩
  rw [compile_eq_ok parsed, partsOf_of_isDynamic _ ⟨.bind name expr, _, _⟩ _ trivial,
    partsOf_of_isDynamic _ ⟨.output (.name name) true, _, _⟩ _ trivial]
  rfl

end Template

end ReactiveView
