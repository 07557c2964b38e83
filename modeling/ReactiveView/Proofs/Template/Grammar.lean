/-
**The grammar of expressions.**

An operand is a value, a name, a call, a list or an expression in parentheses, with any members and
indices behind it. Operands with signs in front and in between are a chain, and an expression is a
chain, or a chain, a question mark, and two expressions with a colon in between. Signs bind in
different ways, but which rows of tokens are expressions does not hang on that.

Reading accepts exactly these rows. What was read of an expression leads to a place where an operand
is due, and every construct that is open there can still be completed.

* `Grammar.Expression` — the rows of tokens that are expressions.
* `Grammar.Expression.read` — every expression is read.
* `Reading.Reached.step` — what the tokens that were read come to, with one token more.
* `Reading.exists_completion` — whatever was read can be completed.
* `Grammar.expression_iff` — the rows that are read are the expressions.
-/

import ReactiveView.Proofs.Template.Roundtrip

namespace ReactiveView

/-- Signs and words in front of an operand. -/
def Token.leadsOperand : Token → Bool
  | bang | notWord | minus => true
  | _ => false

/-- Signs and words between two operands. -/
def Token.joinsOperands : Token → Bool
  | star | slash | percent | plus | minus => true
  | atMost | atLeast | less | greater | equals | differs => true
  | bothSign | andWord | eitherSign | orWord => true
  | _ => false

namespace Grammar

mutual

/-- A value, a name, a row of expressions in brackets, an expression in parentheses, or what is
looked up in an operand. -/
inductive Operand : List Token → Prop
  | literal (value : Literal) : Operand [value.token]
  | name (word : String) : Operand [.ident word]
  | row {opening row : List Token} {closer : Token} (opens : Opening opening closer)
    (inside : Row row) : Operand (opening ++ (row ++ [closer]))
  | group {inner : List Token} (inside : Expression inner) :
    Operand (.openRound :: (inner ++ [.closeRound]))
  | field {target : List Token} (looked : Operand target) (word : String) :
    Operand (target ++ [.dot, .ident word])
  | index {target key : List Token} (looked : Operand target) (inside : Expression key) :
    Operand (target ++ .openSquare :: (key ++ [.closeSquare]))

/-- What stands in front of a row of expressions, and the bracket behind it: those of a list, or of
the arguments of a call with or without a receiver. -/
inductive Opening : List Token → Token → Prop
  | list : Opening [.openSquare] .closeSquare
  | call (word : String) : Opening [.ident word, .openRound] .closeRound
  | method {target : List Token} (looked : Operand target) (word : String) :
    Opening (target ++ [.dot, .ident word, .openRound]) .closeRound

/-- Operands with signs in front of them and in between. -/
inductive Chain : List Token → Prop
  | operand {tokens : List Token} (one : Operand tokens) : Chain tokens
  | unary {sign : Token} {tokens : List Token} (leads : sign.leadsOperand = true)
    (chain : Chain tokens) : Chain (sign :: tokens)
  | binary {left right : List Token} {sign : Token} (first : Chain left)
    (joins : sign.joinsOperands = true) (second : Chain right) : Chain (left ++ sign :: right)

/-- **An expression**: a chain, or a choice by a chain. -/
inductive Expression : List Token → Prop
  | chain {tokens : List Token} (one : Chain tokens) : Expression tokens
  | choice {test affirmed denied : List Token} (asked : Chain test)
    (chosen : Expression affirmed) (other : Expression denied) :
    Expression (test ++ .question :: (affirmed ++ .colon :: denied))

/-- Expressions with commas in between, or none. -/
inductive Row : List Token → Prop
  | none : Row []
  | some {tokens : List Token} (expressions : Expressions tokens) : Row tokens

/-- At least one expression, with commas in between. -/
inductive Expressions : List Token → Prop
  | last {tokens : List Token} (one : Expression tokens) : Expressions tokens
  | next {first rest : List Token} (one : Expression first) (later : Expressions rest) :
    Expressions (first ++ .comma :: rest)

end

end Grammar

/-! ### What an operand ends -/

/-- Whether a construct ends with the operand that it waits for, unless a sign follows. -/
def Pending.isOperator : Pending → Bool
  | unary _ | binary .. => true
  | _ => false

/-- Whether a construct ends with the expression that it waits for. -/
def Pending.isOpenEnded : Pending → Bool
  | unary _ | binary .. | denied .. => true
  | _ => false

namespace Reading

/-- The constructs around all operators that wait for an operand. -/
def aroundOperators (pending : List Pending) : List Pending :=
  pending.dropWhile Pending.isOperator

/-- The constructs around all that end with an operand. -/
def aroundEnded (pending : List Pending) : List Pending :=
  pending.dropWhile Pending.isOpenEnded

theorem aroundEnded_aroundOperators (pending : List Pending) :
    aroundEnded (aroundOperators pending) = aroundEnded pending := by
  induction pending with
  | nil => rfl
  | cons first rest ih => cases first <;> first | exact ih | rfl

/-- An operand is given to all constructs that end with it. -/
theorem exists_settle (value : Expr) (pending : List Pending) :
    ∃ whole, settle value pending = (whole, aroundEnded pending) := by
  induction pending generalizing value with
  | nil => exact ⟨value, rfl⟩
  | cons first rest ih => cases first <;> first | exact ih _ | exact ⟨value, rfl⟩

/-- A sign between operands leaves what stands around all operators. -/
theorem aroundOperators_reduce (power : Nat) (value : Expr) (pending : List Pending) :
    aroundOperators (reduce power value pending).2 = aroundOperators pending := by
  induction pending generalizing value with
  | nil => rfl
  | cons first rest ih =>
    cases first with
    | unary => exact ih _
    | binary op left =>
      rw [reduce]
      split
      · exact ih _
      · rfl
    | _ => rfl

/-- A question mark takes all operators in front of it. -/
theorem exists_reduce_zero (value : Expr) (pending : List Pending) :
    ∃ whole, reduce 0 value pending = (whole, aroundOperators pending) := by
  induction pending generalizing value with
  | nil => exact ⟨value, rfl⟩
  | cons first rest ih =>
    cases first with
    | unary => exact ih _
    | binary op left =>
      rw [reduce, if_pos (Nat.zero_le _)]
      exact ih _
    | _ => exact ⟨value, rfl⟩

theorem settle_aroundEnded (value : Expr) (pending : List Pending) :
    settle value (aroundEnded pending) = (value, aroundEnded pending) := by
  induction pending with
  | nil => rfl
  | cons first rest ih => cases first <;> first | exact ih | rfl

variable {mode : Mode} {value : Expr} {token : Token}

/-- A separator or a closing bracket is for the construct that does not end with the operand. -/
theorem exists_step_closing (pending : List Pending) (complete : value? mode = some value)
    (closing : token ∈ [.colon, .comma, .closeRound, .closeSquare]) :
    ∃ whole, step ⟨mode, pending⟩ token = stepClose whole (aroundEnded pending) token := by
  obtain ⟨whole, settles⟩ := exists_settle value pending
  have noCall : token ≠ .openRound := by
    rintro rfl
    exact absurd closing (by decide)
  have closes : stepValue value pending token = stepClose value pending token := by
    simp only [List.mem_cons, List.not_mem_nil, or_false] at closing
    rcases closing with rfl | rfl | rfl | rfl <;> rfl
  refine ⟨whole, ?_⟩
  rw [Holds.step_of_value complete noCall, closes, stepClose, settles, stepClose,
    settle_aroundEnded]

/-- A question mark behind a chain opens a choice. -/
theorem exists_step_question (pending : List Pending) (complete : value? mode = some value) :
    ∃ whole, step ⟨mode, pending⟩ .question =
      some ⟨.operand, .affirmed whole :: aroundOperators pending⟩ := by
  obtain ⟨whole, reduces⟩ := exists_reduce_zero value pending
  refine ⟨whole, ?_⟩
  rw [Holds.step_of_value complete (by decide)]
  simp only [stepValue, binaryOp?, reduces]

/-- A sign between operands waits for the next one. -/
theorem exists_step_joining (pending : List Pending) (complete : value? mode = some value)
    (joins : token.joinsOperands = true) :
    ∃ around, step ⟨mode, pending⟩ token = some ⟨.operand, around⟩ ∧
      aroundOperators around = aroundOperators pending := by
  have noCall : token ≠ .openRound := by
    rintro rfl
    cases joins
  obtain ⟨op, known⟩ : ∃ op, binaryOp? token = some op := by
    cases token <;> first | exact ⟨_, rfl⟩ | cases joins
  refine ⟨.binary op (reduce op.power value pending).1 :: (reduce op.power value pending).2, ?_, ?_⟩
  · rw [Holds.step_of_value complete noCall]
    simp only [stepValue, known]
  · exact aroundOperators_reduce op.power value pending

/-! ### Every expression is read -/

theorem after_singleton (state : Reading) (token : Token) :
    state.after [token] = state.step token := by
  simp only [after, List.foldlM_cons, List.foldlM_nil, bind_pure]

/-- **Tokens that are read as an operand**; of the constructs around it a part stays as it was. -/
def Reads (part : List Pending → List Pending) (tokens : List Token) : Prop :=
  ∀ around, ∃ mode value left, value? mode = some value ∧ part left = part around ∧
    after ⟨.operand, around⟩ tokens = some ⟨mode, left⟩

/-- A construct that waits for an expression gets it from tokens that are read as one. -/
theorem Reads.closing {tokens : List Token} (reads : Reads aroundEnded tokens)
    (first : Pending) (around : List Pending) (token : Token)
    (waits : first.isOpenEnded = false)
    (closing : token ∈ [.colon, .comma, .closeRound, .closeSquare]) :
    ∃ whole, after ⟨.operand, first :: around⟩ (tokens ++ [token]) =
      stepClose whole (first :: around) token := by
  obtain ⟨mode, value, left, complete, same, taken⟩ := reads (first :: around)
  have stays : aroundEnded (first :: around) = first :: around := by
    rw [aroundEnded, List.dropWhile_cons_of_neg (by rw [waits]; decide)]
  obtain ⟨whole, step⟩ := exists_step_closing left complete closing
  rw [same, stays] at step
  refine ⟨whole, ?_⟩
  rw [after_append taken, after_singleton, step]

end Reading

theorem Bracket.isOpenEnded_pending (bracket : Bracket) (items : List Expr) :
    (bracket.pending items).isOpenEnded = false := by
  cases bracket <;> rfl

namespace Grammar

open Reading

theorem reads_operand {tokens : List Token} (reads : Reads id tokens)
    (part : List Pending → List Pending) : Reads part tokens := by
  intro around
  obtain ⟨mode, value, left, complete, rfl, taken⟩ := reads around
  exact ⟨mode, value, left, complete, rfl, taken⟩

theorem reads_chain {tokens : List Token} (reads : Reads aroundOperators tokens) :
    Reads aroundEnded tokens := by
  intro around
  obtain ⟨mode, value, left, complete, same, taken⟩ := reads around
  refine ⟨mode, value, left, complete, ?_, taken⟩
  rw [← aroundEnded_aroundOperators left, same, aroundEnded_aroundOperators]

theorem reads_group {inner : List Token} (inside : Reads aroundEnded inner) :
    Reads id (.openRound :: (inner ++ [.closeRound])) := by
  intro around
  obtain ⟨whole, taken⟩ := inside.closing .group around .closeRound rfl (by decide)
  refine ⟨.complete whole, whole, around, rfl, rfl, ?_⟩
  rw [after_cons rfl, taken]
  rfl

theorem reads_field {target : List Token} (looked : Reads id target) (word : String) :
    Reads id (target ++ [.dot, .ident word]) := by
  intro around
  obtain ⟨mode, value, left, complete, rfl, taken⟩ := looked around
  refine ⟨.member value word, _, left, rfl, rfl, ?_⟩
  have dot : step ⟨mode, left⟩ .dot = some ⟨.afterDot value, left⟩ :=
    Holds.step_of_value complete (by decide)
  rw [after_append taken, after_cons dot, after_cons rfl, after_nil]

theorem reads_index {target key : List Token} (looked : Reads id target)
    (inside : Reads aroundEnded key) :
    Reads id (target ++ .openSquare :: (key ++ [.closeSquare])) := by
  intro around
  obtain ⟨mode, value, left, complete, rfl, taken⟩ := looked around
  obtain ⟨whole, reads⟩ :=
    inside.closing (.index value) left .closeSquare rfl (by decide)
  refine ⟨.complete (.index value whole), _, left, rfl, rfl, ?_⟩
  have bracket : step ⟨mode, left⟩ .openSquare = some ⟨.operand, .index value :: left⟩ :=
    Holds.step_of_value complete (by decide)
  rw [after_append taken, after_cons bracket, reads]
  rfl

theorem reads_unary {sign : Token} {tokens : List Token} (leads : sign.leadsOperand = true)
    (chain : Reads aroundOperators tokens) : Reads aroundOperators (sign :: tokens) := by
  intro around
  obtain ⟨op, step⟩ :
      ∃ op, step ⟨.operand, around⟩ sign = some ⟨.operand, .unary op :: around⟩ := by
    cases sign <;> first | exact ⟨_, rfl⟩ | cases leads
  obtain ⟨mode, value, left, complete, same, taken⟩ := chain (.unary op :: around)
  exact ⟨mode, value, left, complete, same, by rw [after_cons step, taken]⟩

theorem reads_binary {left right : List Token} {sign : Token} (first : Reads aroundOperators left)
    (joins : sign.joinsOperands = true) (second : Reads aroundOperators right) :
    Reads aroundOperators (left ++ sign :: right) := by
  intro around
  obtain ⟨mode, value, middle, complete, same, taken⟩ := first around
  obtain ⟨next, step, kept⟩ := exists_step_joining middle complete joins
  obtain ⟨last, result, rest, whole, stays, reads⟩ := second next
  refine ⟨last, result, rest, whole, stays.trans (kept.trans same), ?_⟩
  rw [after_append taken, after_cons step, reads]

theorem reads_choice {test affirmed denied : List Token} (asked : Reads aroundOperators test)
    (chosen : Reads aroundEnded affirmed) (other : Reads aroundEnded denied) :
    Reads aroundEnded (test ++ .question :: (affirmed ++ .colon :: denied)) := by
  intro around
  obtain ⟨mode, value, middle, complete, same, taken⟩ := asked around
  obtain ⟨asks, question⟩ := exists_step_question middle complete
  rw [same] at question
  obtain ⟨yes, colon⟩ :=
    chosen.closing (.affirmed asks) (aroundOperators around) .colon rfl (by decide)
  obtain ⟨last, result, rest, whole, stays, reads⟩ :=
    other (.denied asks yes :: aroundOperators around)
  refine ⟨last, result, rest, whole, ?_, ?_⟩
  · exact stays.trans (aroundEnded_aroundOperators around)
  · have next : stepClose yes (.affirmed asks :: aroundOperators around) .colon =
        some ⟨.operand, .denied asks yes :: aroundOperators around⟩ := rfl
    rw [after_append taken, after_cons question, ← List.singleton_append (l := denied),
      ← List.append_assoc, after_append (colon.trans next), reads]

/-- Tokens that open a row of expressions are read up to the construct that waits for them. -/
def ReadsOpening (opening : List Token) (closer : Token) : Prop :=
  ∀ around, ∃ bracket : Bracket, bracket.closer = closer ∧
    after ⟨.operand, around⟩ opening = some ⟨.operandOrClose, bracket.pending [] :: around⟩

theorem readsOpening_method {target : List Token} (looked : Reads id target) (word : String) :
    ReadsOpening (target ++ [.dot, .ident word, .openRound]) .closeRound := by
  intro around
  obtain ⟨mode, value, left, complete, rfl, taken⟩ := looked around
  refine ⟨.method value word, rfl, ?_⟩
  have dot : step ⟨mode, left⟩ .dot = some ⟨.afterDot value, left⟩ :=
    Holds.step_of_value complete (by decide)
  rw [after_append taken, after_cons dot, after_cons rfl, after_cons rfl, after_nil]
  rfl

/-- Expressions with commas in between are read for a bracket. -/
def ReadsExpressions (tokens : List Token) : Prop :=
  ∀ (bracket : Bracket) done around, ∃ mode value left items, value? mode = some value ∧
    aroundEnded left = bracket.pending items :: around ∧
    after ⟨.operand, bracket.pending done :: around⟩ tokens = some ⟨mode, left⟩

theorem readsExpressions_next {first rest : List Token} (one : Reads aroundEnded first)
    (later : ReadsExpressions rest) : ReadsExpressions (first ++ .comma :: rest) := by
  intro bracket done around
  obtain ⟨whole, taken⟩ := one.closing (bracket.pending done) around .comma
    (bracket.isOpenEnded_pending done) (by decide)
  obtain ⟨mode, value, left, items, complete, same, reads⟩ :=
    later bracket (done ++ [whole]) around
  refine ⟨mode, value, left, items, complete, same, ?_⟩
  have next : stepClose whole (bracket.pending done :: around) .comma =
      some ⟨.operand, bracket.pending (done ++ [whole]) :: around⟩ := by
    cases bracket <;> rfl
  rw [← List.singleton_append (l := rest), ← List.append_assoc, after_append (taken.trans next),
    reads]

theorem readsExpressions_last {tokens : List Token} (one : Reads aroundEnded tokens) :
    ReadsExpressions tokens := by
  intro bracket done around
  obtain ⟨mode, value, left, complete, same, taken⟩ := one (bracket.pending done :: around)
  refine ⟨mode, value, left, done, complete, ?_, taken⟩
  rw [same, aroundEnded, List.dropWhile_cons_of_neg]
  rw [bracket.isOpenEnded_pending]
  decide

/-- **A row of expressions is read up to the bracket behind it.** -/
def ReadsRow (row : List Token) : Prop :=
  ∀ (bracket : Bracket) around, ∃ value,
    after ⟨.operandOrClose, bracket.pending [] :: around⟩ (row ++ [bracket.closer]) =
      some ⟨.complete value, around⟩

theorem readsRow_none : ReadsRow [] := by
  intro bracket around
  exact ⟨bracket.expr [], by cases bracket <;> rfl⟩

theorem readsRow_some {tokens : List Token} (expressions : ReadsExpressions tokens) :
    ReadsRow tokens := by
  intro bracket around
  obtain ⟨mode, value, left, items, complete, same, taken⟩ := expressions bracket [] around
  have begins := Bracket.after_operandOrClose taken complete
  obtain ⟨whole, step⟩ := exists_step_closing left complete bracket.closer_mem
  refine ⟨bracket.expr (items ++ [whole]), ?_⟩
  rw [after_append begins, after_singleton, step, same]
  cases bracket <;> rfl

theorem reads_row {opening row : List Token} {closer : Token} (opens : ReadsOpening opening closer)
    (inside : ReadsRow row) : Reads id (opening ++ (row ++ [closer])) := by
  intro around
  obtain ⟨bracket, rfl, taken⟩ := opens around
  obtain ⟨value, reads⟩ := inside bracket around
  exact ⟨.complete value, value, around, rfl, rfl, by rw [after_append taken, reads]⟩

theorem reads_literal (value : Literal) : Reads id [value.token] := by
  intro around
  refine ⟨.complete (.literal value), _, around, rfl, rfl, ?_⟩
  rcases value with _ | (_ | _) | _ | _ | _ <;> rfl

mutual

theorem Operand.read {tokens : List Token} : Operand tokens → Reads id tokens
  | .literal value => reads_literal value
  | .name word => fun around => ⟨.word word, _, around, rfl, rfl, rfl⟩
  | .row opens inside => reads_row (opens.read) (inside.read)
  | .group inside => reads_group inside.read
  | .field looked word => reads_field looked.read word
  | .index looked inside => reads_index looked.read inside.read

theorem Opening.read {opening : List Token} {closer : Token} :
    Opening opening closer → ReadsOpening opening closer
  | .list => fun _ => ⟨.list, rfl, rfl⟩
  | .call word => fun _ => ⟨.call word, rfl, rfl⟩
  | .method looked word => readsOpening_method looked.read word

theorem Chain.read {tokens : List Token} : Chain tokens → Reads aroundOperators tokens
  | .operand one => reads_operand one.read _
  | .unary leads chain => reads_unary leads chain.read
  | .binary first joins second => reads_binary first.read joins second.read

/-- **Every expression is read.** -/
theorem Expression.read {tokens : List Token} : Expression tokens → Reads aroundEnded tokens
  | .chain one => reads_chain one.read
  | .choice asked chosen other => reads_choice asked.read chosen.read other.read

theorem Row.read {row : List Token} : Row row → ReadsRow row
  | .none => readsRow_none
  | .some expressions => readsRow_some expressions.read

theorem Expressions.read {tokens : List Token} : Expressions tokens → ReadsExpressions tokens
  | .last one => readsExpressions_last one.read
  | .next one later => readsExpressions_next one.read later.read

end

end Grammar

/-! ### What leads to a place -/

open Grammar

namespace Reading

mutual

/-- **Tokens that lead to a place where an expression is due**, in the constructs around it. -/
inductive Leads : List Pending → List Token → Prop
  | start : Leads [] []
  | affirmed {around : List Pending} {front test : List Token} {value : Expr}
    (leads : Leads around front) (asked : Chain test) :
    Leads (.affirmed value :: around) (front ++ (test ++ [.question]))
  | denied {around : List Pending} {front test affirmed : List Token} {value yes : Expr}
    (leads : Leads around front) (asked : Chain test) (chosen : Expression affirmed) :
    Leads (.denied value yes :: around) (front ++ (test ++ .question :: (affirmed ++ [.colon])))
  | group {around : List Pending} {front : List Token} (leads : LeadsToOperand around front) :
    Leads (.group :: around) (front ++ [.openRound])
  | index {around : List Pending} {front target : List Token} {value : Expr}
    (leads : LeadsToOperand around front) (looked : Operand target) :
    Leads (.index value :: around) (front ++ (target ++ [.openSquare]))
  | row {around : List Pending} {front opening done : List Token} {bracket : Bracket}
    {items : List Expr} (leads : LeadsToOperand around front)
    (opens : Opening opening bracket.closer)
    (goesOn : ∀ more, Expressions more → Expressions (done ++ more)) :
    Leads (bracket.pending items :: around) (front ++ (opening ++ done))

/-- Tokens that lead to a place where an operand of an expression is due. -/
inductive LeadsToOperand : List Pending → List Token → Prop
  | due {around : List Pending} {front : List Token} (leads : Leads around front) :
    LeadsToOperand around front
  | unary {around : List Pending} {front : List Token} {sign : Token} {op : UnaryOp}
    (leads : LeadsToOperand around front) (leading : sign.leadsOperand = true) :
    LeadsToOperand (.unary op :: around) (front ++ [sign])
  | binary {around : List Pending} {front chain : List Token} {sign : Token} {op : BinaryOp}
    {left : Expr} (leads : LeadsToOperand around front) (first : Chain chain)
    (joins : sign.joinsOperands = true) :
    LeadsToOperand (.binary op left :: around) (front ++ (chain ++ [sign]))

end

/-- **What the tokens that were read come to.** -/
inductive Reached : Reading → List Token → Prop
  | operand {around : List Pending} {front : List Token} (leads : LeadsToOperand around front) :
    Reached ⟨.operand, around⟩ front
  | operandOrClose {around : List Pending} {front opening : List Token} {bracket : Bracket}
    (leads : LeadsToOperand around front) (opens : Opening opening bracket.closer) :
    Reached ⟨.operandOrClose, bracket.pending [] :: around⟩ (front ++ opening)
  | complete {around : List Pending} {front tokens : List Token} {value : Expr}
    (leads : LeadsToOperand around front) (one : Operand tokens) :
    Reached ⟨.complete value, around⟩ (front ++ tokens)
  | word {around : List Pending} {front : List Token} {name : String}
    (leads : LeadsToOperand around front) : Reached ⟨.word name, around⟩ (front ++ [.ident name])
  | afterDot {around : List Pending} {front target : List Token} {value : Expr}
    (leads : LeadsToOperand around front) (looked : Operand target) :
    Reached ⟨.afterDot value, around⟩ (front ++ (target ++ [.dot]))
  | member {around : List Pending} {front target : List Token} {value : Expr} {name : String}
    (leads : LeadsToOperand around front) (looked : Operand target) :
    Reached ⟨.member value name, around⟩ (front ++ (target ++ [.dot, .ident name]))

variable {state next : Reading} {mode : Mode} {value : Expr} {around pending : List Pending}
  {front tokens : List Token} {token : Token}

/-- No operator waits where an expression is due. -/
theorem Leads.aroundOperators_eq (leads : Leads around front) :
    aroundOperators around = around := by
  cases leads with
  | @row _ _ _ _ bracket => cases bracket <;> rfl
  | _ => rfl

/-- The operators in front of a chain and the chain are one. -/
theorem LeadsToOperand.exists_chain {around : List Pending} {front tokens : List Token} :
    LeadsToOperand around front → Chain tokens → ∃ earlier whole,
      Leads (aroundOperators around) earlier ∧ Chain whole ∧ front ++ tokens = earlier ++ whole
  | .due leads, chain => ⟨front, tokens, leads.aroundOperators_eq.symm ▸ leads, chain, rfl⟩
  | .unary leads leading, chain => by
    obtain ⟨earlier, whole, due, one, same⟩ := exists_chain leads (.unary leading chain)
    exact ⟨earlier, whole, due, one, by rw [← same, List.append_assoc, List.singleton_append]⟩
  | .binary leads first joins, chain => by
    obtain ⟨earlier, whole, due, one, same⟩ := exists_chain leads (.binary first joins chain)
    refine ⟨earlier, whole, due, one, ?_⟩
    rw [← same, List.append_assoc, List.append_assoc, List.singleton_append]

/-- A sign between operands takes some of the operators in front of the chain. -/
theorem LeadsToOperand.exists_reduce (leads : LeadsToOperand around front) (chain : Chain tokens)
    (power : Nat) (value : Expr) : ∃ earlier whole,
      LeadsToOperand (reduce power value around).2 earlier ∧ Chain whole ∧
        front ++ tokens = earlier ++ whole := by
  induction around generalizing front tokens value with
  | nil => exact ⟨front, tokens, leads, chain, rfl⟩
  | cons first rest ih =>
    cases leads with
    | due leads =>
      have stays : (reduce power value (first :: rest)).2 = first :: rest := by
        cases leads with
        | @row _ _ _ _ bracket => cases bracket <;> rfl
        | _ => rfl
      exact ⟨front, tokens, stays.symm ▸ .due leads, chain, rfl⟩
    | unary leads leading =>
      obtain ⟨earlier, whole, due, one, same⟩ := ih leads (.unary leading chain) _
      exact ⟨earlier, whole, due, one, by rw [← same, List.append_assoc, List.singleton_append]⟩
    | binary leads first joins =>
      rw [reduce]
      split
      · obtain ⟨earlier, whole, due, one, same⟩ := ih leads (.binary first joins chain) _
        refine ⟨earlier, whole, due, one, ?_⟩
        rw [← same, List.append_assoc, List.append_assoc, List.singleton_append]
      · exact ⟨_, tokens, .binary leads first joins, chain, rfl⟩

/-- The choices that end with an expression and the expression are one. -/
theorem Leads.exists_expression {around : List Pending} {front tokens : List Token} :
    Leads around front → Expression tokens → ∃ earlier whole,
      Leads (aroundEnded around) earlier ∧ Expression whole ∧ front ++ tokens = earlier ++ whole
  | .denied leads asked chosen, one => by
    obtain ⟨earlier, whole, due, all, same⟩ := exists_expression leads (.choice asked chosen one)
    refine ⟨earlier, whole, due, all, ?_⟩
    rw [← same]
    simp only [List.append_assoc, List.cons_append, List.nil_append]
  | .start, one => ⟨_, _, .start, one, rfl⟩
  | .affirmed leads asked, one => ⟨_, _, .affirmed leads asked, one, rfl⟩
  | .group leads, one => ⟨_, _, .group leads, one, rfl⟩
  | .index leads looked, one => ⟨_, _, .index leads looked, one, rfl⟩
  | @Leads.row _ _ _ _ bracket _ leads opens goesOn, one => by
    refine ⟨_, _, ?_, one, rfl⟩
    rw [aroundEnded, List.dropWhile_cons_of_neg]
    · exact .row leads opens goesOn
    · rw [bracket.isOpenEnded_pending]
      decide

/-- What ends with an operand is an expression. -/
theorem LeadsToOperand.exists_expression (leads : LeadsToOperand around front)
    (one : Operand tokens) : ∃ earlier whole, Leads (aroundEnded around) earlier ∧
      Expression whole ∧ front ++ tokens = earlier ++ whole := by
  obtain ⟨first, chain, due, whole, same⟩ := leads.exists_chain (.operand one)
  obtain ⟨earlier, all, leads, expression, alike⟩ := due.exists_expression (.chain whole)
  rw [aroundEnded_aroundOperators] at leads
  exact ⟨earlier, all, leads, expression, same.trans alike⟩

/-! ### One token more -/

theorem reached_operand (leads : LeadsToOperand around front)
    (step : stepOperand around token = some next) : Reached next (front ++ [token]) := by
  cases token <;> cases step
  case nilWord => exact .complete leads (.literal .nil)
  case trueWord => exact .complete leads (.literal (.bool true))
  case falseWord => exact .complete leads (.literal (.bool false))
  case int value => exact .complete leads (.literal (.int value))
  case float value => exact .complete leads (.literal (.float value))
  case str value => exact .complete leads (.literal (.str value))
  case ident name => exact .word leads
  case bang => exact .operand (.unary leads rfl)
  case notWord => exact .operand (.unary leads rfl)
  case minus => exact .operand (.unary leads rfl)
  case openRound => exact .operand (.due (.group leads))
  case openSquare => exact @Reached.operandOrClose _ _ _ .list leads .list

theorem joinsOperands_of_binaryOp? {op : BinaryOp} (known : binaryOp? token = some op) :
    token.joinsOperands = true := by
  cases token <;> first | rfl | cases known

/-- A comma and a closing bracket behind an expression of a row. -/
theorem reached_row {bracket : Bracket} {opening done : List Token}
    (leads : LeadsToOperand around front) (opens : Opening opening bracket.closer)
    (goesOn : ∀ more, Expressions more → Expressions (done ++ more)) (one : Expression tokens) :
    (∀ items, Reached ⟨.operand, bracket.pending items :: around⟩
      (front ++ (opening ++ done) ++ tokens ++ [.comma])) ∧
      ∀ whole, Reached ⟨.complete whole, around⟩
        (front ++ (opening ++ done) ++ tokens ++ [bracket.closer]) := by
  constructor
  · intro items
    have later more (expressions : Expressions more) :
        Expressions (done ++ (tokens ++ [.comma]) ++ more) := by
      rw [List.append_assoc, List.append_assoc, List.singleton_append]
      exact goesOn _ (.next one expressions)
    simp only [List.append_assoc]
    exact .operand (.due (.row leads opens later))
  · intro whole
    simp only [List.append_assoc]
    rw [← List.append_assoc done]
    exact .complete leads (.row opens (.some (goesOn tokens (.last one))))

/-- A separator or a closing bracket behind an expression. -/
theorem reached_close (leads : Leads around front)
    (waits : ∀ first, around.head? = some first → first.isOpenEnded = false)
    (one : Expression tokens) (step : stepClose value around token = some next) :
    Reached next (front ++ tokens ++ [token]) := by
  cases leads with
  | start => cases token <;> cases step
  | affirmed leads asked =>
    cases token <;> cases step
    simp only [List.append_assoc, List.cons_append, List.nil_append]
    exact .operand (.due (.denied leads asked one))
  | denied leads asked chosen => cases waits _ rfl
  | group leads =>
    cases token <;> cases step
    simp only [List.append_assoc]
    exact .complete leads (.group one)
  | index leads looked =>
    cases token <;> cases step
    simp only [List.append_assoc, List.cons_append, List.nil_append]
    exact .complete leads (.index looked one)
  | @row _ _ _ _ bracket _ leads opens goesOn =>
    obtain ⟨comma, closer⟩ := reached_row leads opens goesOn one
    cases bracket <;> cases token <;> cases step
    all_goals first | exact comma _ | exact closer _

/-- No construct around an expression ends with it. -/
theorem isOpenEnded_of_aroundEnded {first : Pending}
    (head : (aroundEnded around).head? = some first) : first.isOpenEnded = false := by
  have waits := List.head?_dropWhile_not Pending.isOpenEnded around
  rw [aroundEnded] at head
  rw [head] at waits
  exact waits

/-- A token behind an operand. -/
theorem reached_value (leads : LeadsToOperand around front) (one : Operand tokens)
    (step : stepValue value around token = some next) :
    Reached next (front ++ tokens ++ [token]) := by
  unfold stepValue at step
  split at step
  · next op known =>
    cases step
    obtain ⟨earlier, whole, due, chain, same⟩ := leads.exists_reduce (.operand one) op.power value
    rw [same, List.append_assoc]
    exact .operand (.binary due chain (joinsOperands_of_binaryOp? known))
  · split at step
    · cases step
      rw [List.append_assoc]
      exact .afterDot leads one
    · cases step
      rw [List.append_assoc]
      exact .operand (.due (.index leads one))
    · obtain ⟨earlier, whole, due, chain, same⟩ := leads.exists_chain (.operand one)
      obtain ⟨asked, reduces⟩ := exists_reduce_zero value around
      simp only [reduces] at step
      cases step
      rw [same, List.append_assoc]
      exact .operand (.due (.affirmed due chain))
    · obtain ⟨earlier, whole, due, expression, same⟩ := leads.exists_expression one
      obtain ⟨all, settles⟩ := exists_settle value around
      have closes : stepClose all (aroundEnded around) token = some next := by
        rw [← step, stepClose, stepClose, settles, settle_aroundEnded]
      rw [same]
      exact reached_close due (fun _ => isOpenEnded_of_aroundEnded) expression closes

/-- Right behind an opening bracket it closes, or an operand begins. -/
theorem closes_or_operand {bracket : Bracket}
    (step : stepEmpty (bracket.pending [] :: around) token = some next) :
    (token = bracket.closer ∧ ∃ whole, next = ⟨.complete whole, around⟩) ∨
      stepOperand (bracket.pending [] :: around) token = some next := by
  cases bracket <;> cases token <;>
    first
    | exact Or.inr step
    | cases step; exact Or.inl ⟨rfl, _, rfl⟩

/-- **One token more.** -/
theorem Reached.step (reached : Reached state front) (step : state.step token = some next) :
    Reached next (front ++ [token]) := by
  cases reached with
  | operand leads => exact reached_operand leads step
  | @operandOrClose around front opening bracket leads opens =>
    rcases closes_or_operand step with ⟨rfl, whole, rfl⟩ | begins
    · rw [List.append_assoc]
      exact .complete leads (.row opens .none)
    · refine reached_operand ?_ begins
      have due := @Leads.row _ _ _ [] _ [] leads opens fun more expressions => expressions
      rw [List.append_nil] at due
      exact .due due
  | complete leads one => exact reached_value leads one step
  | @word around front name leads =>
    by_cases call : token = .openRound
    · subst call
      cases step
      rw [List.append_assoc]
      exact @operandOrClose _ _ _ (.call name) leads (.call name)
    · rw [Holds.step_of_value rfl call] at step
      exact reached_value leads (.name name) step
  | afterDot leads looked =>
    cases token <;> cases step
    simp only [List.append_assoc, List.singleton_append]
    exact .member leads looked
  | @member around front target value name leads looked =>
    by_cases call : token = .openRound
    · subst call
      cases step
      simp only [List.append_assoc, List.cons_append, List.nil_append]
      exact @operandOrClose _ _ _ (.method value name) leads (.method looked name)
    · rw [Holds.step_of_value rfl call] at step
      exact reached_value leads (.field looked name) step

/-- **All tokens that were read**, one after the other. -/
theorem Reached.after (reached : Reached state front) (reads : state.after tokens = some next) :
    Reached next (front ++ tokens) := by
  induction tokens generalizing state front with
  | nil =>
    cases reads
    rwa [List.append_nil]
  | cons token tokens ih =>
    obtain ⟨middle, one, reads⟩ := Option.bind_eq_some_iff.mp reads
    have later := ih (reached.step one) reads
    rwa [List.append_assoc] at later

theorem finish_eq (complete : value? mode = some value) (pending : List Pending) :
    ∃ whole, (⟨mode, pending⟩ : Reading).finish =
      if aroundEnded pending = [] then some whole else none := by
  obtain ⟨whole, settles⟩ := exists_settle value pending
  refine ⟨whole, ?_⟩
  simp only [finish, complete, settles]
  cases aroundEnded pending <;> rfl

/-- Where nothing is open behind an operand, all that was read is an expression. -/
theorem expression_of_finish (leads : LeadsToOperand around front) (one : Operand tokens)
    (complete : value? mode = some value)
    (done : ((⟨mode, around⟩ : Reading).finish).isSome = true) : Expression (front ++ tokens) := by
  obtain ⟨earlier, whole, due, expression, same⟩ := leads.exists_expression one
  obtain ⟨_, finishes⟩ := finish_eq complete around
  by_cases closed : aroundEnded around = []
  · rw [closed] at due
    cases due
    rwa [same]
  · rw [finishes, if_neg closed] at done
    cases done

theorem Reached.expression (reached : Reached state front) (done : state.finish.isSome = true) :
    Expression front := by
  cases reached with
  | operand | operandOrClose | afterDot => cases done
  | complete leads one => exact expression_of_finish leads one rfl done
  | @word around front name leads => exact expression_of_finish leads (.name name) rfl done
  | @member around front target value name leads looked =>
    exact expression_of_finish leads (.field looked name) rfl done

/-! ### What was read can be completed -/

/-- The tokens that close a construct behind an expression. -/
def closing : Pending → List Token
  | .affirmed _ => [.colon, .nilWord]
  | .group | .call .. | .method .. => [.closeRound]
  | .list _ | .index _ => [.closeSquare]
  | .unary _ | .binary .. | .denied .. => []

/-- A construct that is open around an operand can be closed, and leaves fewer. -/
theorem exists_closing {first : Pending} (complete : value? mode = some value)
    (head : aroundEnded pending = first :: around) :
    ∃ whole left, after ⟨mode, pending⟩ (closing first) = some ⟨.complete whole, left⟩ ∧
      (aroundEnded left).length < (aroundEnded pending).length := by
  have closes {token : Token} (among : token ∈ [.colon, .comma, .closeRound, .closeSquare]) :
      ∃ whole, Reading.step ⟨mode, pending⟩ token = stepClose whole (first :: around) token := by
    obtain ⟨whole, step⟩ := exists_step_closing pending complete among
    exact ⟨whole, by rw [step, head]⟩
  have fewer : (aroundEnded around).length < (aroundEnded pending).length := by
    rw [head, List.length_cons]
    exact Nat.lt_succ_of_le (List.dropWhile_suffix Pending.isOpenEnded).length_le
  have waits : first.isOpenEnded = false :=
    isOpenEnded_of_aroundEnded (by rw [head, List.head?_cons])
  cases first
  case unary | binary | denied => cases waits
  case affirmed test =>
    obtain ⟨whole, step⟩ := closes (show Token.colon ∈ _ by decide)
    refine ⟨.literal .nil, .denied test whole :: around, ?_, fewer⟩
    rw [closing, after_cons (step.trans rfl), after_singleton]
    rfl
  case group | call | method =>
    obtain ⟨whole, step⟩ := closes (show Token.closeRound ∈ _ by decide)
    exact ⟨_, around, (after_singleton _ _).trans step, fewer⟩
  case list | index =>
    obtain ⟨whole, step⟩ := closes (show Token.closeSquare ∈ _ by decide)
    exact ⟨_, around, (after_singleton _ _).trans step, fewer⟩

/-- All constructs that are open around an operand can be closed. -/
theorem exists_completion_of_value {mode : Mode} {value : Expr} {pending : List Pending}
    (complete : value? mode = some value) :
    ∃ more last, after ⟨mode, pending⟩ more = some last ∧ last.finish.isSome = true := by
  cases head : aroundEnded pending with
  | nil =>
    obtain ⟨whole, finishes⟩ := finish_eq complete pending
    exact ⟨[], _, rfl, by rw [finishes, if_pos head]; rfl⟩
  | cons first around =>
    obtain ⟨whole, left, closes, fewer⟩ := exists_closing complete head
    obtain ⟨more, last, reads, done⟩ :=
      @exists_completion_of_value (.complete whole) whole left rfl
    exact ⟨closing first ++ more, last, by rw [after_append closes, reads], done⟩
termination_by (aroundEnded pending).length

/-- **Whatever was read can be completed.** -/
theorem exists_completion (state : Reading) :
    ∃ more last, state.after more = some last ∧ last.finish.isSome = true := by
  obtain ⟨mode, pending⟩ := state
  have behind (token : Token) (next : Reading) (value : Expr)
      (step : Reading.step ⟨mode, pending⟩ token = some next)
      (complete : value? next.mode = some value) :
      ∃ more last, after ⟨mode, pending⟩ more = some last ∧ last.finish.isSome = true := by
    obtain ⟨more, last, reads, done⟩ :=
      @exists_completion_of_value next.mode value next.pending complete
    exact ⟨token :: more, last, by rw [after_cons step, reads], done⟩
  cases mode with
  | operand | operandOrClose =>
    exact behind .nilWord ⟨.complete (.literal .nil), pending⟩ (.literal .nil) rfl rfl
  | afterDot receiver =>
    exact behind (.ident "x") ⟨.member receiver "x", pending⟩ (.field receiver "x") rfl rfl
  | complete | word | member => exact exists_completion_of_value rfl

end Reading

/-- Tokens that lead from a state to one where nothing is open. -/
def Reading.Accepts (state : Reading) (tokens : List Token) : Prop :=
  ((state.after tokens).bind finish).isSome = true

instance (state : Reading) (tokens : List Token) : Decidable (state.Accepts tokens) :=
  inferInstanceAs (Decidable (_ = true))

theorem Reading.accepts_iff {state : Reading} {tokens : List Token} : state.Accepts tokens ↔
    ∃ last, state.after tokens = some last ∧ last.finish.isSome = true := by
  rw [Accepts]
  cases state.after tokens <;> simp

namespace Grammar

/-- **The rows of tokens that are read are the expressions.** -/
theorem expression_iff {tokens : List Token} :
    Expression tokens ↔ Reading.start.Accepts tokens := by
  rw [Reading.accepts_iff]
  constructor
  · intro expression
    obtain ⟨mode, value, left, complete, same, reads⟩ := expression.read []
    obtain ⟨whole, finishes⟩ := Reading.finish_eq complete left
    have closed : Reading.aroundEnded left = [] := same
    exact ⟨_, reads, by rw [finishes, if_pos closed]; rfl⟩
  · rintro ⟨last, reads, done⟩
    have begins : Reading.Reached Reading.start [] := .operand (.due .start)
    exact (begins.after reads).expression done

instance (tokens : List Token) : Decidable (Expression tokens) :=
  decidable_of_iff _ expression_iff.symm

end Grammar

end ReactiveView
