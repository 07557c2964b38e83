/-
**Printed expressions are read back.**

An operand that has just been read need not be one expression yet: operators in front of it may
still wait for what follows. It stands for an expression of a level when all that can follow an
operand of that level treats it like the expression itself. Every expression is read to a state that
stands for it, in any context whose operators leave it whole, and what follows it in a printed text
is of that kind.

* `Reading.Admits` — a context whose innermost operator leaves an operand of a level whole.
* `Reading.Holds` — a state that stands for an expression of a level.
* `Expr.read_tokens` — the tokens of an expression lead to a state that stands for it.
* `adjoins_of_step` — two tokens that can be read one after the other may stand side by side.
* `Expr.reads_spelled` — every text that spells an expression is read as the expression.
-/

import ReactiveView.Proofs.Template.Printing
import ReactiveView.Template.Forest

namespace ReactiveView

namespace BinaryOp

theorem power_pos (op : BinaryOp) : 0 < op.power := by
  rcases op with (_ | _ | _ | _ | _) | (_ | _ | _ | _) | _ | _ | _ | _ <;> decide

theorem power_lt (op : BinaryOp) : op.power < Expr.prefixLevel := by
  rcases op with (_ | _ | _ | _ | _) | (_ | _ | _ | _) | _ | _ | _ | _ <;> decide

theorem binaryOp?_token (op : BinaryOp) : Reading.binaryOp? op.token = some op := by
  rcases op with (_ | _ | _ | _ | _) | (_ | _ | _ | _) | _ | _ | _ | _ <;> rfl

theorem token_ne_openRound (op : BinaryOp) : op.token ≠ .openRound := by
  rcases op with (_ | _ | _ | _ | _) | (_ | _ | _ | _) | _ | _ | _ | _ <;> decide

end BinaryOp

namespace Reading

/-- What tokens do to a state, one after the other. -/
def after (state : Reading) (tokens : List Token) : Option Reading := tokens.foldlM step state

variable {state next last : Reading} {token : Token} {first second : List Token}

@[simp] theorem after_nil (state : Reading) : state.after [] = some state := rfl

theorem after_cons (step : state.step token = some next) (tokens : List Token) :
    state.after (token :: tokens) = next.after tokens := by
  simp [after, step]

theorem after_append (front : state.after first = some next) (tokens : List Token) :
    state.after (first ++ tokens) = next.after tokens := by
  rw [after] at front
  rw [after, List.foldlM_append, front]
  rfl

/-- A reading that takes every token ends as its last state does. -/
theorem run_of_after {tokens : List Token} (reads : state.after tokens = some last) :
    ∀ placed, placed.map PlacedToken.token = tokens → state.run placed = last.run [] := by
  induction tokens generalizing state with
  | nil =>
    cases reads
    rintro placed none
    rw [List.map_eq_nil_iff.mp none]
  | cons token tokens ih =>
    intro placed same
    obtain ⟨head, rest, rfl, rfl, others⟩ := List.map_eq_cons_iff.mp same
    obtain ⟨next, step, reads⟩ := Option.bind_eq_some_iff.mp reads
    have taken : state.run (head :: rest) = next.run rest := by simp only [run, step]
    rw [taken]
    exact ih reads rest others

/-- Tokens are read exactly if each of them is taken and nothing is open behind the last. -/
theorem run_eq_ok_iff {placed : List PlacedToken} {value : Expr} :
    state.run placed = .ok value ↔ ∃ last,
      state.after (placed.map PlacedToken.token) = some last ∧ last.finish = some value := by
  induction placed generalizing state with
  | nil =>
    rw [run]
    cases finish : state.finish with
    | none => simp [finish]
    | some found => simp [finish]
  | cons first rest ih =>
    rw [run]
    cases step : state.step first.token with
    | none => simp [after, step]
    | some next =>
      rw [List.map_cons, after_cons step]
      exact ih

/-! ### Contexts and what is read in them -/

/-- A context whose innermost operator leaves an operand of a level whole. -/
def Admits (level : Nat) : List Pending → Prop
  | .unary _ :: _ => Expr.prefixLevel ≤ level
  | .binary op _ :: _ => op.power < level
  | _ => True

theorem Admits.mono {low high : Nat} (order : low ≤ high) :
    ∀ {around : List Pending}, Admits low around → Admits high around
  | [], _ => trivial
  | .unary _ :: _, admits => Nat.le_trans admits order
  | .binary _ _ :: _, admits => Nat.lt_of_lt_of_le admits order
  | .affirmed _ :: _, _ | .denied _ _ :: _, _ | .group :: _, _ | .list _ :: _, _
  | .index _ :: _, _ | .call _ _ :: _, _ | .method _ _ _ :: _, _ => trivial

/-- What is tightest is left whole everywhere. -/
theorem admits_tightest : ∀ around : List Pending, Admits Expr.tightest around
  | [] => trivial
  | .unary _ :: _ => show Expr.prefixLevel ≤ Expr.tightest by decide
  | .binary op _ :: _ => Nat.lt_succ_of_lt op.power_lt
  | .affirmed _ :: _ | .denied _ _ :: _ | .group :: _ | .list _ :: _ | .index _ :: _
  | .call _ _ :: _ | .method _ _ _ :: _ => trivial

/-- Operators that leave an operand of a level whole do not take it before one that binds so. -/
theorem reduce_of_admits {level : Nat} (low : level < Expr.prefixLevel) (value : Expr) :
    ∀ {around : List Pending}, Admits level around → reduce level value around = (value, around)
  | [], _ => rfl
  | .unary _ :: _, admits => absurd admits (Nat.not_le.mpr low)
  | .binary _ _ :: _, admits => if_neg (Nat.not_le.mpr admits)
  | .affirmed _ :: _, _ | .denied _ _ :: _, _ | .group :: _, _ | .list _ :: _, _
  | .index _ :: _, _ | .call _ _ :: _, _ | .method _ _ _ :: _, _ => rfl

/-- **A state that stands for an expression of a level**: all that may follow an operand of the
level does to the state what it would do to the expression. -/
inductive Holds (value : Expr) (level : Nat) (around : List Pending) : Reading → Prop where
  | intro {mode : Mode} {last : Expr} {pending : List Pending}
    (complete : value? mode = some last)
    (settles : settle last pending = settle value around)
    (reduces : ∀ power ≤ level, 0 < level → reduce power last pending = reduce power value around)
    (whole : Expr.tightest ≤ level → last = value ∧ pending = around) :
    Holds value level around ⟨mode, pending⟩

namespace Holds

variable {value : Expr} {level : Nat} {around : List Pending}

theorem mono {lower : Nat} (holds : Holds value level around state) (order : lower ≤ level) :
    Holds value lower around state := by
  obtain ⟨complete, settles, reduces, whole⟩ := holds
  refine ⟨complete, settles, fun power bound positive => ?_, fun tight => whole (by omega)⟩
  exact reduces power (by omega) (by omega)

/-- The expression itself, complete. -/
theorem self {mode : Mode} (complete : value? mode = some value) :
    Holds value level around ⟨mode, around⟩ :=
  ⟨complete, rfl, fun _ _ _ => rfl, fun _ => ⟨rfl, rfl⟩⟩

theorem step_of_value {mode : Mode} {pending : List Pending} (complete : value? mode = some value)
    (noCall : token ≠ .openRound) : step ⟨mode, pending⟩ token = stepValue value pending token := by
  cases mode <;> cases complete
  case complete.refl => rfl
  all_goals cases token <;> first | rfl | exact absurd rfl noCall

theorem step_operator {op : BinaryOp} (holds : Holds value op.power around state)
    (admits : Admits op.power around) :
    state.step op.token = some ⟨.operand, .binary op value :: around⟩ := by
  obtain ⟨complete, -, reduces, -⟩ := holds
  rw [step_of_value complete op.token_ne_openRound]
  simp only [stepValue, op.binaryOp?_token, reduces op.power le_rfl op.power_pos,
    reduce_of_admits op.power_lt value admits]

theorem step_question (holds : Holds value 1 around state) (admits : Admits 0 around) :
    state.step .question = some ⟨.operand, .affirmed value :: around⟩ := by
  obtain ⟨complete, -, reduces, -⟩ := holds
  rw [step_of_value complete (by decide)]
  simp only [stepValue, binaryOp?, reduces 0 (by decide) (by decide),
    reduce_of_admits (by decide) value admits]

theorem step_dot (holds : Holds value Expr.tightest around state) :
    state.step .dot = some ⟨.afterDot value, around⟩ := by
  obtain ⟨complete, -, -, whole⟩ := holds
  obtain ⟨rfl, rfl⟩ := whole le_rfl
  exact step_of_value complete (by decide)

theorem step_openSquare (holds : Holds value Expr.tightest around state) :
    state.step .openSquare = some ⟨.operand, .index value :: around⟩ := by
  obtain ⟨complete, -, -, whole⟩ := holds
  obtain ⟨rfl, rfl⟩ := whole le_rfl
  exact step_of_value complete (by decide)

/-- A separator or a closing bracket ends the expression. -/
theorem step_close (holds : Holds value level around state)
    (closer : token ∈ [.colon, .comma, .closeRound, .closeSquare]) :
    state.step token = stepClose value around token := by
  obtain ⟨complete, settles, -, -⟩ := holds
  have closes : ∀ {last pending}, stepValue last pending token = stepClose last pending token := by
    intro last pending
    simp only [List.mem_cons, List.not_mem_nil, or_false] at closer
    rcases closer with rfl | rfl | rfl | rfl <;> rfl
  have noCall : token ≠ .openRound := by
    rintro rfl
    exact absurd closer (by decide)
  rw [step_of_value complete noCall, closes, stepClose, settles, ← stepClose]

theorem finish (holds : Holds value level [] state) : state.finish = some value := by
  obtain ⟨complete, settles, -, -⟩ := holds
  simp only [Reading.finish, complete, settles, settle]

end Holds

end Reading

/-! ### Expressions -/

open Reading

/-- **The tokens of an expression lead to a state that stands for it**, in every context that leaves
it whole. -/
def Expr.Read (expr : Expr) : Prop :=
  ∀ around, Admits expr.level around →
    ∃ state, Reading.after ⟨.operand, around⟩ expr.tokens = some state ∧
      state.Holds expr expr.level around

namespace Expr

variable {around : List Pending}

/-- An expression at a position is read up to a state that stands for it there. -/
theorem Read.fence {expr : Expr} (read : expr.Read) {place : Nat} (admits : Admits place around) :
    ∃ state,
      Reading.after ⟨.operand, around⟩ (Expr.fence place expr.level expr.tokens) = some state ∧
      state.Holds expr place around := by
  unfold Expr.fence
  split
  · -- Parentheses let any expression in, and what they close is whole.
    obtain ⟨state, reads, holds⟩ := read (.group :: around) trivial
    refine ⟨⟨.complete expr, around⟩, ?_, .self rfl⟩
    rw [after_cons rfl, after_append reads, after_cons, after_nil]
    rw [holds.step_close (by decide)]
    rfl
  · next fits =>
    obtain ⟨state, reads, holds⟩ := read around (admits.mono (Nat.not_lt.mp fits))
    exact ⟨state, reads, holds.mono (Nat.not_lt.mp fits)⟩

theorem read_literal (value : Literal) : (literal value).Read := by
  intro around _
  refine ⟨⟨.complete (literal value), around⟩, ?_, .self rfl⟩
  rcases value with _ | (_ | _) | _ | _ | _ <;> rfl

theorem read_name (word : String) : (name word).Read :=
  fun around _ => ⟨⟨.word word, around⟩, rfl, .self rfl⟩

theorem read_unary (op : UnaryOp) {operand : Expr} (read : operand.Read) :
    (unary op operand).Read := by
  intro around _
  have step : Reading.step ⟨.operand, around⟩ op.token = some ⟨.operand, .unary op :: around⟩ := by
    cases op <;> rfl
  have admits : Admits prefixLevel (.unary op :: around) := Nat.le_refl prefixLevel
  obtain ⟨state, reads, holds⟩ := read.fence admits
  obtain ⟨complete, settles, reduces, -⟩ := holds
  refine ⟨_, by rw [tokens, after_cons step, reads], complete, settles, reduces, ?_⟩
  exact fun tight => absurd tight (show ¬tightest ≤ prefixLevel by decide)

theorem read_binary (op : BinaryOp) {left right : Expr} (readLeft : left.Read)
    (readRight : right.Read) : (binary op left right).Read := by
  intro around admits
  have admitsLeft : Admits op.power around := admits
  obtain ⟨middle, readsLeft, holdsLeft⟩ := readLeft.fence admitsLeft
  have admitsRight : Admits (op.power + 1) (.binary op left :: around) := Nat.lt_succ_self op.power
  obtain ⟨state, readsRight, holdsRight⟩ := readRight.fence admitsRight
  obtain ⟨complete, settles, reduces, -⟩ := holdsRight
  refine ⟨_, ?_, complete, settles, fun power bound _ => ?_, fun tight => ?_⟩
  · rw [tokens, after_append readsLeft, after_cons (holdsLeft.step_operator admits), readsRight]
  · -- The operator itself is the first to be taken, as it binds no tighter than asked.
    have taken : power ≤ op.power := bound
    rw [reduces power (Nat.le_succ_of_le bound) (Nat.succ_pos _), reduce, if_pos taken]
  · exact absurd (Nat.lt_of_lt_of_le op.power_lt (by decide)) (Nat.not_lt.mpr tight)

theorem read_conditional {test affirmed denied : Expr} (readTest : test.Read)
    (readAffirmed : affirmed.Read) (readDenied : denied.Read) :
    (conditional test affirmed denied).Read := by
  intro around admits
  obtain ⟨asked, readsTest, holdsTest⟩ := readTest.fence (admits.mono (Nat.zero_le 1))
  obtain ⟨chosen, readsAffirmed, holdsAffirmed⟩ := readAffirmed (.affirmed test :: around) trivial
  obtain ⟨state, readsDenied, holdsDenied⟩ :=
    readDenied (.denied test affirmed :: around) trivial
  have colon : chosen.step .colon = some ⟨.operand, .denied test affirmed :: around⟩ := by
    rw [holdsAffirmed.step_close (by decide)]
    rfl
  obtain ⟨complete, settles, -, -⟩ := holdsDenied
  refine ⟨_, ?_, complete, settles, fun power _ positive => ?_, fun tight => ?_⟩
  · rw [tokens, after_append readsTest, after_cons (holdsTest.step_question admits),
      after_append readsAffirmed, after_cons colon, readsDenied]
  · exact absurd positive (Nat.lt_irrefl 0)
  · exact absurd tight (show ¬tightest ≤ 0 by decide)

theorem read_field (word : String) {target : Expr} (read : target.Read) :
    (field target word).Read := by
  intro around _
  obtain ⟨state, reads, holds⟩ := read.fence (admits_tightest around)
  refine ⟨⟨.member target word, around⟩, ?_, .self rfl⟩
  rw [tokens, after_append reads, after_cons holds.step_dot, after_cons rfl, after_nil]

theorem read_index {target key : Expr} (readTarget : target.Read) (readKey : key.Read) :
    (index target key).Read := by
  intro around _
  obtain ⟨found, readsTarget, holdsTarget⟩ := readTarget.fence (admits_tightest around)
  obtain ⟨state, readsKey, holdsKey⟩ := readKey (.index target :: around) trivial
  refine ⟨⟨.complete (index target key), around⟩, ?_, .self rfl⟩
  rw [tokens, after_append readsTarget, after_cons holdsTarget.step_openSquare,
    after_append readsKey, after_cons, after_nil]
  rw [holdsKey.step_close (by decide)]
  rfl

end Expr

/-! ### Expressions in brackets -/

/-- What brackets around expressions with commas in between belong to. -/
inductive Bracket where
  | list
  | call (name : String)
  | method (receiver : Expr) (name : String)

namespace Bracket

/-- What waits for the next expression, or for the bracket that closes. -/
def pending (items : List Expr) : Bracket → Pending
  | list => .list items
  | call name => .call name items
  | method receiver name => .method receiver name items

/-- The expression that the brackets end. -/
def expr (items : List Expr) : Bracket → Expr
  | list => .list items
  | call name => .call name items
  | method receiver name => .method receiver name items

/-- The bracket that closes. -/
def closer : Bracket → Token
  | list => .closeSquare
  | call _ | method .. => .closeRound

theorem closer_mem (bracket : Bracket) :
    bracket.closer ∈ [.colon, .comma, .closeRound, .closeSquare] := by
  cases bracket <;> simp [closer]

theorem admits (bracket : Bracket) (items : List Expr) (level : Nat) (around : List Pending) :
    Admits level (bracket.pending items :: around) := by
  cases bracket <;> trivial

variable (bracket : Bracket) {items done : List Expr} {value : Expr} {level : Nat} {state : Reading}
  {around : List Pending}

/-- The bracket that closes ends the last expression and all of them. -/
theorem step_closer (holds : state.Holds value level (bracket.pending done :: around)) :
    state.step bracket.closer = some ⟨.complete (bracket.expr (done ++ [value])), around⟩ := by
  rw [holds.step_close bracket.closer_mem]
  cases bracket <;> rfl

/-- A comma ends an expression; another follows. -/
theorem step_comma (holds : state.Holds value level (bracket.pending done :: around)) :
    state.step .comma = some ⟨.operand, bracket.pending (done ++ [value]) :: around⟩ := by
  rw [holds.step_close (by decide)]
  cases bracket <;> rfl

/-- Expressions with a comma in front of each are read behind another one, up to the bracket. -/
theorem after_more (read : ∀ item ∈ items, item.Read)
    (holds : state.Holds value level (bracket.pending done :: around)) :
    state.after (Expr.more items ++ [bracket.closer]) =
      some ⟨.complete (bracket.expr (done ++ value :: items)), around⟩ := by
  induction items generalizing done value level state with
  | nil =>
    rw [Expr.more, List.nil_append, after_cons (bracket.step_closer holds), after_nil]
  | cons first rest ih =>
    obtain ⟨readFirst, readRest⟩ := List.forall_mem_cons.mp read
    obtain ⟨next, reads, holdsFirst⟩ := readFirst _ (bracket.admits _ _ around)
    rw [Expr.more, List.cons_append, after_cons (bracket.step_comma holds), List.append_assoc,
      after_append reads, ih readRest holdsFirst, List.append_assoc, List.singleton_append]

/-- Where a bracket may close at once, every operand is read as where it may not. -/
theorem after_operandOrClose {tokens : List Token} {pending : List Pending} {mode : Mode}
    {left : List Pending} (reads : Reading.after ⟨.operand, pending⟩ tokens = some ⟨mode, left⟩)
    (complete : value? mode = some value) :
    Reading.after ⟨.operandOrClose, pending⟩ tokens = some ⟨mode, left⟩ := by
  cases tokens with
  | nil =>
    cases reads
    cases complete
  | cons token tokens =>
    obtain ⟨next, step, reads⟩ := Option.bind_eq_some_iff.mp reads
    have same : Reading.step ⟨.operandOrClose, pending⟩ token = some next := by
      rw [← step]
      cases token <;> first | rfl | cases step
    rw [after_cons same]
    exact reads

/-- **Expressions in brackets are read**, whatever the brackets belong to. -/
theorem after_row (read : ∀ item ∈ items, item.Read) :
    Reading.after ⟨.operandOrClose, bracket.pending [] :: around⟩
        (Expr.row items ++ [bracket.closer]) =
      some ⟨.complete (bracket.expr items), around⟩ := by
  cases items with
  | nil => cases bracket <;> rfl
  | cons first rest =>
    obtain ⟨readFirst, readRest⟩ := List.forall_mem_cons.mp read
    obtain ⟨next, reads, holds⟩ := readFirst _ (bracket.admits _ _ around)
    have begins : Reading.after ⟨.operandOrClose, bracket.pending [] :: around⟩ first.tokens =
        some next := by
      cases holds with
      | intro complete => exact after_operandOrClose reads complete
    rw [Expr.row, List.append_assoc, after_append begins]
    exact bracket.after_more readRest holds

end Bracket

namespace Expr

theorem read_list {items : List Expr} (read : ∀ item ∈ items, item.Read) : (list items).Read :=
  fun around _ => ⟨⟨.complete (list items), around⟩, Bracket.list.after_row read, .self rfl⟩

theorem read_call (word : String) {arguments : List Expr}
    (read : ∀ argument ∈ arguments, argument.Read) : (call word arguments).Read :=
  fun around _ =>
    ⟨⟨.complete (call word arguments), around⟩, (Bracket.call word).after_row read, .self rfl⟩

theorem read_method (word : String) {receiver : Expr} {arguments : List Expr}
    (readReceiver : receiver.Read) (read : ∀ argument ∈ arguments, argument.Read) :
    (method receiver word arguments).Read := by
  intro around _
  obtain ⟨state, reads, holds⟩ := readReceiver.fence (admits_tightest around)
  refine ⟨⟨.complete (method receiver word arguments), around⟩, ?_, .self rfl⟩
  rw [tokens, after_append reads, after_cons holds.step_dot, after_cons rfl, after_cons rfl]
  exact (Bracket.method receiver word).after_row read

end Expr

mutual

/-- **Every expression is read.** -/
theorem Expr.read_tokens : ∀ expr : Expr, expr.Read
  | .literal value => Expr.read_literal value
  | .list items => Expr.read_list (Expr.read_items items)
  | .name word => Expr.read_name word
  | .field target word => Expr.read_field word (Expr.read_tokens target)
  | .index target key => Expr.read_index (Expr.read_tokens target) (Expr.read_tokens key)
  | .method receiver word arguments =>
    Expr.read_method word (Expr.read_tokens receiver) (Expr.read_items arguments)
  | .call word arguments => Expr.read_call word (Expr.read_items arguments)
  | .unary op operand => Expr.read_unary op (Expr.read_tokens operand)
  | .binary op left right => Expr.read_binary op (Expr.read_tokens left) (Expr.read_tokens right)
  | .conditional test affirmed denied =>
    Expr.read_conditional (Expr.read_tokens test) (Expr.read_tokens affirmed)
      (Expr.read_tokens denied)

theorem Expr.read_items : ∀ items : List Expr, ∀ item ∈ items, item.Read
  | [] => nofun
  | first :: rest => List.forall_mem_cons.mpr ⟨Expr.read_tokens first, Expr.read_items rest⟩

end

/-! ### Neighbours -/

namespace Reading

variable {state next last : Reading} {token first second : Token}

/-- No word and no number follows an operand. -/
theorem step_wordy_of_value {value : Expr} (complete : value? state.mode = some value)
    (wordy : token.isWordy = true) (writable : token.isWritable = true) :
    state.step token = none := by
  obtain ⟨mode, pending⟩ := state
  have noCall : token ≠ .openRound := by
    rintro rfl
    cases wordy
  rw [Holds.step_of_value complete noCall]
  cases token <;> first | cases wordy; done | cases writable; done | rfl

/-- A word or a number is an operand, or the name behind a point. -/
theorem value_of_step_wordy (step : state.step token = some next) (wordy : token.isWordy = true)
    (writable : token.isWritable = true) : ∃ value, value? next.mode = some value := by
  obtain ⟨mode, pending⟩ := state
  cases mode
  case complete | word | member =>
    rw [step_wordy_of_value rfl wordy writable] at step
    cases step
  case operand | operandOrClose | afterDot =>
    cases token <;>
      first
      | cases wordy; done
      | cases writable; done
      | cases step; done
      | cases step; exact ⟨_, rfl⟩

/-- A point follows an operand. -/
theorem afterDot_of_step (step : state.step .dot = some next) :
    ∃ value, next.mode = .afterDot value := by
  obtain ⟨mode, pending⟩ := state
  cases mode <;> cases step <;> exact ⟨_, rfl⟩

/-- An operand follows a sign that an equals sign would make another. -/
theorem operand_of_step (step : state.step token = some next)
    (openEnded : token.isOpenEnded = true) : next.mode = .operand := by
  obtain ⟨mode, pending⟩ := state
  cases token <;> first | cases openEnded; done | cases mode <;> cases step <;> rfl

/-- **Two tokens that can be read one after the other may stand side by side.** -/
theorem adjoins_of_step (one : state.step first = some next) (other : next.step second = some last)
    (writableFirst : first.isWritable = true) (writableSecond : second.isWritable = true) :
    first.Adjoins second where
  words wordy := by
    obtain ⟨value, complete⟩ := value_of_step_wordy one wordy writableFirst
    refine Bool.eq_false_iff.mpr fun wordySecond => ?_
    rw [step_wordy_of_value complete wordySecond writableSecond] at other
    cases other
  places isDot := by
    subst isDot
    obtain ⟨mode, pending⟩ := next
    obtain ⟨value, rfl⟩ := afterDot_of_step one
    cases second <;> first | rfl | cases other
  signs openEnded := by
    obtain ⟨mode, pending⟩ := next
    obtain rfl := operand_of_step one openEnded
    cases second <;> first | rfl | cases other

theorem isChain_of_after {tokens : List Token} (reads : state.after tokens = some last)
    (writable : Token.AllWritable tokens) : tokens.IsChain Token.Adjoins := by
  induction tokens generalizing state with
  | nil => exact .nil
  | cons first rest ih =>
    obtain ⟨next, one, reads⟩ := Option.bind_eq_some_iff.mp reads
    obtain ⟨writableFirst, writableRest⟩ := List.forall_mem_cons.mp writable
    have chain := ih reads writableRest
    cases rest with
    | nil => exact .singleton first
    | cons second rest =>
      obtain ⟨after, other, -⟩ := Option.bind_eq_some_iff.mp reads
      have writableSecond := writableRest second List.mem_cons_self
      exact .cons_cons (adjoins_of_step one other writableFirst writableSecond) chain

end Reading

/-! ### Texts -/

/-- Every text that spells the tokens of an expression has them as its tokens, and those are read as
the expression. -/
theorem Expr.readExpr_of_spells {expr : Expr} (writable : expr.isWritable = true) {text : List Char}
    (spells : Spells expr.tokens text) :
    ∃ placed, tokenize text = .ok placed ∧ readExpr placed = .ok expr := by
  obtain ⟨state, reads, holds⟩ := expr.read_tokens [] trivial
  have chain := isChain_of_after reads (expr.allWritable_tokens writable)
  obtain ⟨placed, taken, same⟩ := tokenize_of_spells spells chain
  refine ⟨placed, taken, ?_⟩
  rw [readExpr, start, run_of_after reads placed same, run, holds.finish]

/-- **Every text of an expression is read as the expression**, also as the code of a tag. One of
these texts is what is printed; the others have blanks in it, or quote strings in another way. -/
theorem Expr.reads_spelled (expr : Expr) (writable : expr.isWritable = true) :
    Spells expr.tokens expr.print.toList ∧
      ∀ text, Spells expr.tokens text →
        (∃ placed, tokenize text = .ok placed ∧ readExpr placed = .ok expr) ∧
          ∀ (raw : Bool) (forest : Template.Forest) (tag : Template.Tag), tag.code = text →
            tag.kind = (if raw then .rawOutput else .output) →
              forest.stepTag tag = .ok (forest.add (.output expr raw) tag.start tag.stop) := by
  refine ⟨expr.spells_print writable, fun text spells => ?_⟩
  obtain ⟨placed, taken, read⟩ := expr.readExpr_of_spells writable spells
  refine ⟨⟨placed, taken, read⟩, fun raw forest tag code kind => ?_⟩
  have tokens : Template.Forest.tokens tag = .ok placed := by
    rw [Template.Forest.tokens, code, taken]
    rfl
  cases raw with
  | false | true =>
    simp only [Bool.false_eq_true, if_true, if_false] at kind
    simp only [Template.Forest.stepTag, kind, tokens, bind, Except.bind, read,
      Template.Forest.locate, pure, Except.pure]

theorem Expr.reads_spelled_of_choice :
    let expr : Expr := .conditional
      (.binary .and
        (.unary .negate (.field (.binary (.arithmetic .add) (.name "a") (.literal (.int 1))) "b"))
        (.binary (.comparison .lt) (.index (.name "c") (.literal (.str "\"\n")))
          (.literal (.int 20))))
      (.call "f" [.list [], .method (.literal (.int 3)) "g" [.literal .nil]])
      (.unary .not (.conditional (.name "d") (.name "e") (.name "h")))
    expr.print = "-(a+1).b&&c[\"\\\"\\n\"]<20?f([],3.g(nil)):!(d?e:h)" ∧
      (∃ placed, tokenize expr.print.toList = .ok placed ∧ readExpr placed = .ok expr) ∧
      Template.Forest.empty.stepTag ⟨.output, expr.print.toList, 3, 0, 50⟩ =
        .ok (Template.Forest.empty.add (.output expr false) 0 50) := by
  intro expr
  have read := Expr.reads_spelled expr (by decide)
  obtain ⟨reads, stands⟩ := read.2 _ read.1
  exact ⟨by decide, reads, stands false _ _ rfl rfl⟩

end ReactiveView
