/-
**Expressions and statements read from tokens.**

Tokens are read one at a time, from left to right. What is read so far is a mode (an operand is
due, or one is complete) and the constructs still open around it, innermost first. A token either
leads to the next such state or is one that nothing readable can contain at this place, and then
reading stops there.

* `Reading.step` — what a token does to a state.
* `readExpr` — the expression of some tokens, or the tokens from the first impossible one on.
* `readStatement` — the same for the code of a statement tag.
-/

import ReactiveView.Template.Token

namespace ReactiveView

/-- A construct that waits for the operand being read. -/
inductive Pending where
  | unary (op : UnaryOp)
  | binary (op : BinaryOp) (left : Expr)
  /-- Between `?` and `:`. -/
  | affirmed (test : Expr)
  /-- After `:`. -/
  | denied (test affirmed : Expr)
  | group
  | list (items : List Expr)
  | index (target : Expr)
  | call (name : String) (arguments : List Expr)
  | method (receiver : Expr) (name : String) (arguments : List Expr)

/-- What the tokens so far have just brought. -/
inductive Mode where
  /-- Nothing: an operand must come. -/
  | operand
  /-- An opening bracket: an operand must come, or the bracket closes. -/
  | operandOrClose
  | complete (value : Expr)
  /-- A name, which arguments may follow. -/
  | word (name : String)
  /-- A point behind an operand: a name must come. -/
  | afterDot (receiver : Expr)
  /-- A name behind a point, which arguments may follow. -/
  | member (receiver : Expr) (name : String)

/-- A state of reading an expression. -/
structure Reading where
  mode : Mode
  pending : List Pending

namespace Reading

/-- Before the first token. -/
def start : Reading := ⟨.operand, []⟩

/-- The operand that is complete, if there is one. -/
def value? (mode : Mode) : Option Expr :=
  match mode with
  | .complete value => some value
  | .word name => some (.name name)
  | .member receiver name => some (.field receiver name)
  | _ => none

/-- Gives an operand to the operators in front of it that bind at least as tightly as `power`. -/
def reduce (power : Nat) (value : Expr) : List Pending → Expr × List Pending
  | .unary op :: rest => reduce power (.unary op value) rest
  | .binary op left :: rest =>
    if power ≤ op.power then reduce power (.binary op left value) rest
    else (value, .binary op left :: rest)
  | pending => (value, pending)

/-- Ends every construct in front of an operand that needs no closing sign. -/
def settle (value : Expr) : List Pending → Expr × List Pending
  | .unary op :: rest => settle (.unary op value) rest
  | .binary op left :: rest => settle (.binary op left value) rest
  | .denied test affirmed :: rest => settle (.conditional test affirmed value) rest
  | pending => (value, pending)

/-- The operator that a token is between two operands. -/
def binaryOp? : Token → Option BinaryOp
  | .plus => some (.arithmetic .add)
  | .minus => some (.arithmetic .sub)
  | .star => some (.arithmetic .mul)
  | .slash => some (.arithmetic .div)
  | .percent => some (.arithmetic .rem)
  | .equals => some .eq
  | .differs => some .ne
  | .less => some (.comparison .lt)
  | .atMost => some (.comparison .le)
  | .greater => some (.comparison .gt)
  | .atLeast => some (.comparison .ge)
  | .bothSign => some .and
  | .andWord => some .and
  | .eitherSign => some .or
  | .orWord => some .or
  | _ => none

/-- The first token of an operand. -/
def stepOperand (pending : List Pending) (token : Token) : Option Reading :=
  match token with
  | .nilWord => some ⟨.complete (.literal .nil), pending⟩
  | .trueWord => some ⟨.complete (.literal (.bool true)), pending⟩
  | .falseWord => some ⟨.complete (.literal (.bool false)), pending⟩
  | .int value => some ⟨.complete (.literal (.int value)), pending⟩
  | .float value => some ⟨.complete (.literal (.float value)), pending⟩
  | .str value => some ⟨.complete (.literal (.str value)), pending⟩
  | .ident name => some ⟨.word name, pending⟩
  | .bang => some ⟨.operand, .unary .not :: pending⟩
  | .notWord => some ⟨.operand, .unary .not :: pending⟩
  | .minus => some ⟨.operand, .unary .negate :: pending⟩
  | .openRound => some ⟨.operand, .group :: pending⟩
  | .openSquare => some ⟨.operandOrClose, .list [] :: pending⟩
  | _ => none

/-- A bracket that closes right after it was opened. -/
def stepEmpty (pending : List Pending) (token : Token) : Option Reading :=
  match token, pending with
  | .closeRound, .call name arguments :: rest => some ⟨.complete (.call name arguments), rest⟩
  | .closeRound, .method receiver name arguments :: rest =>
    some ⟨.complete (.method receiver name arguments), rest⟩
  | .closeSquare, .list items :: rest => some ⟨.complete (.list items), rest⟩
  | token, pending => stepOperand pending token

/-- A sign that ends an operand: a separator or a closing bracket. -/
def stepClose (value : Expr) (pending : List Pending) (token : Token) : Option Reading :=
  let (value, pending) := settle value pending
  match token, pending with
  | .colon, .affirmed test :: rest => some ⟨.operand, .denied test value :: rest⟩
  | .comma, .list items :: rest => some ⟨.operand, .list (items ++ [value]) :: rest⟩
  | .comma, .call name arguments :: rest =>
    some ⟨.operand, .call name (arguments ++ [value]) :: rest⟩
  | .comma, .method receiver name arguments :: rest =>
    some ⟨.operand, .method receiver name (arguments ++ [value]) :: rest⟩
  | .closeRound, .group :: rest => some ⟨.complete value, rest⟩
  | .closeRound, .call name arguments :: rest =>
    some ⟨.complete (.call name (arguments ++ [value])), rest⟩
  | .closeRound, .method receiver name arguments :: rest =>
    some ⟨.complete (.method receiver name (arguments ++ [value])), rest⟩
  | .closeSquare, .list items :: rest => some ⟨.complete (.list (items ++ [value])), rest⟩
  | .closeSquare, .index target :: rest => some ⟨.complete (.index target value), rest⟩
  | _, _ => none

/-- A token behind a complete operand. -/
def stepValue (value : Expr) (pending : List Pending) (token : Token) : Option Reading :=
  match binaryOp? token with
  | some op =>
    let (value, pending) := reduce op.power value pending
    some ⟨.operand, .binary op value :: pending⟩
  | none =>
    match token with
    | .dot => some ⟨.afterDot value, pending⟩
    | .openSquare => some ⟨.operand, .index value :: pending⟩
    | .question =>
      let (value, pending) := reduce 0 value pending
      some ⟨.operand, .affirmed value :: pending⟩
    | token => stepClose value pending token

/-- What a token does to a state; none if nothing readable has it at this place. -/
def step (state : Reading) (token : Token) : Option Reading :=
  match state.mode, token with
  | .operand, token => stepOperand state.pending token
  | .operandOrClose, token => stepEmpty state.pending token
  | .afterDot receiver, .ident name => some ⟨.member receiver name, state.pending⟩
  | .afterDot _, _ => none
  | .word name, .openRound => some ⟨.operandOrClose, .call name [] :: state.pending⟩
  | .member receiver name, .openRound =>
    some ⟨.operandOrClose, .method receiver name [] :: state.pending⟩
  | .complete value, token => stepValue value state.pending token
  | .word name, token => stepValue (.name name) state.pending token
  | .member receiver name, token => stepValue (.field receiver name) state.pending token

/-- The expression, if nothing is open any more. -/
def finish (state : Reading) : Option Expr :=
  match value? state.mode with
  | none => none
  | some value =>
    match settle value state.pending with
    | (value, []) => some value
    | _ => none

/-- Reads tokens to their end. -/
def run (state : Reading) : List PlacedToken → Except (Stuck PlacedToken) Expr
  | [] =>
    match state.finish with
    | some value => .ok value
    | none => .error ⟨[], .unexpected⟩
  | first :: rest =>
    match state.step first.token with
    | some next => next.run rest
    | none => .error ⟨first :: rest, .unexpected⟩

end Reading

/-- The expression of some tokens. -/
def readExpr (tokens : List PlacedToken) : Except (Stuck PlacedToken) Expr :=
  Reading.start.run tokens

/-- The code of a statement tag. -/
inductive Statement where
  | check (test : Expr)
  | otherCheck (test : Expr)
  | otherwise
  | close
  | loop (item : String) (second : Option String) (iterable : Expr)
  | bind (name : String) (value : Expr)

namespace Statement

/-- Demands that no token is left. -/
def ending (statement : Statement) :
    List PlacedToken → Except (Stuck PlacedToken) Statement
  | [] => .ok statement
  | rest => .error ⟨rest, .unexpected⟩

/-- The word `in` and what a loop runs over. -/
def readIterable (item : String) (second : Option String) :
    List PlacedToken → Except (Stuck PlacedToken) Statement
  | ⟨.inWord, _⟩ :: rest => (readExpr rest).map (loop item second)
  | rest => .error ⟨rest, .unexpected⟩

/-- The names of a loop. -/
def readLoop : List PlacedToken → Except (Stuck PlacedToken) Statement
  | ⟨.ident item, _⟩ :: ⟨.comma, _⟩ :: ⟨.ident second, _⟩ :: rest =>
    readIterable item (some second) rest
  | ⟨.ident _, _⟩ :: ⟨.comma, _⟩ :: rest => .error ⟨rest, .unexpected⟩
  | ⟨.ident item, _⟩ :: rest => readIterable item none rest
  | rest => .error ⟨rest, .unexpected⟩

/-- The name and the value of a binding. -/
def readBinding : List PlacedToken → Except (Stuck PlacedToken) Statement
  | ⟨.ident name, _⟩ :: ⟨.assign, _⟩ :: rest => (readExpr rest).map (bind name)
  | ⟨.ident _, _⟩ :: rest => .error ⟨rest, .unexpected⟩
  | rest => .error ⟨rest, .unexpected⟩

end Statement

/-- The statement of some tokens, chosen by their first word. -/
def readStatement (tokens : List PlacedToken) : Except (Stuck PlacedToken) Statement :=
  match tokens with
  | ⟨.ident word, place⟩ :: rest =>
    if word = "if" then (readExpr rest).map .check
    else if word = "elsif" then (readExpr rest).map .otherCheck
    else if word = "else" then Statement.ending .otherwise rest
    else if word = "end" then Statement.ending .close rest
    else if word = "for" then Statement.readLoop rest
    else if word = "let" then Statement.readBinding rest
    else .error ⟨⟨.ident word, place⟩ :: rest, .unexpected⟩
  | rest => .error ⟨rest, .unexpected⟩

end ReactiveView
