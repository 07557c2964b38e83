/-
**Expressions and the statements of templates.**

An expression reads names, looks into values, calls, and combines. A node of a template is text, an
output, a choice between bodies, a loop over a body, or a name given to a value.

* `BinaryOp.power` — how tightly an operator binds; all operators bind to the left.
-/

namespace ReactiveView

/-- A value written out in an expression. -/
inductive Literal where
  | nil
  | bool (value : Bool)
  | int (value : Int64)
  | float (value : Float)
  | str (value : String)
deriving DecidableEq

/-- Operators in front of an operand. -/
inductive UnaryOp where
  | not
  | negate
deriving DecidableEq

/-- Operators on two numbers. -/
inductive Arithmetic where
  | add
  | sub
  | mul
  | div
  | rem
deriving DecidableEq

/-- Operators that ask for the order of two values. -/
inductive Comparison where
  | lt
  | le
  | gt
  | ge
deriving DecidableEq

/-- Operators between two operands. -/
inductive BinaryOp where
  | arithmetic (op : Arithmetic)
  | comparison (op : Comparison)
  | eq
  | ne
  | and
  | or
deriving DecidableEq

/-- An expression. -/
inductive Expr where
  | literal (value : Literal)
  | list (items : List Expr)
  | name (name : String)
  | field (target : Expr) (name : String)
  | index (target index : Expr)
  | method (receiver : Expr) (name : String) (arguments : List Expr)
  /-- A call without a receiver: a builtin or a helper of the component. -/
  | call (name : String) (arguments : List Expr)
  | unary (op : UnaryOp) (operand : Expr)
  | binary (op : BinaryOp) (left right : Expr)
  | conditional (test affirmed denied : Expr)

instance : Inhabited Expr := ⟨.literal .nil⟩

/-- The sign of an operator in front of an operand. -/
def UnaryOp.sign : UnaryOp → String
  | not => "!"
  | negate => "-"

/-- The sign of an operator on two numbers. -/
def Arithmetic.sign : Arithmetic → String
  | add => "+"
  | sub => "-"
  | mul => "*"
  | div => "/"
  | rem => "%"

/-- The sign of an operator that asks for an order. -/
def Comparison.sign : Comparison → String
  | lt => "<"
  | le => "<="
  | gt => ">"
  | ge => ">="

/-- The sign of an operator between two operands. -/
def BinaryOp.sign : BinaryOp → String
  | arithmetic op => op.sign
  | comparison op => op.sign
  | eq => "=="
  | ne => "!="
  | and => "&&"
  | or => "||"

/-- How tightly an operator binds its operands. -/
def BinaryOp.power : BinaryOp → Nat
  | arithmetic .mul | arithmetic .div | arithmetic .rem => 6
  | arithmetic .add | arithmetic .sub => 5
  | comparison _ => 4
  | eq | ne => 3
  | and => 2
  | or => 1

mutual

/-- A node of a template. -/
inductive Node where
  | text (text : String)
  /-- The text of a value; unless it is raw, it is made literal for markup. -/
  | output (value : Expr) (raw : Bool)
  | choice (branches : Branches)
  /-- One run of the body per item; `second` names the index of a list or the value of a map. -/
  | loop (item : String) (second : Option String) (iterable : Expr) (body : List Node)
  | bind (name : String) (value : Expr)

/-- The branches of a choice: the first whose test holds is taken, or else the last body. -/
inductive Branches where
  | otherwise (body : List Node)
  | branch (test : Expr) (body : List Node) (rest : Branches)

end

instance : Inhabited Node := ⟨.text ""⟩

/-- The branches of a list of tests and bodies, and the body taken if no test holds. -/
def Branches.ofList (tested : List (Expr × List Node)) (body : List Node) : Branches :=
  tested.foldr (fun pair rest => .branch pair.1 pair.2 rest) (.otherwise body)

/-- The tests and their bodies. -/
def Branches.tested : Branches → List (Expr × List Node)
  | .otherwise _ => []
  | .branch test body rest => (test, body) :: rest.tested

/-- The body that is taken if no test holds. -/
def Branches.last : Branches → List Node
  | .otherwise body => body
  | .branch _ _ rest => rest.last

@[simp] theorem Branches.tested_ofList (tested : List (Expr × List Node)) (body : List Node) :
    (Branches.ofList tested body).tested = tested := by
  induction tested with
  | nil => rfl
  | cons pair rest ih =>
    simp only [Branches.ofList, List.foldr_cons, Branches.tested] at *
    rw [ih]

@[simp] theorem Branches.last_ofList (tested : List (Expr × List Node)) (body : List Node) :
    (Branches.ofList tested body).last = body := by
  induction tested with
  | nil => rfl
  | cons pair rest ih =>
    simp only [Branches.ofList, List.foldr_cons, Branches.last] at *
    exact ih

end ReactiveView
