/-
**Expressions printed.**

Every position in an expression asks for a level: that of the operator whose operand stands there,
and one more to the right of an operator between operands. An expression that binds looser than its
position asks for stands in parentheses, and no other does.

* `Expr.level` — how tightly an expression holds together.
* `Expr.tokens` — the tokens of an expression.
* `Expr.print` — the text of an expression.
* `Expr.spells_print` — the text spells the tokens, if the numbers and names can be written.
-/

import ReactiveView.Proofs.Template.Spelling
import ReactiveView.Template.Reading

namespace ReactiveView

/-- The token of a value written out. -/
def Literal.token : Literal → Token
  | nil => .nilWord
  | bool true => .trueWord
  | bool false => .falseWord
  | int value => .int value
  | float value => .float value
  | str value => .str value

/-- The sign of an operator in front of an operand. -/
def UnaryOp.token : UnaryOp → Token
  | not => .bang
  | negate => .minus

/-- The sign of an operator between two operands. -/
def BinaryOp.token : BinaryOp → Token
  | arithmetic .add => .plus
  | arithmetic .sub => .minus
  | arithmetic .mul => .star
  | arithmetic .div => .slash
  | arithmetic .rem => .percent
  | comparison .lt => .less
  | comparison .le => .atMost
  | comparison .gt => .greater
  | comparison .ge => .atLeast
  | eq => .equals
  | ne => .differs
  | and => .bothSign
  | or => .eitherSign

namespace Expr

/-- The level of an operator in front of an operand, above all those between operands. -/
def prefixLevel : Nat := 8

/-- The level of what needs no parentheses anywhere. -/
def tightest : Nat := 9

/-- **How tightly an expression holds together.** -/
def level : Expr → Nat
  | conditional .. => 0
  | binary op .. => op.power
  | unary .. => prefixLevel
  | _ => tightest

/-- The tokens of an expression of a level, at a position that asks for one. -/
def fence (place level : Nat) (tokens : List Token) : List Token :=
  if level < place then .openRound :: (tokens ++ [.closeRound]) else tokens

end Expr

mutual

/-- **The tokens of an expression.** -/
def Expr.tokens : Expr → List Token
  | .literal value => [value.token]
  | .list items => .openSquare :: (Expr.row items ++ [.closeSquare])
  | .name word => [.ident word]
  | .field target word => Expr.fence Expr.tightest target.level target.tokens ++ [.dot, .ident word]
  | .index target key =>
    Expr.fence Expr.tightest target.level target.tokens ++
      .openSquare :: (key.tokens ++ [.closeSquare])
  | .method receiver word arguments =>
    Expr.fence Expr.tightest receiver.level receiver.tokens ++
      .dot :: .ident word :: .openRound :: (Expr.row arguments ++ [.closeRound])
  | .call word arguments => .ident word :: .openRound :: (Expr.row arguments ++ [.closeRound])
  | .unary op operand => op.token :: Expr.fence Expr.prefixLevel operand.level operand.tokens
  | .binary op left right =>
    Expr.fence op.power left.level left.tokens ++
      op.token :: Expr.fence (op.power + 1) right.level right.tokens
  | .conditional test affirmed denied =>
    Expr.fence 1 test.level test.tokens ++
      .question :: (affirmed.tokens ++ .colon :: denied.tokens)

/-- The tokens of expressions with commas in between. -/
def Expr.row : List Expr → List Token
  | [] => []
  | first :: rest => first.tokens ++ Expr.more rest

/-- The tokens of expressions with a comma in front of each. -/
def Expr.more : List Expr → List Token
  | [] => []
  | first :: rest => .comma :: (first.tokens ++ Expr.more rest)

end

/-- **The text of an expression**, without blanks. -/
def Expr.print (expr : Expr) : String := String.ofList (expr.tokens.flatMap Token.text)

mutual

/-- **Whether an expression can be written**: no number has a sign or a point, and all names are
names. -/
def Expr.isWritable : Expr → Bool
  | .literal value => value.token.isWritable
  | .list items => Expr.areWritable items
  | .name word => Token.isName word
  | .field target word => target.isWritable && Token.isName word
  | .index target key => target.isWritable && key.isWritable
  | .method receiver word arguments =>
    receiver.isWritable && Token.isName word && Expr.areWritable arguments
  | .call word arguments => Token.isName word && Expr.areWritable arguments
  | .unary _ operand => operand.isWritable
  | .binary _ left right => left.isWritable && right.isWritable
  | .conditional test affirmed denied =>
    test.isWritable && affirmed.isWritable && denied.isWritable

/-- Whether expressions can all be written. -/
def Expr.areWritable : List Expr → Bool
  | [] => true
  | first :: rest => first.isWritable && Expr.areWritable rest

end

/-! ### The tokens can be written -/

namespace Token

/-- Whether all tokens of a row can be written. -/
abbrev AllWritable (tokens : List Token) : Prop := ∀ token ∈ tokens, token.isWritable = true

variable {first second : List Token}

theorem allWritable_nil : AllWritable [] := nofun

theorem AllWritable.cons {token : Token} (writable : token.isWritable = true)
    (rest : AllWritable first) : AllWritable (token :: first) :=
  List.forall_mem_cons.mpr ⟨writable, rest⟩

theorem AllWritable.append (left : AllWritable first) (right : AllWritable second) :
    AllWritable (first ++ second) := List.forall_mem_append.mpr ⟨left, right⟩

theorem AllWritable.fence (inside : AllWritable first) (place level : Nat) :
    AllWritable (Expr.fence place level first) := by
  unfold Expr.fence
  split
  · exact .cons rfl (inside.append (.cons rfl allWritable_nil))
  · exact inside

end Token

theorem BinaryOp.isWritable_token (op : BinaryOp) : op.token.isWritable = true := by
  rcases op with (_ | _ | _ | _ | _) | (_ | _ | _ | _) | _ | _ | _ | _ <;> rfl

theorem UnaryOp.isWritable_token (op : UnaryOp) : op.token.isWritable = true := by
  cases op <;> rfl

section Writable

open Token

mutual

theorem Expr.allWritable_tokens :
    ∀ expr : Expr, expr.isWritable = true → AllWritable expr.tokens
  | .literal _, writable => .cons writable allWritable_nil
  | .list items, writable =>
    .cons rfl ((Expr.allWritable_row items writable).append (.cons rfl allWritable_nil))
  | .name _, writable => .cons writable allWritable_nil
  | .field target _, writable =>
    have parts := Bool.and_eq_true_iff.mp writable
    ((Expr.allWritable_tokens target parts.1).fence _ _).append
      (.cons rfl (.cons parts.2 allWritable_nil))
  | .index target key, writable =>
    have parts := Bool.and_eq_true_iff.mp writable
    ((Expr.allWritable_tokens target parts.1).fence _ _).append
      (.cons rfl ((Expr.allWritable_tokens key parts.2).append (.cons rfl allWritable_nil)))
  | .method receiver _ arguments, writable =>
    have parts := Bool.and_eq_true_iff.mp writable
    have front := Bool.and_eq_true_iff.mp parts.1
    ((Expr.allWritable_tokens receiver front.1).fence _ _).append
      (.cons rfl (.cons front.2 (.cons rfl
        ((Expr.allWritable_row arguments parts.2).append (.cons rfl allWritable_nil)))))
  | .call _ arguments, writable =>
    have parts := Bool.and_eq_true_iff.mp writable
    .cons parts.1 (.cons rfl
      ((Expr.allWritable_row arguments parts.2).append (.cons rfl allWritable_nil)))
  | .unary op operand, writable =>
    .cons op.isWritable_token ((Expr.allWritable_tokens operand writable).fence _ _)
  | .binary op left right, writable =>
    have parts := Bool.and_eq_true_iff.mp writable
    ((Expr.allWritable_tokens left parts.1).fence _ _).append
      (.cons op.isWritable_token ((Expr.allWritable_tokens right parts.2).fence _ _))
  | .conditional test affirmed denied, writable =>
    have parts := Bool.and_eq_true_iff.mp writable
    have front := Bool.and_eq_true_iff.mp parts.1
    ((Expr.allWritable_tokens test front.1).fence _ _).append
      (.cons rfl ((Expr.allWritable_tokens affirmed front.2).append
        (.cons rfl (Expr.allWritable_tokens denied parts.2))))

theorem Expr.allWritable_row :
    ∀ items : List Expr, Expr.areWritable items = true → AllWritable (Expr.row items)
  | [], _ => allWritable_nil
  | first :: rest, writable =>
    have parts := Bool.and_eq_true_iff.mp writable
    (Expr.allWritable_tokens first parts.1).append (Expr.allWritable_more rest parts.2)

theorem Expr.allWritable_more :
    ∀ items : List Expr, Expr.areWritable items = true → AllWritable (Expr.more items)
  | [], _ => allWritable_nil
  | first :: rest, writable =>
    have parts := Bool.and_eq_true_iff.mp writable
    .cons rfl ((Expr.allWritable_tokens first parts.1).append (Expr.allWritable_more rest parts.2))

end

end Writable

/-- **The text of an expression spells its tokens.** -/
theorem Expr.spells_print {expr : Expr} (writable : expr.isWritable = true) :
    Spells expr.tokens expr.print.toList := by
  rw [Expr.print, String.toList_ofList]
  exact spells_text (expr.allWritable_tokens writable)

end ReactiveView
