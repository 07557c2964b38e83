/-
**Integer arithmetic is exact or an error.**

What an operator should give is said of whole numbers of any size, and quotient and remainder by the
one equation that they solve together. An integer that can hold this number is the value of the
expression, and where none can, the evaluation fails. There is one exception: the remainder of the
least integer by minus one is zero, but it is refused, because the quotient that belongs to it
overflows.

* `Arithmetic.Exact` — the exact result of an operator.
* `Computes` — a result is the exact one if it fits, or the right error.
* `fits_quotient_iff` — the one quotient of integers that does not fit.
* `computes_integers` — the arithmetic of two integers.
* `arithmetic_exact` — expressions whose operands have integers as their values.
* `remainder_refused` — the remainder that would fit and is refused.
-/

import Mathlib.Tactic.Linarith
import ReactiveView.Proofs.Render.Run
import ReactiveView.Render.Basic

namespace ReactiveView

/-! ### Exact results -/

/-- **Division with remainder**: the remainder is never negative, and smaller than the divisor. -/
structure Divides (left right quotient rest : Int) : Prop where
  whole : left = right * quotient + rest
  nonneg : 0 ≤ rest
  small : rest < |right|

theorem divides_iff {left right quotient rest : Int} :
    Divides left right quotient rest ↔
      right ≠ 0 ∧ quotient = left / right ∧ rest = left % right := by
  constructor
  · rintro ⟨whole, nonneg, small⟩
    have nonzero : right ≠ 0 := by
      rintro rfl
      rw [abs_zero] at small
      omega
    have unique : left / right = quotient ∧ left % right = rest := by
      rcases Int.lt_or_gt_of_ne nonzero with negative | positive
      · rw [Int.ediv_emod_unique' negative, ← abs_of_neg negative]
        exact ⟨by omega, nonneg, small⟩
      · rw [Int.ediv_emod_unique positive]
        rw [abs_of_pos positive] at small
        exact ⟨by omega, nonneg, small⟩
    exact ⟨nonzero, unique.1.symm, unique.2.symm⟩
  · rintro ⟨nonzero, rfl, rfl⟩
    refine ⟨(Int.mul_ediv_add_emod left right).symm, Int.emod_nonneg left nonzero, ?_⟩
    rw [Int.abs_eq_natAbs]
    exact Int.emod_lt left nonzero

/-- **The exact result** of an operator on two whole numbers. -/
def Arithmetic.Exact (op : Arithmetic) (left right number : Int) : Prop :=
  match op with
  | .add => number = left + right
  | .sub => number = left - right
  | .mul => number = left * right
  | .div => ∃ rest, Divides left right number rest
  | .rem => ∃ quotient, Divides left right quotient number

/-- The remainder that is refused although it is zero. -/
def Arithmetic.IsRefused (op : Arithmetic) (left right : Int) : Prop :=
  op = .rem ∧ left = Integer.least ∧ right = -1

/-- A division by zero. -/
def Arithmetic.IsByZero (op : Arithmetic) (right : Int) : Prop :=
  (op = .div ∨ op = .rem) ∧ right = 0

theorem Arithmetic.not_isRefused {op : Arithmetic} {left right : Int} (other : op ≠ .rem) :
    ¬ op.IsRefused left right := fun refused => other refused.1

theorem Arithmetic.not_isByZero {op : Arithmetic} {right : Int} (noQuotient : op ≠ .div)
    (noRemainder : op ≠ .rem) : ¬ op.IsByZero right :=
  fun byZero => byZero.1.elim noQuotient noRemainder

/-- The exact quotient of two integers is an integer, but for one. -/
theorem fits_quotient_iff {left right quotient rest : Int} (division : Divides left right quotient rest)
    (fitsLeft : Integer.fits left = true) (fitsRight : Integer.fits right = true) :
    Integer.fits quotient = false ↔ left = Integer.least ∧ right = -1 := by
  obtain ⟨whole, nonneg, small⟩ := division
  rw [Integer.fits_iff] at fitsLeft fitsRight
  rw [← Bool.not_eq_true, Integer.fits_iff]
  unfold Integer.least Integer.greatest at *
  constructor
  · intro outside
    rcases Int.lt_or_le right 0 with negative | positive
    · rw [abs_of_neg negative] at small
      -- The product of two negative numbers would be greater than every integer.
      have above : 9223372036854775807 < quotient := by
        by_contra low
        have below : quotient ≤ -9223372036854775809 := by omega
        nlinarith
      by_cases one : right = -1
      · subst one
        omega
      · have far : right ≤ -2 := by omega
        nlinarith
    · rw [abs_of_nonneg positive] at small
      have beneath : ¬ quotient ≤ -9223372036854775809 := fun below => by nlinarith
      have beyond : ¬ 9223372036854775808 ≤ quotient := fun above => by nlinarith
      omega
  · rintro ⟨rfl, rfl⟩
    have one : |(-1 : Int)| = 1 := rfl
    omega

/-! ### Results -/

namespace Render

/--
**How an exact number is given**: as the integer that it is, if it fits and is not refused; otherwise
as an overflow. If it is a division by zero, there is no exact number, and the error says so.
-/
structure Computes (exact : Int → Prop) (refused byZero : Prop) (result : Except Error Value) :
    Prop where
  value : ∀ number, exact number → Integer.fits number = true → ¬ refused →
    ∃ value : Int64, value.toInt = number ∧ result = .ok (.int value)
  overflow : result = .error (.eval "integer overflow") ↔
    (∃ number, exact number ∧ Integer.fits number = false) ∨ refused
  zero : result = .error (.eval "division by zero") ↔ byZero

/-- An exact number that is taken if it fits. -/
theorem computes_exactInt {exact : Int → Prop} {refused byZero : Prop} {number : Int}
    (only : ∀ other, exact other ↔ other = number) (allowed : ¬ refused) (divides : ¬ byZero) :
    Computes exact refused byZero (exactInt number) := by
  unfold exactInt Integer.ofWhole?
  cases fits : Integer.fits number with
  | true =>
    refine ⟨fun other same _ _ => ?_, ⟨nofun, ?_⟩, ⟨nofun, fun zero => absurd zero divides⟩⟩
    · obtain rfl := (only other).mp same
      exact ⟨_, Integer.toInt_of_fits fits, rfl⟩
    · rintro (⟨other, same, outside⟩ | taken)
      · obtain rfl := (only other).mp same
        rw [fits] at outside
        cases outside
      · exact absurd taken allowed
  | false =>
    refine ⟨fun other same inside _ => ?_, ⟨fun _ => ?_, fun _ => rfl⟩,
      ⟨fun same => ?_, fun zero => absurd zero divides⟩⟩
    · obtain rfl := (only other).mp same
      rw [fits] at inside
      cases inside
    · exact Or.inl ⟨number, (only number).mpr rfl, fits⟩
    · simp at same

/-- Nothing is divided by zero. -/
theorem computes_divisionByZero {exact : Int → Prop} {refused byZero : Prop}
    (none : ∀ number, ¬ exact number) (allowed : ¬ refused) (zero : byZero) :
    Computes exact refused byZero divisionByZero where
  value number some := absurd some (none number)
  overflow := by
    constructor
    · intro same
      simp [divisionByZero] at same
    · rintro (⟨number, some, _⟩ | taken)
      · exact absurd some (none number)
      · exact absurd taken allowed
  zero := ⟨fun _ => zero, fun _ => rfl⟩

/-- The quotient of two integers. -/
theorem computes_quotient (left right : Int) :
    Computes (Arithmetic.div.Exact left right) (Arithmetic.div.IsRefused left right)
      (Arithmetic.div.IsByZero right) (integers .div left right) := by
  by_cases zero : right = 0
  · have byZero : integers .div left right = divisionByZero := if_pos zero
    rw [byZero]
    refine computes_divisionByZero ?_ (Arithmetic.not_isRefused nofun) ⟨Or.inl rfl, zero⟩
    rintro quotient ⟨rest, division⟩
    exact (divides_iff.mp division).1 zero
  · have taken : integers .div left right = exactInt (left / right) := if_neg zero
    rw [taken]
    refine computes_exactInt (fun other => ⟨?_, ?_⟩) (Arithmetic.not_isRefused nofun)
      fun byZero => zero byZero.2
    · rintro ⟨rest, division⟩
      exact (divides_iff.mp division).2.1
    · rintro rfl
      exact ⟨_, divides_iff.mpr ⟨zero, rfl, rfl⟩⟩

/-- The remainder of two integers, which is refused where the quotient does not fit. -/
theorem computes_remainder {left right : Int} (fitsLeft : Integer.fits left = true)
    (fitsRight : Integer.fits right = true) :
    Computes (Arithmetic.rem.Exact left right) (Arithmetic.rem.IsRefused left right)
      (Arithmetic.rem.IsByZero right) (integers .rem left right) := by
  by_cases zero : right = 0
  · have byZero : integers .rem left right = divisionByZero := if_pos zero
    rw [byZero]
    refine computes_divisionByZero ?_ ?_ ⟨Or.inr rfl, zero⟩
    · rintro rest ⟨quotient, division⟩
      exact (divides_iff.mp division).1 zero
    · rintro ⟨_, _, one⟩
      omega
  · have division : Divides left right (left / right) (left % right) :=
      divides_iff.mpr ⟨zero, rfl, rfl⟩
    have fits_iff := fits_quotient_iff division fitsLeft fitsRight
    have divides : ¬ Arithmetic.rem.IsByZero right := fun byZero => zero byZero.2
    have guarded : integers .rem left right = if Integer.fits (left / right) = true then
        exactInt (left % right) else .error (.eval "integer overflow") := if_neg zero
    rw [guarded]
    split
    · next fits =>
      refine computes_exactInt (fun other => ⟨?_, ?_⟩) ?_ divides
      · rintro ⟨quotient, other⟩
        exact (divides_iff.mp other).2.2
      · rintro rfl
        exact ⟨_, division⟩
      · rintro ⟨_, least⟩
        rw [fits_iff.mpr least] at fits
        cases fits
    · next outside =>
      have refused : Arithmetic.rem.IsRefused left right :=
        ⟨rfl, fits_iff.mp (Bool.eq_false_iff.mpr outside)⟩
      refine ⟨fun _ _ _ allowed => absurd refused allowed, ⟨fun _ => Or.inr refused, fun _ => rfl⟩,
        ⟨fun same => ?_, fun byZero => absurd byZero divides⟩⟩
      simp at same

/-- **The arithmetic of two integers.** -/
theorem computes_integers (op : Arithmetic) {left right : Int} (fitsLeft : Integer.fits left = true)
    (fitsRight : Integer.fits right = true) :
    Computes (op.Exact left right) (op.IsRefused left right) (op.IsByZero right)
      (integers op left right) := by
  cases op with
  | add =>
    exact computes_exactInt (fun _ => Iff.rfl) (Arithmetic.not_isRefused nofun)
      (Arithmetic.not_isByZero nofun nofun)
  | sub =>
    exact computes_exactInt (fun _ => Iff.rfl) (Arithmetic.not_isRefused nofun)
      (Arithmetic.not_isByZero nofun nofun)
  | mul =>
    exact computes_exactInt (fun _ => Iff.rfl) (Arithmetic.not_isRefused nofun)
      (Arithmetic.not_isByZero nofun nofun)
  | div => exact computes_quotient left right
  | rem => exact computes_remainder fitsLeft fitsRight

/-! ### Expressions -/

variable {σ : Type}

/-- An operator on two integers leaves the store alone. -/
theorem binary_of_integers (op : Arithmetic) (limit : Nat) (left right : Int64) (store : Store) :
    binary (.arithmetic op) limit (.int left) (.int right) store =
      (integers op left.toInt right.toInt, store) := by
  cases op <;> rfl

/-- An expression with two integers as operands: these are evaluated, and nothing else happens. -/
theorem expr_of_integers {scope : Scope σ} {config : Config} (op : Arithmetic) {first second : Expr}
    {pass middle after : Pass σ} {left right : Int64}
    (before : Eval.expr scope config first pass = (.ok (.int left), middle))
    (behind : Eval.expr scope config second middle = (.ok (.int right), after)) :
    Eval.expr scope config (.binary (.arithmetic op) first second) pass =
      (integers op left.toInt right.toInt, after) := by
  unfold Eval.expr
  rw [Eval.bind_apply, before]
  change (Eval.expr scope config second >>= _ : Eval σ Value) middle = _
  rw [Eval.bind_apply, behind]
  change Eval.onStore (binary (.arithmetic op) config.maxOutputLength (.int left) (.int right))
    after = _
  rw [Eval.onStore, binary_of_integers]

/--
**Integer arithmetic is exact or an error.** Whatever the operands are, as long as they have integers
as their values: the expression has the exact result as its value if that is an integer, it fails with
an overflow exactly where it is none, and with a division by zero exactly where the divisor is zero.
The remainder of the least integer by minus one counts among the overflows.
-/
theorem arithmetic_exact (scope : Scope σ) (config : Config) :
    (∀ (op : Arithmetic) (first second : Expr) (pass middle after : Pass σ) (left right : Int64),
      Eval.expr scope config first pass = (.ok (.int left), middle) →
      Eval.expr scope config second middle = (.ok (.int right), after) →
      ∃ result, Eval.expr scope config (.binary (.arithmetic op) first second) pass =
          (result, after) ∧
        Computes (op.Exact left.toInt right.toInt) (op.IsRefused left.toInt right.toInt)
          (op.IsByZero right.toInt) result) ∧
    (∀ (operand : Expr) (pass after : Pass σ) (number : Int64),
      Eval.expr scope config operand pass = (.ok (.int number), after) →
      ∃ result, Eval.expr scope config (.unary .negate operand) pass = (result, after) ∧
        Computes (fun negated => negated = -number.toInt) False False result) := by
  constructor
  · intro op first second pass middle after left right before behind
    exact ⟨_, expr_of_integers op before behind,
      computes_integers op (Integer.fits_toInt left) (Integer.fits_toInt right)⟩
  · intro operand pass after number evaluated
    refine ⟨exactInt (-number.toInt), ?_, computes_exactInt (fun _ => Iff.rfl) id id⟩
    unfold Eval.expr
    rw [Eval.bind_apply, evaluated]
    rfl

/-- The least integer divided by minus one, the remainder of a negative number, and the negation of the
least integer. -/
theorem arithmetic_exact_of_literals :
    let scope := Scope.ofVariables .empty
    let pass := Pass.start () Store.empty
    let least := Expr.literal (.int (Int64.ofInt Integer.least))
    (Eval.expr scope Config.default (.binary (.arithmetic .div) least (.literal (.int (-1)))) pass).1 =
        .error (.eval "integer overflow") ∧
      (∃ value : Int64, value.toInt = 2 ∧ (Eval.expr scope Config.default (.binary (.arithmetic .rem)
        (.literal (.int (-7))) (.literal (.int 3))) pass).1 = .ok (.int value)) ∧
      (Eval.expr scope Config.default (.unary .negate least) pass).1 =
        .error (.eval "integer overflow") := by
  intro scope pass least
  have value (literal : Literal) (pass : Pass Unit) :
      Eval.expr scope Config.default (.literal literal) pass = (.ok (Eval.literal literal), pass) := by
    unfold Eval.expr
    rfl
  obtain ⟨twoOperands, oneOperand⟩ := arithmetic_exact scope Config.default
  refine ⟨?_, ?_, ?_⟩
  · obtain ⟨result, ran, computes⟩ := twoOperands .div least (.literal (.int (-1))) pass pass pass _ _
      (value _ pass) (value _ pass)
    rw [ran]
    refine computes.overflow.mpr (Or.inl ⟨9223372036854775808, ⟨0, ?_⟩, by decide⟩)
    exact ⟨by decide, by decide, by decide⟩
  · obtain ⟨result, ran, computes⟩ := twoOperands .rem (.literal (.int (-7))) (.literal (.int 3)) pass
      pass pass _ _ (value _ pass) (value _ pass)
    rw [ran]
    refine computes.value 2 ⟨-3, ?_⟩ (by decide) fun refused => absurd refused.2.2 (by decide)
    exact ⟨by decide, by decide, by decide⟩
  · obtain ⟨result, ran, computes⟩ := oneOperand least pass pass _ (value _ pass)
    rw [ran]
    exact computes.overflow.mpr (Or.inl ⟨9223372036854775808, by decide, by decide⟩)

/--
**A remainder that fits is refused.** The remainder of the least integer by minus one is zero, and the
rendering of it fails with an overflow.
-/
theorem remainder_refused :
    let scope := Scope.ofVariables
      (.ofList [("a", .int (Int64.ofInt Integer.least)), ("b", .int (-1))])
    Arithmetic.rem.Exact (Int64.ofInt Integer.least).toInt (-1 : Int64).toInt 0 ∧
      Integer.fits 0 = true ∧
      ∃ template, Template.compile "Page" "default" "<%= a % b %>" = .ok template ∧
        ∃ error, (render template .all ClientView.empty scope Config.default () Store.empty).1 =
          .error error ∧ error.message = "in fragment #0 `<%= a % b %>`: integer overflow" := by
  intro scope
  have checked : Template.isCompiledTo (Template.compile "Page" "default" "<%= a % b %>")
      (fun template =>
        match (render template .all ClientView.empty scope Config.default () Store.empty).1 with
        | .ok _ => false
        | .error error => error.message == "in fragment #0 `<%= a % b %>`: integer overflow") =
      true := by decide +kernel
  obtain ⟨template, compiled, fails⟩ := Template.exists_of_isCompiledTo checked
  refine ⟨⟨9223372036854775808, by decide, by decide, by decide⟩, by decide, template, compiled, ?_⟩
  split at fails
  · cases fails
  · next error ran => exact ⟨error, ran, beq_iff_eq.mp fails⟩

end Render

end ReactiveView
