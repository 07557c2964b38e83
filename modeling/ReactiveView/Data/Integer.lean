/-
**Integers of 64 bits.**

An integer has a sign. Arithmetic is done on whole numbers of any size; a result that an integer
cannot hold is found out afterwards.

* `fits` — whether an integer can hold a whole number.
* `toInt_of_fits`, `fits_toInt` — integers are exactly the whole numbers that fit.
-/

namespace ReactiveView.Integer

/-- The least integer. -/
def least : Int := -9223372036854775808

/-- The greatest integer. -/
def greatest : Int := 9223372036854775807

/-- The greatest number of 64 bits without a sign. -/
def greatestWord : Nat := 18446744073709551615

/-- Whether an integer can hold a whole number. -/
def fits (number : Int) : Bool := least ≤ number && number ≤ greatest

/-- The integer of a whole number, if it fits. -/
def ofWhole? (number : Int) : Option Int64 :=
  if fits number then some (Int64.ofInt number) else none

theorem fits_iff {number : Int} : fits number = true ↔ least ≤ number ∧ number ≤ greatest := by
  simp [fits]

theorem toInt_of_fits {number : Int} (fitting : fits number = true) :
    (Int64.ofInt number).toInt = number := by
  obtain ⟨low, high⟩ := fits_iff.mp fitting
  unfold least at low
  unfold greatest at high
  exact Int64.toInt_ofInt_of_le (by omega) (by omega)

theorem fits_toInt (number : Int64) : fits number.toInt = true := by
  refine fits_iff.mpr ⟨?_, ?_⟩
  · exact number.le_toInt
  · have := number.toInt_lt
    unfold greatest
    omega

end ReactiveView.Integer
