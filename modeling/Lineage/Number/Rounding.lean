/-!
# Rounding — quotients to the nearest whole number

A half goes to the even neighbour.
-/

set_option autoImplicit false

namespace Lineage

/-- The quotient rounded to a whole number, a half going to the even neighbour. -/
def roundHalfEven (num den : Nat) : Nat :=
  let q := num / den
  let r := num % den
  if 2 * r < den then q
  else if den < 2 * r then q + 1
  else if q % 2 = 0 then q else q + 1

/-- A whole quotient is its own rounding. -/
theorem roundHalfEven_mul (k den : Nat) (h : 0 < den) : roundHalfEven (k * den) den = k := by
  simp [roundHalfEven, Nat.mul_div_cancel _ h, h]

end Lineage
