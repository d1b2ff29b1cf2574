import Lineage.Number.Rounding

/-!
# Binary64 — double-precision numbers, exactly

A double is a sign, a whole mantissa and a power of two, or an infinity, or no number at all. Reading rounds an
exact quotient to the nearest double, ties to the even mantissa (`Binary64.ofQuotient`); every other
operation here is exact, so that two numbers of different kinds can be compared by their value.
-/

set_option autoImplicit false

namespace Lineage

/-- A double: `± mantissa · 2 ^ exponent`, an infinity, or not a number. -/
inductive Binary64 where
  | nan
  | infinite (negative : Bool)
  | finite (negative : Bool) (mantissa : Nat) (exponent : Int)
deriving DecidableEq, Repr, Inhabited

namespace Binary64

/-- The numerator and denominator of `(num / den) / 2 ^ e`. -/
def scaleDown (num den : Nat) (e : Int) : Nat × Nat :=
  match e with
  | .ofNat k => (num, den * Nat.pow 2 k)
  | .negSucc k => (num * Nat.pow 2 (k + 1), den)

/-- The exponent at which `num / den` has a mantissa of 53 bits, but not below the smallest exponent. -/
def exponentFor (num den : Nat) : Int :=
  let guess : Int := (Nat.log2 num : Int) - (Nat.log2 den : Int) - 52
  let (n, d) := scaleDown num den guess
  max (if n < d * Nat.pow 2 52 then guess - 1 else guess) (-1074)

/-- The double nearest to `± num / den`, ties to even; from half way past the largest on, an infinity. -/
def ofQuotient (negative : Bool) (num den : Nat) : Binary64 :=
  if num = 0 then .finite negative 0 (-1074)
  else
    let e := exponentFor num den
    let (n, d) := scaleDown num den e
    let m := roundHalfEven n d
    let (m, e) := if m = Nat.pow 2 53 then (Nat.pow 2 52, e + 1) else (m, e)
    if 971 < e then .infinite negative else .finite negative m e

/-- The double nearest to `± digits · 10 ^ exponent`. The two guards keep the exact arithmetic small: outside
them the result is an infinity or zero anyway. -/
def ofScientific (negative : Bool) (digits : Nat) (exponent : Int) : Binary64 :=
  if digits = 0 then .finite negative 0 (-1074)
  else
    let size : Int := (Nat.log2 digits : Int) * 3 / 10 + exponent
    if 400 < size then .infinite negative
    else if size < -800 then .finite negative 0 (-1074)
    else match exponent with
      | .ofNat k => ofQuotient negative (digits * Nat.pow 10 k) 1
      | .negSucc k => ofQuotient negative digits (Nat.pow 10 (k + 1))

/-- The double nearest to a whole number, if it is not too large for one. -/
def ofInt? (n : Int) : Option Binary64 :=
  match ofQuotient (n < 0) n.natAbs 1 with
  | .infinite _ => none
  | x => some x

/-- The sign bit. -/
def isNegative : Binary64 → Bool
  | nan => false
  | infinite s | finite s _ _ => s

/-- The number with the other sign. -/
def negate : Binary64 → Binary64
  | nan => nan
  | infinite s => infinite !s
  | finite s m e => finite (!s) m e

/-- Whether the number is a zero of either sign. -/
def isZero : Binary64 → Bool
  | finite _ 0 _ => true
  | _ => false

/-- The exact value of a finite double. -/
def toRat? : Binary64 → Option Rat
  | finite s m e =>
    let q : Rat := match e with
      | .ofNat k => ((m * Nat.pow 2 k : Nat) : Rat)
      | .negSucc k => mkRat m (Nat.pow 2 (k + 1))
    some (if s then -q else q)
  | _ => none

end Binary64

end Lineage
