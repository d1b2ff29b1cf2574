import Lineage.Number.Shortest
import Lineage.Number.Decimal

/-!
# Number — the kinds of number, compared by their exact value

Whole numbers, doubles, decimals, fractions and complex numbers are different things that are equal when they
stand for the same point of the extended complex plane. `Number.point` is that point; what is no number has
none, and so equals nothing, not even itself (`Number.equal_self`).
-/

set_option autoImplicit false

namespace Lineage

/-- A number of one of the five kinds. -/
inductive Number where
  | int (n : Int)
  | float (x : Binary64)
  | decimal (d : Decimal)
  | fraction (q : Rat)
  | complex (re im : Binary64)
deriving DecidableEq, Inhabited

/-- A point of the extended real line. -/
inductive Coordinate where
  | finite (q : Rat)
  | infinite (negative : Bool)
deriving DecidableEq

namespace Coordinate

/-- Where a double lies on the extended line. -/
def ofBinary64? (x : Binary64) : Option Coordinate :=
  match x with
  | .infinite s => some (.infinite s)
  | x => x.toRat?.map .finite

/-- Where a decimal lies on the extended line. -/
def ofDecimal? (d : Decimal) : Option Coordinate :=
  match d with
  | .infinite s => some (.infinite s)
  | d => d.toRat?.map .finite

end Coordinate

namespace Number

/-- The point of the extended complex plane that a number stands for. -/
def point : Number → Option (Coordinate × Coordinate)
  | int n => some (.finite n, .finite 0)
  | float x => (Coordinate.ofBinary64? x).map (·, .finite 0)
  | decimal d => (Coordinate.ofDecimal? d).map (·, .finite 0)
  | fraction q => some (.finite q, .finite 0)
  | complex re im => do
    let a ← Coordinate.ofBinary64? re
    let b ← Coordinate.ofBinary64? im
    return (a, b)

/-- Whether two numbers stand for the same point. -/
def equal (a b : Number) : Bool :=
  match a.point, b.point with
  | some p, some q => p = q
  | _, _ => false

/-- Whether a number is a zero. -/
def isZero (a : Number) : Bool := equal a (int 0)

theorem equal_iff {a b : Number} : equal a b = true ↔ ∃ p, a.point = some p ∧ b.point = some p := by
  unfold equal
  cases a.point <;> cases b.point <;> simp [eq_comm]

theorem equal_self {a : Number} : equal a a = a.point.isSome := by
  unfold equal
  cases a.point <;> simp

theorem equal_comm (a b : Number) : equal a b = equal b a := by
  rw [Bool.eq_iff_iff, equal_iff, equal_iff]
  exact ⟨fun ⟨p, h⟩ => ⟨p, h.symm⟩, fun ⟨p, h⟩ => ⟨p, h.symm⟩⟩

theorem equal_trans {a b c : Number} (h : equal a b = true) (k : equal b c = true) : equal a c = true := by
  obtain ⟨p, ha, hb⟩ := equal_iff.1 h
  obtain ⟨q, hb', hc⟩ := equal_iff.1 k
  obtain rfl : p = q := by rw [hb] at hb'; exact Option.some.inj hb'
  exact equal_iff.2 ⟨p, ha, hc⟩

/-- The text of a fraction: its numerator alone when it is whole. -/
def fractionText (q : Rat) : String :=
  if q.den = 1 then toString q.num else toString q.num ++ "/" ++ toString q.den

/-- The text of a complex number: the imaginary part alone when the real part is a plain zero. -/
def complexText (re im : Binary64) : String :=
  let tail := im.text .part ++ "j"
  if re.isZero && !re.isNegative then tail
  else
    let plus := if im.isNegative then "" else "+"
    "(" ++ re.text .part ++ plus ++ tail ++ ")"

/-- The literal form of a number. -/
def text : Number → String
  | int n => toString n
  | float x => x.text .literal
  | decimal d => "Decimal('" ++ d.text ++ "')"
  | fraction q => "Fraction(" ++ toString q.num ++ ", " ++ toString q.den ++ ")"
  | complex re im => complexText re im

/-- The text of a number where it is shown and not quoted. -/
def plainText : Number → String
  | decimal d => d.text
  | fraction q => fractionText q
  | n => n.text

end Number

end Lineage
