import Lineage.Number.Binary64

/-!
# Shortest — the fewest digits that read back

Every real between the two midpoints around a double rounds to it, the midpoints included when the mantissa is
even. `Binary64.shortest` looks for the coarsest decimal grid with a point in that interval: on each grid
only the two neighbours of the double itself need a test. `Binary64.text` then lays the digits out:
positional from 10⁻⁴ up to 10¹⁶, with an exponent of at least two digits outside.
-/

set_option autoImplicit false

namespace Lineage.Binary64

/-- An interval of reals with a common denominator: the double and the midpoints around it. -/
structure Interval where
  low : Nat
  value : Nat
  high : Nat
  den : Nat
  closed : Bool

/-- The reals that round to `mantissa · 2 ^ exponent`. Below a power of two the grid is twice as fine. -/
def interval (mantissa : Nat) (exponent : Int) : Interval :=
  let below := if mantissa = Nat.pow 2 52 ∧ -1074 < exponent then 1 else 2
  let (mul, den) := match exponent - 2 with
    | .ofNat k => (Nat.pow 2 k, 1)
    | .negSucc k => (1, Nat.pow 2 (k + 1))
  { low := (4 * mantissa - below) * mul, value := 4 * mantissa * mul,
    high := (4 * mantissa + 2) * mul, den, closed := mantissa % 2 = 0 }

/-- `digits · 10 ^ power` as a numerator over one and the factor of the other side. -/
def gridPoint (digits : Nat) (power : Int) : Nat × Nat :=
  match power with
  | .ofNat k => (digits * Nat.pow 10 k, 1)
  | .negSucc k => (digits, Nat.pow 10 (k + 1))

/-- Whether a grid point lies in the interval. -/
def Interval.holds (i : Interval) (digits : Nat) (power : Int) : Bool :=
  let (n, d) := gridPoint digits power
  let n := n * i.den
  if i.closed then i.low * d ≤ n && n ≤ i.high * d else i.low * d < n && n < i.high * d

/-- The larger grid neighbour of the double at or below it. -/
def Interval.floor (i : Interval) (power : Int) : Nat :=
  let (n, d) := gridPoint 1 power
  i.value * d / (n * i.den)

/-- The power of ten just above the double: `10 ^ (p - 1) ≤ value < 10 ^ p`. -/
def Interval.magnitude (i : Interval) : Int :=
  let guess : Int := ((Nat.log2 i.value : Int) - (Nat.log2 i.den : Int)) * 30103 / 100000
  let atLeast (p : Int) : Bool :=
    let (n, d) := gridPoint 1 p
    n * i.den ≤ i.value * d
  let up := if atLeast (guess + 1) then guess + 2 else if atLeast guess then guess + 1 else guess
  if atLeast up then up + 1 else up

/-- The hit on the grid of `count` digits, if there is one: of two hits the nearer, of two equally near
the even one. -/
def Interval.hit? (i : Interval) (magnitude : Int) (count : Nat) : Option (Nat × Int) :=
  let power := magnitude - count
  let lo := i.floor power
  let (n, d) := gridPoint 1 power
  let unit := n * i.den
  let excess := i.value * d - lo * unit
  match i.holds lo power, i.holds (lo + 1) power with
  | true, true =>
    if 2 * excess < unit then some (lo, power)
    else if unit < 2 * excess then some (lo + 1, power)
    else some (if lo % 2 = 0 then lo else lo + 1, power)
  | true, false => some (lo, power)
  | false, true => some (lo + 1, power)
  | false, false => none

/-- The first hit on the grids of `count`, `count + 1`, … digits. -/
def Interval.search (i : Interval) (magnitude : Int) : Nat → Nat → Nat × Int
  | 0, count => (i.floor (magnitude - count), magnitude - count)
  | tries + 1, count =>
    match i.hit? magnitude count with
    | some r => r
    | none => i.search magnitude tries (count + 1)

/-- The digits and the power of ten of the shortest decimal that reads back. -/
def shortest (mantissa : Nat) (exponent : Int) : Nat × Int :=
  let i := interval mantissa exponent
  i.search i.magnitude 17 1

/-- Trailing zeros moved from the digits into the power. -/
def dropZeros : Nat → Nat → Int → Nat × Int
  | 0, digits, power => (digits, power)
  | fuel + 1, digits, power =>
    if digits ≠ 0 ∧ digits % 10 = 0 then dropZeros fuel (digits / 10) (power + 1) else (digits, power)

/-- How a double is laid out: whether a whole number in positional form ends in `.0`, how far right of the point
the first digit may stand in positional form, and whether an exponent has a sign and two digits at least. -/
structure Layout where
  keepPoint : Bool
  lowest : Int
  padExponent : Bool
deriving DecidableEq, Repr

/-- The layout of literals. -/
def Layout.literal : Layout := ⟨true, -4, true⟩

/-- The layout of the parts of a complex number. -/
def Layout.part : Layout := ⟨false, -4, true⟩

/-- The layout of documents. -/
def Layout.document : Layout := ⟨true, -5, false⟩

/-- An exponent. -/
def Layout.exponentText (l : Layout) (e : Int) : String :=
  if l.padExponent then
    let n := toString e.natAbs
    (if e < 0 then "e-" else "e+") ++ (if n.length < 2 then "0" ++ n else n)
  else "e" ++ toString e

/-- Digits laid out with the point after the first `point` of them. -/
def positional (digits : List Char) (point : Int) : String × String :=
  match point with
  | .ofNat (k + 1) =>
    (String.ofList (digits.take (k + 1) ++ List.replicate (k + 1 - digits.length) '0'), String.ofList (digits.drop (k + 1)))
  | .ofNat 0 => ("0", String.ofList digits)
  | .negSucc k => ("0", String.ofList (List.replicate (k + 1) '0' ++ digits))

/-- The text of a double without its sign. -/
def magnitudeText (mantissa : Nat) (exponent : Int) (l : Layout) : String :=
  let (digits, power) :=
    if mantissa = 0 then (0, 0)
    else let (d, p) := shortest mantissa exponent; dropZeros 400 d p
  let cs := (toString digits).toList
  let point : Int := cs.length + power
  if l.lowest < point ∧ point ≤ 16 then
    let (whole, rest) := positional cs point
    if rest.isEmpty then (if l.keepPoint then whole ++ ".0" else whole) else whole ++ "." ++ rest
  else
    let tail := String.ofList cs.tail
    String.ofList (cs.take 1) ++ (if tail.isEmpty then "" else "." ++ tail) ++ l.exponentText (point - 1)

/-- The text of a double. -/
def text (x : Binary64) (l : Layout) : String :=
  match x with
  | nan => "nan"
  | infinite s => if s then "-inf" else "inf"
  | finite s m e => (if s then "-" else "") ++ magnitudeText m e l

end Lineage.Binary64
