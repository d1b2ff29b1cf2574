/-!
# Decimal — scaled decimal numbers

A decimal keeps the digits it was written with: `1.10` and `1.1` are the same number and two different decimals.
The text shows the digits with a point when the exponent is small and none is needed otherwise, and in scientific
form in all other cases.
-/

set_option autoImplicit false

namespace Lineage

/-- `± coefficient · 10 ^ exponent`, an infinity, or not a number (quiet or signaling, with a payload). -/
inductive Decimal where
  | finite (negative : Bool) (coefficient : Nat) (exponent : Int)
  | infinite (negative : Bool)
  | nan (negative signaling : Bool) (payload : String)
deriving DecidableEq, Repr, Inhabited

namespace Decimal

/-- The exact value of a finite decimal. -/
def toRat? : Decimal → Option Rat
  | finite s c e =>
    let q : Rat := match e with
      | .ofNat k => ((c * Nat.pow 10 k : Nat) : Rat)
      | .negSucc k => mkRat c (Nat.pow 10 (k + 1))
    some (if s then -q else q)
  | _ => none

/-- The digits around the point: `left` digits stand before it when that is positive. -/
def around (digits : List Char) (left : Int) : String :=
  match left with
  | .ofNat 0 => "0." ++ String.ofList digits
  | .negSucc k => "0." ++ String.ofList (List.replicate (k + 1) '0' ++ digits)
  | .ofNat (k + 1) =>
    if digits.length ≤ k + 1 then String.ofList (digits ++ List.replicate (k + 1 - digits.length) '0')
    else String.ofList (digits.take (k + 1)) ++ "." ++ String.ofList (digits.drop (k + 1))

/-- The text of a decimal. -/
def text : Decimal → String
  | infinite s => (if s then "-" else "") ++ "Infinity"
  | nan s signaling payload => (if s then "-" else "") ++ (if signaling then "sNaN" else "NaN") ++ payload
  | finite s c e =>
    let digits := (toString c).toList
    let left : Int := digits.length + e
    let body :=
      if e ≤ 0 ∧ -6 < left then around digits left
      else
        let power := left - 1
        around digits 1 ++ (if power = 0 then "" else "E" ++ (if power < 0 then "-" else "+") ++ toString power.natAbs)
    (if s then "-" else "") ++ body

/-- The value of a run of decimal digits. -/
def digitsValue (cs : List Char) : Nat := cs.foldl (fun n c => 10 * n + (c.toNat - 48)) 0

/-- An optional sign, and the rest. -/
def signed : List Char → Bool × List Char
  | '-' :: r => (true, r)
  | '+' :: r => (false, r)
  | r => (false, r)

/-- A signed run of digits and nothing else. -/
def signedDigits? (cs : List Char) : Option Int :=
  let (negative, ds) := signed cs
  if ds.isEmpty || !ds.all Char.isDigit then none
  else some (if negative then -(digitsValue ds : Int) else digitsValue ds)

/-- The exponent part: nothing, or the letter and a signed number. -/
def exponentPart? : List Char → Option Int
  | [] => some 0
  | c :: r => if c = 'e' ∨ c = 'E' then signedDigits? r else none

/-- Digits with at most one point, then an exponent. -/
def finite? (negative : Bool) (cs : List Char) : Option Decimal :=
  let whole := cs.takeWhile Char.isDigit
  let rest := cs.dropWhile Char.isDigit
  let (part, rest) := match rest with
    | '.' :: r => (r.takeWhile Char.isDigit, r.dropWhile Char.isDigit)
    | r => ([], r)
  if whole.isEmpty && part.isEmpty then none
  else (exponentPart? rest).map fun e => finite negative (digitsValue (whole ++ part)) (e - part.length)

/-- The decimal that a text spells. -/
def ofString? (s : String) : Option Decimal :=
  let (negative, cs) := signed s.toList
  let lower := String.ofList (cs.map Char.toLower)
  if lower = "inf" ∨ lower = "infinity" then some (infinite negative)
  else match lower.toList with
    | 'n' :: 'a' :: 'n' :: ds => if ds.all Char.isDigit then some (nan negative false (String.ofList ds)) else none
    | 's' :: 'n' :: 'a' :: 'n' :: ds => if ds.all Char.isDigit then some (nan negative true (String.ofList ds)) else none
    | _ => finite? negative cs

end Decimal

end Lineage
