/-!
# Similarity — how much of two texts agrees

Two texts agree in their longest common stretch, the first one in both, and then, in the same way, in what stands before
it and in what stands behind it (`agreement`). They are close when the agreement makes up enough of both
together. `closest` picks the closest of several texts, of which at most three are wanted.
-/

set_option autoImplicit false

namespace Lineage.Similarity

/-- The length of the common start of two texts. -/
def commonStart : List Char → List Char → Nat
  | a :: as, b :: bs => if a = b then commonStart as bs + 1 else 0
  | _, _ => 0

/-- A stretch that two texts have in common: where it starts in each, and its length. -/
structure Stretch where
  left : Nat
  right : Nat
  length : Nat

/-- The longest common stretch that starts at a place of the first text. -/
def longestFrom (i : Nat) (a : List Char) : Nat → List Char → Stretch → Stretch
  | _, [], best => best
  | j, b :: bs, best =>
    let n := commonStart a (b :: bs)
    longestFrom i a (j + 1) bs (if best.length < n then ⟨i, j, n⟩ else best)

/-- The longest common stretch, with the places in the first text counted from `i`. -/
def longest (i : Nat) (b : List Char) : List Char → Stretch → Stretch
  | [], best => best
  | c :: a, best => longest (i + 1) b a (longestFrom i (c :: a) 0 b best)

/-- The number of characters in which two texts agree. The fuel bounds the number of stretches in a row. -/
def agreementWithin : Nat → List Char → List Char → Nat
  | 0, _, _ => 0
  | fuel + 1, a, b =>
    let s := longest 0 b a ⟨0, 0, 0⟩
    if s.length = 0 then 0
    else s.length + agreementWithin fuel (a.take s.left) (b.take s.right) +
      agreementWithin fuel (a.drop (s.left + s.length)) (b.drop (s.right + s.length))

/-- The number of characters in which two texts agree. -/
def agreement (a b : String) : Nat := agreementWithin (a.length + 1) a.toList b.toList

/-- The share of two texts in which they agree; all of it when both are empty. -/
def share (a b : String) : Rat :=
  if a.length + b.length = 0 then 1 else mkRat (2 * agreement a b) (a.length + b.length)

/-- Whether one text with its share goes before another: the greater share first, then the greater text. -/
def isBefore (a b : Rat × String) : Bool := if a.1 = b.1 then !decide (a.2 < b.2) else decide (b.1 < a.1)

/-- The texts that are close to a word, the closest first, and no more than three. -/
def closest (word : String) (texts : List String) : List String :=
  let close := (texts.map fun t => (share t word, t)).filter fun p => mkRat 3 5 ≤ p.1
  ((close.mergeSort isBefore).take 3).map (·.2)

end Lineage.Similarity
