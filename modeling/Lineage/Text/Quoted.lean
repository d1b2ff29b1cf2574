import Lineage.Text
import Lineage.Text.Printable

/-!
# Quoted — the literal form of a text and of bytes

A quoted text stands between single quotes, or between double quotes when it holds a single quote and no
double one. Inside, the quote and the backslash are escaped, tab, line feed and carriage return have
their short escapes, and a point that cannot be shown is written in hexadecimal with the fewest of two, four or
eight digits that hold it. Quoted bytes are the same with `b` in front, and every byte outside printable ASCII
written with two digits.
-/

set_option autoImplicit false

namespace Lineage.Text

/-- The digit of a number below sixteen, in lower case. -/
def hexDigit (n : Nat) : Char :=
  if n < 10 then Char.ofNat (48 + n) else Char.ofNat (87 + n)

/-- The last `width` hexadecimal digits of a number. -/
def hexDigits : Nat → Nat → List Char
  | 0, _ => []
  | width + 1, n => hexDigits width (n / 16) ++ [hexDigit (n % 16)]

@[simp] theorem length_hexDigits (width n : Nat) : (hexDigits width n).length = width := by
  induction width generalizing n with
  | zero => rfl
  | succ w ih => simp [hexDigits, ih]

/-- The escape that spells a point by its number. -/
def hexEscape (n : Nat) : List Char :=
  if n ≤ 0xff then '\\' :: 'x' :: hexDigits 2 n
  else if n ≤ 0xffff then '\\' :: 'u' :: hexDigits 4 n
  else '\\' :: 'U' :: hexDigits 8 n

/-- The short escapes: the quote itself, the backslash, tab, line feed and carriage return. -/
def shortEscape? (quote n : Nat) : Option (List Char) :=
  if n = quote ∨ n = 92 then some ['\\', Char.ofNat n]
  else if n = 9 then some ['\\', 't']
  else if n = 10 then some ['\\', 'n']
  else if n = 13 then some ['\\', 'r']
  else none

/-- How one point is written between quotes. -/
def escapePoint (quote n : Nat) : List Char :=
  match shortEscape? quote n with
  | some cs => cs
  | none => if isPrintable n then [Char.ofNat n] else hexEscape n

/-- How one byte is written between quotes. -/
def escapeOctet (quote n : Nat) : List Char :=
  match shortEscape? quote n with
  | some cs => cs
  | none => if 32 ≤ n ∧ n < 127 then [Char.ofNat n] else '\\' :: 'x' :: hexDigits 2 n

/-- The quote to use: double when there is a single quote inside and no double one. -/
def quoteFor (points : List Nat) : Nat :=
  if points.contains 39 && !points.contains 34 then 34 else 39

/-- The quoted form of a text, as characters. -/
def quotedChars (t : Text) : List Char :=
  let q := quoteFor t.points
  Char.ofNat q :: (t.points.flatMap (escapePoint q) ++ [Char.ofNat q])

/-- The quoted form of a text. -/
def quoted (t : Text) : String := String.ofList t.quotedChars

/-- The quoted form of a string. -/
def quote (s : String) : String := (ofString s).quoted

/-- The quoted form of bytes. -/
def quotedOctets (octets : List Nat) : String :=
  let q := quoteFor octets
  String.ofList ('b' :: Char.ofNat q :: (octets.flatMap (escapeOctet q) ++ [Char.ofNat q]))

end Lineage.Text
