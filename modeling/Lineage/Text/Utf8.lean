/-!
# Utf8 — texts as octets

`Utf8.encode` writes a text as octets. `Utf8.decode` reads octets back one at a time, and refuses at the first
octet that rules a text out: an octet that starts no character, one that cannot continue the character that was
begun, or the end in the middle of a character. The fault tells which octets were read of that character.

Overlong forms, surrogates and points beyond the last are ruled out by the bounds on a second octet (`leadFor?`).
-/

set_option autoImplicit false

namespace Lineage.Utf8

/-- The octets of a text. -/
def encode (s : String) : List Nat := s.toList.flatMap fun c => (String.utf8EncodeChar c).map UInt8.toNat

/-- Why octets are no text. -/
inductive Reason where
  | start
  | continuation
  | cut
deriving DecidableEq, Repr

/-- The wording of a reason. -/
def Reason.text : Reason → String
  | start => "invalid start byte"
  | continuation => "invalid continuation byte"
  | cut => "unexpected end of data"

/-- The octets that are no character, by their places, with the first of them. -/
structure Fault where
  first : Nat
  stop : Nat
  octet : Nat
  reason : Reason

/-- The two hexadecimal digits of an octet. -/
def octetText (n : Nat) : String :=
  let ds := Nat.toDigits 16 n
  String.ofList (List.replicate (2 - ds.length) '0' ++ ds)

/-- The wording of a fault. -/
def Fault.text (f : Fault) : String :=
  let place :=
    if f.stop = f.first + 1 then "byte 0x" ++ octetText f.octet ++ " in position " ++ toString f.first
    else "bytes in position " ++ toString f.first ++ "-" ++ toString (f.stop - 1)
  "'utf-8' codec can't decode " ++ place ++ ": " ++ f.reason.text

/-- A character that was begun: where, with which octet, the octets still owed, the bounds of the next one, and
the bits so far. -/
structure Begun where
  first : Nat
  octet : Nat
  owed : Nat
  low : Nat
  high : Nat
  bits : Nat

/-- What an octet starts: a character of its own, one of several octets, or none. -/
def leadFor? (place b : Nat) : Option (Char ⊕ Begun) :=
  if b < 0x80 then some (.inl (Char.ofNat b))
  else if b < 0xc2 then none
  else if b < 0xe0 then some (.inr ⟨place, b, 1, 0x80, 0xbf, b - 0xc0⟩)
  else if b < 0xf0 then
    some (.inr ⟨place, b, 2, if b = 0xe0 then 0xa0 else 0x80, if b = 0xed then 0x9f else 0xbf, b - 0xe0⟩)
  else if b < 0xf5 then
    some (.inr ⟨place, b, 3, if b = 0xf0 then 0x90 else 0x80, if b = 0xf4 then 0x8f else 0xbf, b - 0xf0⟩)
  else none

/-- The characters of octets from a place on, behind a character that may have been begun. -/
def decodeFrom (place : Nat) (begun : Option Begun) : List Nat → Except Fault (List Char)
  | [] => match begun with
    | none => .ok []
    | some g => .error ⟨g.first, place, g.octet, .cut⟩
  | b :: r => match begun with
    | none => match leadFor? place b with
      | none => .error ⟨place, place + 1, b, .start⟩
      | some (.inl c) => (decodeFrom (place + 1) none r).map (c :: ·)
      | some (.inr g) => decodeFrom (place + 1) (some g) r
    | some g =>
      if g.low ≤ b ∧ b ≤ g.high then
        let bits := g.bits * 64 + (b - 0x80)
        if g.owed = 1 then (decodeFrom (place + 1) none r).map (Char.ofNat bits :: ·)
        else decodeFrom (place + 1) (some { g with owed := g.owed - 1, low := 0x80, high := 0xbf, bits }) r
      else .error ⟨g.first, place, g.octet, .continuation⟩

/-- The text of octets. -/
def decode (octets : List Nat) : Except Fault String := (decodeFrom 0 none octets).map String.ofList

end Lineage.Utf8
