/-!
# Text — strings of code points

A text is a list of code points. Unlike a `String`, it may hold a lone surrogate: a string literal
can spell one, and the printed form of the value spells it again. Names, expressions and messages are
plain `String`s; only the string *values* of the domain are texts.

`Text.ofString` loses nothing (`Text.toString_ofString`), and two texts made from strings are equal
exactly when the strings are (`Text.ofString_inj`).
-/

set_option autoImplicit false

namespace Lineage

/-- A finite sequence of code points, surrogates included. -/
structure Text where
  points : List Nat
deriving DecidableEq, Inhabited, Repr

namespace Text

/-- The code points of a string. -/
def ofString (s : String) : Text := ⟨s.toList.map Char.toNat⟩

/-- The string with these code points; a point that is no character becomes the replacement character. -/
def toString (t : Text) : String :=
  String.ofList (t.points.map fun n => if n.isValidChar then Char.ofNat n else '\uFFFD')

/-- Whether the text holds no code point. -/
def isEmpty (t : Text) : Bool := t.points.isEmpty

/-- The texts one after the other. -/
def append (a b : Text) : Text := ⟨a.points ++ b.points⟩

instance : Append Text := ⟨append⟩

theorem ofNat_toNat (c : Char) :
    (if c.toNat.isValidChar then Char.ofNat c.toNat else '\uFFFD') = c := by
  have h : c.toNat.isValidChar := c.valid
  simp [h, Char.ofNat_toNat]

theorem toString_ofString (s : String) : (ofString s).toString = s := by
  simp only [toString, ofString, List.map_map, Function.comp_def, ofNat_toNat, List.map_id']
  exact String.ofList_toList

theorem ofString_inj {s t : String} : ofString s = ofString t ↔ s = t :=
  ⟨fun h => by rw [← toString_ofString s, h, toString_ofString], fun h => h ▸ rfl⟩

theorem isEmpty_ofString {s : String} : (ofString s).isEmpty = true ↔ s = "" := by
  rw [isEmpty, ofString, List.isEmpty_iff, List.map_eq_nil_iff, String.toList_eq_nil_iff]

end Text

end Lineage
