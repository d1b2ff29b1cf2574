/-!
# Block — names of characters in a row
-/

set_option autoImplicit false

namespace Lineage.Text.Names

/-- The names of characters from a first one on, one a line; a line that is empty stands for a point without a name. -/
structure Block where
  first : Nat
  names : String

/-- The lines of a text. -/
def linesOf : List Char → List (List Char)
  | [] => [[]]
  | c :: r => match linesOf r with
    | l :: ls => if c = '\n' then [] :: l :: ls else (c :: l) :: ls
    | [] => [[c]]

/-- The point with a name. -/
def Block.find? (b : Block) (name : List Char) : Option Nat :=
  if name.isEmpty then none else ((linesOf b.names.toList).findIdx? (· = name)).map (b.first + ·)

end Lineage.Text.Names
