import Lineage.Display.Markup
import Lineage.Display.Table

/-!
# Page — a width, and what is printed on it

A page has a fixed number of columns. Plain text is printed as it is, marked-up text without its tags, both wrapped to the
page; every print ends its line.
-/

set_option autoImplicit false

namespace Lineage.Display.Page

/-- The width of a page unless another is chosen. -/
def defaultWidth : Nat := 120

/-- The width of a page when one is asked for; zero asks for the default. -/
def widthOr (n : Nat) : Nat := if n = 0 then defaultWidth else n

/-- Lines as text, each ended. -/
def ofLines (ls : List (List Char)) : String := String.ofList (ls.flatMap fun l => l ++ ['\n'])

/-- A plain text on a page. -/
def printPlain (page : Nat) (s : String) : String := ofLines (wrap page .fold (audible s))

/-- A marked-up text on a page. -/
def printMarkup (page : Nat) (s : String) : Except Failure String :=
  (Markup.plain s).map fun cs => ofLines (wrap page .fold cs)

/-- Marked-up texts on a page, one after the other. -/
def printAll (page : Nat) : List String → Except Failure String
  | [] => .ok ""
  | s :: r => do return (← printMarkup page s) ++ (← printAll page r)

/-- The cells without their tags, column after column. -/
def plainColumns : List (List String) → Except Failure (List (List (List Char)))
  | [] => .ok []
  | c :: r => do return (← c.mapM Markup.plain) :: (← plainColumns r)

/-- A table on a page, the cells of its rows being marked up. -/
def printTable (page : Nat) (title : String) (heads : List String) (rows : List (List String)) : Except Failure String := do
  let columns ← plainColumns (heads.mapIdx fun i _ => rows.map fun r => r[i]?.getD "")
  let plainRows := rows.mapIdx fun i _ => columns.map fun column => column[i]?.getD []
  return ofLines (Table.lines ⟨title, heads, plainRows⟩ page)

end Lineage.Display.Page
