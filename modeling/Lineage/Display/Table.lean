import Lineage.Display.Wrap
import Lineage.Number.Rounding

/-!
# Table — rows and columns between lines

A table has a title in the middle, a head in heavy lines and rows in light ones. Each column is as wide as its widest
cell, with a blank on either side; when all of them are wider than the page, the widest columns are made smaller until they
fit. What does not fit into its cell is broken between words, and a word that is too long ends in an ellipsis.
-/

set_option autoImplicit false

namespace Lineage.Display

/-- A table: its title, the heads of its columns, and its rows. -/
structure Table where
  title : String
  heads : List String
  rows : List (List (List Char))

namespace Table

/-- Whether a character ends a line of a cell, when the widths are measured. -/
def endsLine (c : Char) : Bool :=
  let n := c.toNat
  (10 ≤ n && n ≤ 13) || (28 ≤ n && n ≤ 30) || n = 0x85 || n = 0x2028 || n = 0x2029

/-- The width of the widest line of a cell. -/
def lineWidth (cs : List Char) : Nat :=
  ((cs.splitBy fun a b => !endsLine a && !endsLine b).map fun l => Text.width (l.filter (!endsLine ·))).foldl max 0

/-- The width of a cell with its margins, in a column that is at most so wide. -/
def cellWidth (limit : Nat) (cs : List Char) : Nat := if limit < 3 then limit else min (lineWidth cs + 2) limit

/-- The width of a column that is at most so wide. -/
def columnWidth (limit : Nat) (cells : List (List Char)) : Nat := (cells.map (cellWidth limit)).foldl max 0

/-- Takes a total off the chosen widths, in equal shares but no more than so much off each. -/
def takeOff (most : Nat) : Nat → Nat → List (Nat × Bool) → List Nat
  | _, _, [] => []
  | total, shares, (w, chosen) :: r =>
    if chosen ∧ 0 < shares then
      let part := min most (roundHalfEven total shares)
      (w - part) :: takeOff most (total - part) (shares - 1) r
    else w :: takeOff most total shares r

/-- The columns that all the widths take together. -/
def total (ws : List Nat) : Nat := ws.foldl (· + ·) 0

/-- Makes the widest columns smaller, level by level, until all fit into a width. -/
def collapse (limit : Nat) : Nat → List Nat → List Nat
  | 0, ws => ws
  | fuel + 1, ws =>
    if total ws ≤ limit then ws
    else
      let excess := total ws - limit
      let widest := ws.foldl max 0
      let second := (ws.filter (· ≠ widest)).foldl max 0
      if widest = second then ws
      else
        let most := min excess (widest - second)
        let chosen := ws.map fun w => (w, w == widest)
        collapse limit fuel (takeOff most excess (chosen.countP (·.2)) chosen)

/-- The cells of the columns, heads included. -/
def columns (t : Table) : List (List (List Char)) :=
  t.heads.mapIdx fun i h => h.toList :: t.rows.map fun r => r[i]?.getD []

/-- The widths of the columns on a page. -/
def widths (t : Table) (page : Nat) : List Nat :=
  let limit := page - (t.heads.length + 1)
  let natural := t.columns.map fun c => max 1 (columnWidth limit c)
  if total natural ≤ limit then natural
  else
    let ws := collapse limit (total natural + 1) natural
    (ws.zip t.columns).map fun p => columnWidth p.1 p.2

/-- The lines of a cell of a column. -/
def cellLines (column : Nat) (cs : List Char) : List (List Char) :=
  (wrap (column - 2) .ellipsis cs).map fun l => ' ' :: padRight (column - 2) l ++ [' ']

/-- The marks of a line across the table: at its ends, between columns, and along them. -/
structure Rule where
  left : Char
  along : Char
  between : Char
  right : Char

/-- The line above the head. -/
def top : Rule := ⟨'┏', '━', '┳', '┓'⟩

/-- The line below the head. -/
def middle : Rule := ⟨'┡', '━', '╇', '┩'⟩

/-- The line below the rows. -/
def bottom : Rule := ⟨'└', '─', '┴', '┘'⟩

/-- A line across the table. -/
def ruleLine (r : Rule) (ws : List Nat) : List Char :=
  r.left :: [r.between].intercalate (ws.map fun w => List.replicate w r.along) ++ [r.right]

/-- The lines of a row, with a mark at its ends and between its cells. -/
def rowLines (edge : Char) (ws : List Nat) (row : List (List Char)) : List (List Char) :=
  let cells := (ws.zip row).map fun p => (p.1, cellLines p.1 p.2)
  let height := (cells.map (·.2.length)).foldl max 0
  (List.range height).map fun i =>
    edge :: [edge].intercalate (cells.map fun c => c.2[i]?.getD (List.replicate c.1 ' ')) ++ [edge]

/-- The lines of a table on a page. -/
def lines (t : Table) (page : Nat) : List (List Char) :=
  let ws := t.widths page
  let span := total ws + ws.length + 1
  let title := (wrap span .fold t.title.toList).map fun l => padBoth span (trimEnd l)
  title ++ [ruleLine top ws] ++ rowLines '┃' ws (t.heads.map String.toList) ++ [ruleLine middle ws] ++
    t.rows.flatMap (rowLines '│' ws) ++ [ruleLine bottom ws]

end Table

end Lineage.Display
