import Lineage.Text.Blank
import Lineage.Text.Width

/-!
# Wrap — text in lines of a given width

A text is broken before words that do not fit into the rest of the line. A word keeps the blanks behind it; only blanks that
stand beyond the width are dropped. A word wider than a line is either folded over several lines or cut short with an
ellipsis, as `Overflow` says. Widths are counted in columns, of which a character may take none, one or two.
-/

set_option autoImplicit false

namespace Lineage.Display

/-- What happens to a word that is wider than a line. -/
inductive Overflow where
  | fold
  | ellipsis
deriving DecidableEq, Repr

/-- The characters that are never shown: bell, backspace, vertical tab, form feed and carriage return. -/
def isSilent (c : Char) : Bool := c = '\x07' || c = '\x08' || c = '\x0b' || c = '\x0c' || c = '\r'

/-- The characters that are shown. -/
def audible (s : String) : List Char := s.toList.filter (!isSilent ·)

/-- Cuts a text at its line feeds. -/
def splitLines : List Char → List (List Char)
  | [] => [[]]
  | c :: r =>
    if c = '\n' then [] :: splitLines r
    else match splitLines r with
      | l :: ls => (c :: l) :: ls
      | [] => [[c]]

/-- The columns between two tab stops. -/
def tabSize : Nat := 8

/-- A line with its tabs replaced by blanks up to the next stop, from a column on. -/
def expandTabs (column : Nat) : List Char → List Char
  | [] => []
  | c :: r =>
    if c = '\t' then
      let n := tabSize - column % tabSize
      List.replicate n ' ' ++ expandTabs (column + n) r
    else c :: expandTabs (column + Text.charWidth c) r

/-- The first word with the blanks before and behind it, and the rest; nothing when only blanks are left. -/
def nextWord? (cs : List Char) : Option (List Char × List Char) :=
  let lead := cs.takeWhile Text.isBlank
  let rest := cs.dropWhile Text.isBlank
  let body := rest.takeWhile (!Text.isBlank ·)
  let rest := rest.dropWhile (!Text.isBlank ·)
  if body.isEmpty then none
  else some (lead ++ body ++ rest.takeWhile Text.isBlank, rest.dropWhile Text.isBlank)

/-- The words of a line, as many as `fuel` allows; each takes at least one character. -/
def wordsFrom : Nat → List Char → List (List Char)
  | 0, _ => []
  | fuel + 1, cs => match nextWord? cs with
    | some (w, r) => w :: wordsFrom fuel r
    | none => []

/-- The words of a line. -/
def words (cs : List Char) : List (List Char) := wordsFrom cs.length cs

/-- A text without the blanks at its end. -/
def trimEnd (cs : List Char) : List Char := (cs.reverse.dropWhile Text.isBlank).reverse

/-- A word cut into pieces that are no wider than a line, from a piece on that has been begun. -/
def chopFrom (limit : Nat) (piece : List Char) (used : Nat) : List Char → List (List Char)
  | [] => [piece.reverse]
  | c :: r =>
    let n := Text.charWidth c
    if limit < used + n then piece.reverse :: chopFrom limit [c] n r
    else chopFrom limit (c :: piece) (used + n) r

/-- A word cut into pieces that are no wider than a line. -/
def chop (limit : Nat) (word : List Char) : List (List Char) := chopFrom limit [] 0 word

/-- A text that is being broken into lines: the finished lines, the last first, the line that is being filled, and
the columns it takes as far as breaking is concerned. -/
structure Filling where
  done : List (List Char)
  line : List Char
  column : Nat
  position : Nat

namespace Filling

/-- The start of a new line. -/
def newLine (f : Filling) : Filling := { f with done := f.line :: f.done, line := [] }

/-- More characters on the line. -/
def put (f : Filling) (cs : List Char) : Filling :=
  { f with line := f.line ++ cs, position := f.position + cs.length }

/-- The pieces of a folded word, each on a line of its own. -/
def putPieces (f : Filling) : List (List Char) → Filling
  | [] => f
  | p :: r =>
    let f := if f.position = 0 then f else f.newLine
    let f := f.put p
    putPieces (if r.isEmpty then { f with column := Text.width p } else f) r

/-- One word more. -/
def putWord (limit : Nat) (overflow : Overflow) (f : Filling) (word : List Char) : Filling :=
  let needed := Text.width (trimEnd word)
  let taken := Text.width word
  if f.column + needed ≤ limit then { f.put word with column := f.column + taken }
  else if limit < needed then
    match overflow with
    | .fold => f.putPieces (chop limit word)
    | .ellipsis => { (if f.position = 0 then f else f.newLine).put word with column := taken }
  else if f.column ≠ 0 ∧ f.position ≠ 0 then { f.newLine.put word with column := taken }
  else f.put word

/-- All lines, those that are finished and the last. -/
def lines (f : Filling) : List (List Char) := (f.line :: f.done).reverse

end Filling

/-- A line broken into lines. What follows the last word, blanks only, stays on the last line. -/
def breakLine (limit : Nat) (overflow : Overflow) (cs : List Char) : List (List Char) :=
  match words cs with
  | [] => [cs]
  | ws => (ws.foldl (Filling.putWord limit overflow) ⟨[], [], 0, 0⟩).lines

/-- A line without the blanks at its end that stand beyond the width. -/
def dropOverhang (limit : Nat) (cs : List Char) : List Char :=
  let blanks := cs.length - (trimEnd cs).length
  cs.take (cs.length - min blanks (cs.length - limit))

/-- The longest front part that fits into a width, filled up with blanks. -/
def fit (limit : Nat) (cs : List Char) : List Char :=
  let rec go (room : Nat) : List Char → List Char
    | [] => List.replicate room ' '
    | c :: r => if Text.charWidth c ≤ room then c :: go (room - Text.charWidth c) r else List.replicate room ' '
  go limit cs

/-- A line cut to a width. -/
def cut (limit : Nat) (overflow : Overflow) (cs : List Char) : List Char :=
  if Text.width cs ≤ limit then cs
  else match overflow with
    | .fold => fit limit cs
    | .ellipsis => fit (limit - 1) cs ++ ['…']

/-- A text in lines of a width. -/
def wrap (limit : Nat) (overflow : Overflow) (cs : List Char) : List (List Char) :=
  (splitLines cs).flatMap fun l =>
    (breakLine limit overflow (expandTabs 0 l)).map fun l => cut limit overflow (dropOverhang limit l)

/-- A line with blanks behind it up to a width. -/
def padRight (limit : Nat) (cs : List Char) : List Char := cs ++ List.replicate (limit - Text.width cs) ' '

/-- A line in the middle of a width, further left by one when it does not come out even. -/
def padBoth (limit : Nat) (cs : List Char) : List Char :=
  padRight limit (List.replicate ((limit - Text.width cs) / 2) ' ' ++ cs)

end Lineage.Display
