import Lineage.Document.Toml.Nest
import Lineage.Document.Toml.Scalar

/-!
# Toml — documents read from TOML text

`Document.ofToml` reads a text statement by statement: a value under a key, the header of a table, or the header of
a further table in a list, each with a comment behind it and alone on its lines. A text is refused at the first place
where it cannot go on, and a statement that would overwrite what is there or add to what is complete is
refused behind what was read of it.
-/

set_option autoImplicit false

namespace Lineage

namespace Toml

/-! ## Values -/

/-- A result of a step that changes what was read, at the place behind it. -/
def settled {α : Type} (r : List Char) (x : Except Trouble α) : Except Fault α :=
  match x with
  | .ok x => .ok x
  | .error t => .error ⟨t, r⟩

/-- What follows blanks, line ends and comments. The fuel bounds the number of comments. -/
def skipGap : Nat → List Char → Except Fault (List Char)
  | 0, cs => .ok cs
  | fuel + 1, cs => match skipLines cs with
    | '#' :: r => match skipComment ('#' :: r) with
      | .ok r => skipGap fuel r
      | .error f => .error f
    | r => .ok r

/-- What follows blanks, line ends and comments. -/
def skipGaps (cs : List Char) : Except Fault (List Char) := skipGap (cs.length + 1) cs

/-- A constant. -/
def readConstant? (cs : List Char) : Option (Document × List Char) :=
  if "true".toList.isPrefixOf cs then some (.bool true, cs.drop 4)
  else if "false".toList.isPrefixOf cs then some (.bool false, cs.drop 5)
  else none

/-- A value that is neither a list nor a table. -/
def readScalar (cs : List Char) : Except Fault (Document × List Char) :=
  match readString? cs with
  | some r => r.map fun p => (.text p.1, p.2)
  | none => match readConstant? cs with
    | some p => .ok p
    | none => match readMoment? cs with
      | some r => r
      | none => match readNumber? cs <|> readSpecial? cs with
        | some p => .ok p
        | none => .error ⟨.value, cs⟩

/-- A key and its equals sign, and what follows them. -/
def readLeft (cs : List Char) : Except Fault (Key × List Char) := do
  match ← readKey cs with
  | (key, '=' :: r) => return (key, skipSpace r)
  | (_, r) => .error ⟨.equalsSign, r⟩

mutual

/-- A value, and what follows it. -/
def readValue : Nat → List Char → Except Fault (Document × List Char)
  | 0, cs => .error ⟨.value, cs⟩
  | fuel + 1, cs => match cs with
    | '[' :: r => do
      match ← skipGaps r with
      | ']' :: r => return (.list [], r)
      | r =>
        let (ds, r) ← readItems fuel r
        return (.list ds, r)
    | '\x7b' :: r => match skipSpace r with
      | '\x7d' :: r => .ok (.table [], r)
      | r => (readInline fuel [] .none r).map fun p => (.table p.1, p.2)
    | cs => readScalar cs

/-- The items of a list up to its bracket. -/
def readItems : Nat → List Char → Except Fault (List Document × List Char)
  | 0, cs => .error ⟨.value, cs⟩
  | fuel + 1, cs => do
    let (d, r) ← readValue fuel cs
    match ← skipGaps r with
    | ']' :: r => return ([d], r)
    | ',' :: r => match ← skipGaps r with
      | ']' :: r => return ([d], r)
      | r =>
        let (ds, r) ← readItems fuel r
        return (d :: ds, r)
    | r => .error ⟨.unclosedArray, r⟩

/-- The entries of an inline table up to its brace, behind those that were read. -/
def readInline : Nat → Entries → Marks → List Char → Except Fault (Entries × List Char)
  | 0, _, _, cs => .error ⟨.value, cs⟩
  | fuel + 1, es, marks, cs => do
    let (key, r) ← readLeft cs
    let (d, r) ← readValue fuel r
    if marks.isClosed key then .error ⟨.closed key, r⟩
    let name := key.getLast?.getD ""
    let es ← settled r (within false (put name d (.repeated name)) key.dropLast es)
    match skipSpace r with
    | '\x7d' :: r => return (es, r)
    | ',' :: r => readInline fuel es (if isInline d then marks.close key else marks) (skipSpace r)
    | r => .error ⟨.unclosedTable, r⟩

end

/-! ## Statements -/

/-- The fuel that any value of a text takes at most. -/
def fuelFor (cs : List Char) : Nat := 2 * cs.length + 2

/-- A header between brackets, put into the draft by a step. -/
def readHeader (open? : Key → Except Trouble Draft) (closing : String) (missing : Trouble) (cs : List Char) :
    Except Fault (Draft × List Char) := do
  let (key, r) ← readKey (skipSpace cs)
  let t ← settled r (open? key)
  if closing.toList.isPrefixOf r then return (t, r.drop closing.length) else .error ⟨missing, r⟩

/-- A statement that starts here, and what follows it; a comment and an empty line change nothing. -/
def readStatement (t : Draft) (cs : List Char) : Except Fault (Draft × List Char) :=
  match cs with
  | '[' :: '[' :: r => readHeader t.openItem "]]" .arrayEnd r
  | '[' :: r => readHeader t.openTable "]" .tableEnd r
  | '#' :: r => .ok (t, '#' :: r)
  | c :: r =>
    if isBare c || c = '"' || c = '\'' then do
      let (key, rest) ← readLeft (c :: r)
      let (d, rest) ← readValue (fuelFor rest) rest
      let t ← settled rest (t.assign key d)
      return (t, rest)
    else .error ⟨.statement, c :: r⟩
  | [] => .ok (t, [])

/-- The statements up to the end. The fuel bounds the number of lines. -/
def readStatements : Nat → Draft → List Char → Except Fault Draft
  | 0, t, _ => .ok t
  | fuel + 1, t, cs => match skipSpace cs with
    | [] => .ok t
    | '\n' :: r => readStatements fuel t r
    | cs => do
      let (t, r) ← readStatement t cs
      match ← skipComment (skipSpace r) with
      | [] => return t
      | '\n' :: r => readStatements fuel t r
      | r => .error ⟨.statementEnd, r⟩

/-- The characters with each pair of return and line end as a line end. -/
def unixLines : List Char → List Char
  | '\r' :: '\n' :: r => '\n' :: unixLines r
  | c :: r => c :: unixLines r
  | [] => []

end Toml

/-- The table that a TOML text spells, or what is wrong with it and where. -/
def Document.ofToml (s : String) : Except String Document :=
  let cs := Toml.unixLines s.toList
  match Toml.readStatements (cs.length + 1) .blank cs with
  | .ok t => .ok (.table t.entries)
  | .error f => .error (f.text cs)

end Lineage
