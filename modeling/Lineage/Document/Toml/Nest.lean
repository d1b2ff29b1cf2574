import Lineage.Document
import Lineage.Document.Toml.Fault
import Lineage.Fields

/-!
# Nest — the tables of a TOML document and how they may grow

A document grows statement by statement. Tables on the way to a key are made when they are missing (`within`), and of
a list of tables the last one is meant. What may not grow any more is kept apart from the tables, as marks on
keys: an inline table or list is closed with all that is below it, and a table that was declared under its own
header, or made by a dotted key of an earlier section, may not be declared again.
-/

set_option autoImplicit false

namespace Lineage.Toml

/-- The entries of a table. -/
abbrev Entries := List (String × Document)

/-- The entries changed at a key, with the tables on the way to it. -/
def within (throughLists : Bool) (change : Entries → Except Trouble Entries) : Key → Entries → Except Trouble Entries
  | [], es => change es
  | k :: ks, es => match Fields.get? es k with
    | none => (within throughLists change ks []).map fun t => Fields.set es k (.table t)
    | some (.table t) => (within throughLists change ks t).map fun t => Fields.set es k (.table t)
    | some (.list ds) => match throughLists, ds.getLast? with
      | true, some (.table t) =>
        (within throughLists change ks t).map fun t => Fields.set es k (.list (ds.dropLast ++ [.table t]))
      | _, _ => .error .overwritten
    | some _ => .error .overwritten

/-- A value under a new name. -/
def put (name : String) (d : Document) (taken : Trouble) (es : Entries) : Except Trouble Entries :=
  if Fields.has es name then .error taken else .ok (Fields.set es name d)

/-- A further table in the list of tables under a name. -/
def append (name : String) (es : Entries) : Except Trouble Entries :=
  match Fields.get? es name with
  | none => .ok (Fields.set es name (.list [.table []]))
  | some (.list ds) => .ok (Fields.set es name (.list (ds ++ [.table []])))
  | some _ => .error .overwritten

/-- What may not grow any more. -/
structure Marks where
  closed : List Key
  declared : List Key
  /-- Keys that count as declared from the next header on. -/
  pending : List Key

namespace Marks

/-- No marks. -/
def none : Marks := ⟨[], [], []⟩

/-- Whether a key is closed, itself or by a table around it. -/
def isClosed (m : Marks) (key : Key) : Bool := m.closed.any (·.isPrefixOf key)

/-- Whether a key was declared. -/
def isDeclared (m : Marks) (key : Key) : Bool := m.declared.contains key

/-- The marks with a key that is closed. -/
def close (m : Marks) (key : Key) : Marks := { m with closed := key :: m.closed }

/-- The marks with a key that is declared. -/
def declare (m : Marks) (key : Key) : Marks := { m with declared := key :: m.declared }

/-- The marks without those on a key and below it. -/
def release (m : Marks) (key : Key) : Marks :=
  { m with
    closed := m.closed.filter (! key.isPrefixOf ·)
    declared := m.declared.filter (! key.isPrefixOf ·) }

/-- The marks when a header comes: what was pending is declared. -/
def settle (m : Marks) : Marks := { m with declared := m.pending ++ m.declared, pending := [] }

end Marks

/-- Whether a value is closed once it is written. -/
def isInline : Document → Bool
  | .table _ | .list _ => true
  | _ => false

/-- A document in the making: its entries, the marks, and the header of the section that is open. -/
structure Draft where
  entries : Entries
  marks : Marks
  header : Key

namespace Draft

/-- A document of which nothing was read. -/
def blank : Draft := ⟨[], .none, []⟩

/-- The tables that a dotted key passes through, from the outermost. -/
def passed (header key : Key) : List Key := (List.range (key.length - 1)).map fun i => header ++ key.take (i + 1)

/-- A value under a key of the open section. -/
def assign (t : Draft) (key : Key) (d : Document) : Except Trouble Draft := do
  let on := passed t.header key
  if let some k := on.find? t.marks.isDeclared then .error (.redefined k)
  let marks := { t.marks with pending := on ++ t.marks.pending }
  let parent := t.header ++ key.dropLast
  if marks.isClosed parent then .error (.closed parent)
  let entries ← within true (put (key.getLast?.getD "") d .overwritten) parent t.entries
  return { t with entries, marks := if isInline d then marks.close (t.header ++ key) else marks }

/-- The section of a table. -/
def openTable (t : Draft) (key : Key) : Except Trouble Draft := do
  let marks := t.marks.settle
  if marks.isDeclared key || marks.isClosed key then .error (.declaredTwice key)
  let entries ← within true .ok key t.entries
  return ⟨entries, marks.declare key, key⟩

/-- The section of a further table in a list. -/
def openItem (t : Draft) (key : Key) : Except Trouble Draft := do
  let marks := t.marks.settle
  if marks.isClosed key then .error (.closed key)
  let entries ← within true (append (key.getLast?.getD "")) key.dropLast t.entries
  return ⟨entries, (marks.release key).declare key, key⟩

end Draft

end Lineage.Toml
