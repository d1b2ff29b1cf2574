import Lineage.Display.Page
import Lineage.Document.Shown
import Lineage.Report

/-!
# ReportText — reports for people to read

A report is printed by what it reports on: one line for a type or a check, tables for a module, names and values for
anything else, and one line for a failure. The data of a report is read field by field, and a field that is missing or of
the wrong kind is an error in the words of that kind.
-/

set_option autoImplicit false

namespace Lineage.Display

/-- The class name of a document. -/
def kindName (d : Document) : String := d.toValue.className

/-- A field of the data. -/
def field (es : List (String × Document)) (key : String) : Except Failure Document :=
  match Fields.get? es key with
  | some d => .ok d
  | none => .error (.unknownName key)

/-- A field of an item, which has to be a table. -/
def itemField (item : Document) (key : String) : Except Failure Document :=
  match item with
  | .table es => field es key
  | .text _ => .error (.misuse .type "string indices must be integers, not 'str'")
  | .list _ => .error (.misuse .type "list indices must be integers or slices, not str")
  | d => .error (.misuse .type ("'" ++ kindName d ++ "' object is not subscriptable"))

/-- A document that is put into a line, which has to be a text. -/
def lineText (d : Document) : Except Failure String :=
  match d with
  | .text s => .ok s
  | _ => .error (.misuse .type "Only str or Text can be appended to Text")

/-- What a document consists of when it is gone through. -/
def itemsOf (d : Document) : Except Failure (List Document) :=
  match d with
  | .list xs => .ok xs
  | .table es => .ok (es.map fun e => .text e.1)
  | .text s => .ok (s.toList.map fun c => .text (String.singleton c))
  | d => .error (.misuse .type ("'" ++ kindName d ++ "' object is not iterable"))

/-- The texts of a list from a position on. -/
def textsFrom : Nat → List Document → Except Failure (List String)
  | _, [] => .ok []
  | i, .text s :: r => (textsFrom (i + 1) r).map (s :: ·)
  | i, d :: _ =>
    .error (.misuse .type ("sequence item " ++ toString i ++ ": expected str instance, " ++ kindName d ++ " found"))

/-- The texts of a list with commas between them. -/
def joined (d : Document) : Except Failure String := do
  match itemsOf d with
  | .ok xs => return String.intercalate ", " (← textsFrom 0 xs)
  | .error _ => throw (.misuse .type "can only join an iterable")

/-- A document in a cell, which has to be a text or nothing. -/
def cellText (d : Document) : Except Failure String :=
  match d with
  | .text s => .ok s
  | .null => .ok ""
  | d => .error (.misuse .rendering
      ("unable to render " ++ kindName d ++ "; a string or other renderable object is required"))

/-- The page that reports are printed on. -/
def reportPage : Nat := Page.defaultWidth

/-- The type of a value. -/
def typeText (data : List (String × Document)) : Except Failure String := do
  let value ← lineText (← field data "value")
  let type ← field data "type"
  let typeText ← lineText type
  let category ← field data "native"
  let tail := if category.equal type then "" else " (" ++ category.shown ++ ")"
  return Page.printPlain reportPage (value ++ " : " ++ typeText ++ tail)

/-- The alternative that a value satisfies. -/
def checkText (data : List (String × Document)) : Except Failure String := do
  let value ← lineText (← field data "value")
  let matched ← field data "matched"
  let name ← if matched.isTruthy then lineText matched else lineText (← field data "expression")
  return Page.printPlain reportPage ("OK " ++ value ++ " is " ++ name)

/-- The row of a class. -/
def classRow (item : Document) : Except Failure (List String) := do
  let attr ← itemField item "attr"
  let type ← itemField item "type_name"
  let membership ← joined (← itemField item "membership")
  let fields ← joined (← itemField item "fields")
  return [← cellText attr, ← cellText type, membership, fields]

/-- The members of an enumeration with commas between them. -/
def membersText (d : Document) : Except Failure String :=
  match d with
  | .table es => .ok (String.intercalate ", " (es.map fun e => e.1 ++ "=" ++ e.2.shown))
  | d => .error (.misuse .member ("'" ++ kindName d ++ "' object has no attribute 'items'"))

/-- The row of an enumeration. -/
def enumRow (item : Document) : Except Failure (List String) := do
  let members ← membersText (← itemField item "members")
  let attr ← itemField item "attr"
  let name ← itemField item "name"
  return [← cellText attr, ← cellText name, members]

/-- A table of what is listed, or nothing when nothing is. -/
def listing (title : String) (heads : List String) (row : Document → Except Failure (List String)) (d : Document) :
    Except Failure String := do
  if !d.isTruthy then return ""
  let rows ← (← itemsOf d).mapM row
  Page.printTable reportPage title heads rows

/-- The classes and the enumerations of a module. -/
def moduleText (data : List (String × Document)) : Except Failure String := do
  let name ← match ← field data "module" with
    | .text s => pure s
    | d => throw (.misuse .member ("'" ++ kindName d ++ "' object has no attribute 'translate'"))
  let classes ← listing "Classes" ["Attribute", "Type", "Membership", "Fields"] classRow (← field data "classes")
  let enums ← listing "Enums" ["Attribute", "Name", "Members"] enumRow (← field data "enums")
  return Page.printPlain reportPage name ++ classes ++ enums

/-- Any other success. -/
def plainText (r : Report) : String :=
  Page.printPlain reportPage ("OK: " ++ r.op) ++
    String.join (r.data.map fun e => Page.printPlain reportPage ("  " ++ e.1 ++ ": " ++ e.2.shown))

/-- A failure. -/
def problemText (r : Report) : String :=
  Page.printPlain reportPage ("ERROR: " ++ r.op ++ ": " ++ r.error.elim "Unknown error" (·.message))

/-- A text without the line ends behind it. -/
def dropLineEnds (s : String) : String := String.ofList ((s.toList.reverse.dropWhile (· = '\n')).reverse)

end Display

namespace Report

/-- The report for people to read. -/
def text (r : Report) : Except Failure String :=
  (if !r.ok then .ok (Display.problemText r)
  else if r.op = "type" then Display.typeText r.data
  else if r.op = "check" then Display.checkText r.data
  else if r.op = "inspect" then Display.moduleText r.data
  else .ok (Display.plainText r)).map Display.dropLineEnds

/-- The report in the form that is asked for. -/
def format (r : Report) (json : Bool) : Except Failure String := if json then .ok r.toJson else r.text

end Report

end Lineage
