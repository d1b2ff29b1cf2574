import Lineage.Document.Json
import Lineage.Logbook.Message
import Lineage.Plugin

/-!
# Logbook — records as lines of the program's log

A logbook is configured anew as often as one likes; each time its one handler is replaced. A record is written by
every handler there is, once, when it is at least as severe as the threshold of its logger: the package's loggers have
a threshold of their own, all others that of the root (`Logbook.admits`).

Lines are for people or for programs (`Line.console`, `Line.json`); the moment of writing is given as a text. Without
any handler only the message of what is at least a warning is written.
-/

set_option autoImplicit false

namespace Lineage

namespace Level

/-- The severities with names. -/
def named : List (Level × String) :=
  [(debug, "debug"), (info, "info"), (warning, "warning"), (error, "error"), (critical, "critical")]

/-- The name of a severity; one without a name of its own is told by its number, and zero is none at all. -/
def name (l : Level) : String :=
  match named.find? (·.1 = l) with
  | some e => e.2
  | none => if l.number = 0 then "notset" else "level " ++ toString l.number

/-- The severity of a name. -/
def ofName? (s : String) : Option Level := (named.find? (·.2 = s)).map (·.1)

end Level

/-! ## Lines -/

namespace Line

/-- A text with blanks behind it up to a length. -/
def padded (n : Nat) (s : String) : String := s ++ String.ofList (List.replicate (n - s.length) ' ')

/-- The characters for which a text is shown in quotes. -/
def needsQuotes (c : Char) : Bool := [' ', '\t', '=', '\r', '\n', '"', '\''].contains c

/-- A named value for people: a text that is one word stands bare. -/
def valueText : Value → String
  | .text t => if t.toString.toList.any needsQuotes then t.quoted else t.toString
  | v => v.literal

/-- What is shown of an error: its kind and its wording. -/
def errorText (f : Failure) : String := f.kind.name ++ ": " ++ f.message

/-- Named values in the order of their names. -/
def sorted (vs : List (String × Value)) : List (String × Value) := vs.mergeSort fun a b => !decide (b.1 < a.1)

/-- The names that every line has a place for. -/
def placed : List String := ["timestamp", "level", "event", "logger"]

/-- A record for people. -/
def console (stamp : String) (r : Record) : String :=
  let values := ((sorted r.values).filter fun e => !placed.contains e.1).map fun e => e.1 ++ "=" ++ valueText e.2
  let line := String.intercalate " "
    ([stamp, "[" ++ padded 9 r.level.name ++ "]", padded 30 r.event, "[" ++ r.logger ++ "]"] ++ values)
  match r.error with
  | some f => line ++ "\n" ++ errorText f ++ "\n"
  | none => line

/-- The text that a key of a dictionary becomes, if it can become one. -/
def keyText? : Value → Option String
  | .nil => some "null"
  | .bool b => some (if b then "true" else "false")
  | .number (.int n) => some (toString n)
  | .number (.float x) => some (Json.floatText .line x)
  | v => v.string?

mutual

/-- A value as a document; what has no form of its own there is the text of its literal form. -/
def document (v : Value) : Document :=
  match v with
  | .nil => .null
  | .bool b => .bool b
  | .number (.int n) => .int n
  | .number (.float x) => .float x
  | .text t => .text t.toString
  | .list vs => .list (documents vs)
  | .tuple vs => .list (documents vs)
  | .dict es => .table (entries es)
  | v => .text v.literal
termination_by structural v

/-- Values as documents. -/
def documents (vs : List Value) : List Document :=
  match vs with
  | [] => []
  | v :: vs => document v :: documents vs
termination_by structural vs

/-- Entries of a dictionary as entries of a table. -/
def entries (es : List (Value × Value)) : List (String × Document) :=
  match es with
  | [] => []
  | (k, v) :: es => ((keyText? k).getD k.literal, document v) :: entries es
termination_by structural es

end

/-- An error as a document. -/
def errorDocument (f : Failure) : Document :=
  .ofTexts ["<class '" ++ f.kind.name ++ "'>", f.kind.name ++ "(" ++ Text.quote f.message ++ ")",
    "<traceback object at 0x?>"]

/-- A record for programs. -/
def json (stamp : String) (r : Record) : String :=
  let given := r.values.map fun e => (e.1, document e.2)
  let error := (r.error.map fun f => ("exc_info", errorDocument f)).toList
  (Document.table (Fields.ofList (given ++ [("event", .text r.event)] ++ error ++
    [("level", .text r.level.name), ("logger", .text r.logger), ("timestamp", .text stamp)]))).toJson .line

end Line

/-! ## The logbook -/

/-- The form in which a handler writes. -/
inductive LineForm where
  | console
  | json
deriving DecidableEq, Repr

/-- The line that a handler writes for a record. -/
def LineForm.line (h : LineForm) (stamp : String) (r : Record) : String :=
  match h with
  | console => Line.console stamp r
  | json => Line.json stamp r

/-- The handlers, the thresholds of the root and of the package, and what was written. -/
structure Logbook where
  handlers : List LineForm
  rootThreshold : Level
  packageThreshold : Option Level
  written : List String

namespace Logbook

/-- The package whose loggers have a threshold of their own. -/
def package : String := "offspring"

/-- The name of a logger; the one without a name is the root. -/
def loggerName (s : String) : String := if s = "" then "root" else s

/-- A logbook that nobody has configured. -/
def initial : Logbook := ⟨[], .warning, none, []⟩

/-- The logbook with one handler and new thresholds. -/
def configure (b : Logbook) (verbose asJson : Bool) : Logbook :=
  { b with
    handlers := [if asJson then .json else .console]
    rootThreshold := .warning
    packageThreshold := some (if verbose then .debug else .warning) }

/-- Whether a logger belongs to the package. -/
def isPackage (logger : String) : Bool := logger = package || (package ++ ".").toList.isPrefixOf logger.toList

/-- The threshold of a logger. -/
def threshold (b : Logbook) (logger : String) : Level :=
  if isPackage logger then b.packageThreshold.getD b.rootThreshold else b.rootThreshold

/-- Whether a record is written. -/
def admits (b : Logbook) (r : Record) : Bool := (b.threshold r.logger).number ≤ r.level.number

/-- The lines for a record. -/
def linesFor (b : Logbook) (stamp : String) (r : Record) : List String :=
  if !b.admits r then []
  else match b.handlers with
    | [] => if Level.warning.number ≤ r.level.number then [r.event] else []
    | hs => hs.map (·.line stamp r)

/-- The logbook with a record. -/
def record (b : Logbook) (stamp : String) (r : Record) : Logbook := { b with written := b.written ++ b.linesFor stamp r }

/-- The logbook with records, in their order. -/
def recordAll (b : Logbook) (stamp : String) (rs : List Record) : Logbook := rs.foldl (·.record stamp ·) b

/-- Everything that was written, each line ended. -/
def text (b : Logbook) : String := String.join (b.written.map (· ++ "\n"))

end Logbook

end Lineage
