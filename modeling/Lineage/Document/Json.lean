import Lineage.Document
import Lineage.Number.Decimal
import Lineage.Text.Quoted

/-!
# Json — documents as JSON text

`Document.ofJson?` reads a JSON text, `Document.toJson` writes one in a chosen style. Reading is strict about
commas, quotes and control characters, and knows three names for the doubles that have no digits; of a key that is
repeated the first place and the last value count. Writing keeps the order of keys.

A style is a record, `Json.Style`: reports are indented and keep every character, log lines are on one line
and escape all that is not printable ASCII.
-/

set_option autoImplicit false

namespace Lineage

namespace Json

/-! ## Writing -/

/-- How a document is written. -/
structure Style where
  /-- The columns of one level of indentation, or one line for everything. -/
  indent : Option Nat
  asciiOnly : Bool
  layout : Binary64.Layout
  /-- Whether a double without digits is written by name, or else as null. -/
  namesNonFinite : Bool

/-- The style of reports. -/
def Style.report : Style := ⟨some 2, false, .document, false⟩

/-- The style of log lines. -/
def Style.line : Style := ⟨none, true, .literal, true⟩

/-- The escape that gives a 16-bit unit by its number. -/
def unitEscape (n : Nat) : List Char := '\\' :: 'u' :: Text.hexDigits 4 n

/-- The escape of a point by its number, as two units when it is beyond sixteen bits. -/
def pointEscape (n : Nat) : List Char :=
  if n < 0x10000 then unitEscape n
  else unitEscape (0xd800 + (n - 0x10000) / 0x400) ++ unitEscape (0xdc00 + (n - 0x10000) % 0x400)

/-- How a character is written between quotes. -/
def escapeChar (asciiOnly : Bool) (c : Char) : List Char :=
  match c with
  | '"' => ['\\', '"']
  | '\\' => ['\\', '\\']
  | '\n' => ['\\', 'n']
  | '\r' => ['\\', 'r']
  | '\t' => ['\\', 't']
  | '\x08' => ['\\', 'b']
  | '\x0c' => ['\\', 'f']
  | c =>
    let n := c.toNat
    if n < 32 ∨ (asciiOnly ∧ 126 < n) then pointEscape n else [c]

/-- A text between quotes. -/
def quoted (asciiOnly : Bool) (s : String) : String :=
  String.ofList ('"' :: (s.toList.flatMap (escapeChar asciiOnly) ++ ['"']))

/-- A double. -/
def floatText (style : Style) (x : Binary64) : String :=
  match x with
  | .finite _ _ _ => x.text style.layout
  | .nan => if style.namesNonFinite then "NaN" else "null"
  | .infinite s => if style.namesNonFinite then (if s then "-Infinity" else "Infinity") else "null"

/-- The text between two parts of a container at a depth. -/
def separator (style : Style) (depth : Nat) : String :=
  match style.indent with
  | none => ", "
  | some n => ",\n" ++ String.ofList (List.replicate (n * depth) ' ')

/-- The parts of a container at a depth between its brackets. -/
def bracketed (style : Style) (depth : Nat) (opening closing : String) (parts : List String) : String :=
  let body := String.intercalate (separator style (depth + 1)) parts
  match style.indent, parts with
  | _, [] => opening ++ closing
  | none, _ => opening ++ body ++ closing
  | some n, _ =>
    opening ++ "\n" ++ String.ofList (List.replicate (n * (depth + 1)) ' ') ++ body ++ "\n" ++
      String.ofList (List.replicate (n * depth) ' ') ++ closing

mutual

/-- A document at a depth. -/
def render (style : Style) (depth : Nat) (d : Document) : String :=
  match d with
  | .null => "null"
  | .bool b => if b then "true" else "false"
  | .int n => toString n
  | .float x => floatText style x
  | .text s => quoted style.asciiOnly s
  | .moment k => quoted style.asciiOnly k.name
  | .list xs => bracketed style depth "[" "]" (renderAll style (depth + 1) xs)
  | .table es => bracketed style depth "\x7b" "\x7d" (renderEntries style (depth + 1) es)
termination_by structural d

/-- The items of a list. -/
def renderAll (style : Style) (depth : Nat) (xs : List Document) : List String :=
  match xs with
  | [] => []
  | x :: xs => render style depth x :: renderAll style depth xs
termination_by structural xs

/-- The entries of a table. -/
def renderEntries (style : Style) (depth : Nat) (es : List (String × Document)) : List String :=
  match es with
  | [] => []
  | (k, d) :: es => (quoted style.asciiOnly k ++ ": " ++ render style depth d) :: renderEntries style depth es
termination_by structural es

end

/-! ## Reading -/

/-- The text without the blanks in front. -/
def skipBlank (cs : List Char) : List Char := cs.dropWhile fun c => c = ' ' || c = '\t' || c = '\n' || c = '\r'

/-- The value of a hexadecimal digit. -/
def hexValue? (c : Char) : Option Nat :=
  if c.isDigit then some (c.toNat - 48)
  else if 'a' ≤ c ∧ c ≤ 'f' then some (c.toNat - 87)
  else if 'A' ≤ c ∧ c ≤ 'F' then some (c.toNat - 55)
  else none

/-- The unit that four hexadecimal digits spell. -/
def unit? (a b c d : Char) : Option Nat := do
  return (← hexValue? a) * 4096 + (← hexValue? b) * 256 + (← hexValue? c) * 16 + (← hexValue? d)

/-- The points with the halves of pairs put together. -/
def joinPairs : List Nat → List Nat
  | m :: n :: r =>
    if 0xd800 ≤ m ∧ m < 0xdc00 ∧ 0xdc00 ≤ n ∧ n < 0xe000 then
      (0x10000 + (m - 0xd800) * 0x400 + (n - 0xdc00)) :: joinPairs r
    else m :: joinPairs (n :: r)
  | r => r

/-- The character that a one-letter escape stands for. -/
def letterEscape? (c : Char) : Option Char :=
  match c with
  | '"' => some '"'
  | '\\' => some '\\'
  | '/' => some '/'
  | 'b' => some '\x08'
  | 'f' => some '\x0c'
  | 'n' => some '\n'
  | 'r' => some '\r'
  | 't' => some '\t'
  | _ => none

/-- The points up to the closing quote, and what stands behind it. -/
def readQuoted (sofar : List Nat) : List Char → Option (String × List Char)
  | [] => none
  | '"' :: r => some ((Text.mk (joinPairs sofar.reverse)).toString, r)
  | '\\' :: 'u' :: a :: b :: c :: d :: r =>
    match unit? a b c d with
    | some n => readQuoted (n :: sofar) r
    | none => none
  | '\\' :: c :: r =>
    match letterEscape? c with
    | some e => readQuoted (e.toNat :: sofar) r
    | none => none
  | c :: r => if c.toNat < 32 then none else readQuoted (c.toNat :: sofar) r

/-- The fraction behind a whole part: a point and at least one digit, or nothing. -/
def readFraction : List Char → Option (List Char) × List Char
  | '.' :: d :: r => if d.isDigit then (some (d :: r.takeWhile Char.isDigit), r.dropWhile Char.isDigit) else (none, '.' :: d :: r)
  | r => (none, r)

/-- The exponent behind a number: the letter, a sign and at least one digit, or nothing. -/
def readExponent : List Char → Option Int × List Char
  | c :: r =>
    if c = 'e' ∨ c = 'E' then
      let (negative, ds) := Decimal.signed r
      let digits := ds.takeWhile Char.isDigit
      if digits.isEmpty then (none, c :: r)
      else
        let n : Int := Decimal.digitsValue digits
        (some (if negative then -n else n), ds.dropWhile Char.isDigit)
    else (none, c :: r)
  | [] => (none, [])

/-- The digits that a whole number may have to be read. -/
def maxDigits : Nat := 4300

/-- A number without its sign. -/
def readMagnitude (negative : Bool) (cs : List Char) : Option (Document × List Char) :=
  let whole := cs.takeWhile Char.isDigit
  let (whole, rest) := match whole with
    | '0' :: _ => (['0'], cs.drop 1)
    | ds => (ds, cs.dropWhile Char.isDigit)
  if whole.isEmpty then none
  else
    let (part, rest) := readFraction rest
    let (power, rest) := readExponent rest
    match part, power with
    | none, none =>
      let n : Int := Decimal.digitsValue whole
      if maxDigits < whole.length then none else some (.int (if negative then -n else n), rest)
    | part, power =>
      let ds := part.getD []
      some (.float (Binary64.ofScientific negative (Decimal.digitsValue (whole ++ ds)) (power.getD 0 - ds.length)), rest)

/-- The text behind a word, if it starts with that word. -/
def afterWord? (word : String) (cs : List Char) : Option (List Char) :=
  if word.toList.isPrefixOf cs then some (cs.drop word.length) else none

/-- A constant, or a number. -/
def readScalar (cs : List Char) : Option (Document × List Char) :=
  if let some r := afterWord? "null" cs then some (.null, r)
  else if let some r := afterWord? "true" cs then some (.bool true, r)
  else if let some r := afterWord? "false" cs then some (.bool false, r)
  else if let some r := afterWord? "NaN" cs then some (.float .nan, r)
  else if let some r := afterWord? "Infinity" cs then some (.float (.infinite false), r)
  else if let some r := afterWord? "-Infinity" cs then some (.float (.infinite true), r)
  else match cs with
    | '-' :: r => readMagnitude true r
    | cs => readMagnitude false cs

mutual

/-- A value and the text behind it. -/
def readValue : Nat → List Char → Option (Document × List Char)
  | 0, _ => none
  | fuel + 1, cs => match cs with
    | '"' :: r => (readQuoted [] r).map fun p => (.text p.1, p.2)
    | '[' :: r => match skipBlank r with
      | ']' :: r => some (.list [], r)
      | r => (readItems fuel r).map fun p => (.list p.1, p.2)
    | '\x7b' :: r => match skipBlank r with
      | '\x7d' :: r => some (.table [], r)
      | r => (readEntries fuel r).map fun p => (.table (Fields.ofList p.1), p.2)
    | cs => readScalar cs

/-- The items of a list up to its bracket. -/
def readItems : Nat → List Char → Option (List Document × List Char)
  | 0, _ => none
  | fuel + 1, cs => do
    let (d, r) ← readValue fuel (skipBlank cs)
    match skipBlank r with
    | ']' :: r => some ([d], r)
    | ',' :: r =>
      let (ds, r) ← readItems fuel r
      some (d :: ds, r)
    | _ => none

/-- The entries of a table up to its brace. -/
def readEntries : Nat → List Char → Option (List (String × Document) × List Char)
  | 0, _ => none
  | fuel + 1, cs => match skipBlank cs with
    | '"' :: r => do
      let (k, r) ← readQuoted [] r
      match skipBlank r with
      | ':' :: r =>
        let (d, r) ← readValue fuel (skipBlank r)
        match skipBlank r with
        | '\x7d' :: r => some ([(k, d)], r)
        | ',' :: r =>
          let (es, r) ← readEntries fuel r
          some ((k, d) :: es, r)
        | _ => none
      | _ => none
    | _ => none

end

end Json

namespace Document

/-- The document as JSON text. -/
def toJson (d : Document) (style : Json.Style) : String := Json.render style 0 d

/-- The document that a JSON text spells. -/
def ofJson? (s : String) : Option Document := do
  let cs := Json.skipBlank s.toList
  let (d, r) ← Json.readValue (cs.length + 1) cs
  if (Json.skipBlank r).isEmpty then some d else none

end Document

end Lineage
