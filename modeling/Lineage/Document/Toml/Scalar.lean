import Lineage.Document
import Lineage.Document.Toml.Fault
import Lineage.Number.Decimal

/-!
# Scalar — the texts, numbers and moments of TOML

Every reader takes the characters that are left. Texts are basic or literal, on one line or on several
(`readString`); numbers may have underscores between digits (`readNumber?`); of a moment only the kind is kept, once
its day is known to exist (`readMoment?`).
-/

set_option autoImplicit false

namespace Lineage.Toml

/-! ## Blanks and comments -/

/-- Whether a character is a blank within a line. -/
def isSpace (c : Char) : Bool := c = ' ' || c = '\t'

/-- What follows the blanks of a line. -/
def skipSpace (cs : List Char) : List Char := cs.dropWhile isSpace

/-- What follows blanks and line ends. -/
def skipLines (cs : List Char) : List Char := cs.dropWhile fun c => isSpace c || c = '\n'

/-- Whether a text may not hold a character as it is. -/
def isIllegal (multiline : Bool) (c : Char) : Bool :=
  (c.toNat < 32 || c.toNat = 127) && c ≠ '\t' && !(multiline && c = '\n')

/-- The part before a mark and what follows the mark. -/
def cutAtMark (mark : List Char) : List Char → Option (List Char × List Char)
  | [] => if mark.isEmpty then some ([], []) else none
  | c :: r =>
    if mark.isPrefixOf (c :: r) then some ([], (c :: r).drop mark.length)
    else (cutAtMark mark r).map fun p => (c :: p.1, p.2)

/-- What follows a comment, if there is one: it reaches to the end of the line. -/
def skipComment (cs : List Char) : Except Fault (List Char) :=
  match cs with
  | '#' :: r =>
    let body := r.takeWhile (· ≠ '\n')
    match body.find? (isIllegal false) with
    | some c => .error ⟨.invalid c, r.dropWhile (! isIllegal false ·)⟩
    | none => .ok (r.drop body.length)
  | cs => .ok cs

/-! ## Texts -/

/-- Whether a character is a hexadecimal digit. -/
def isHex (c : Char) : Bool := c.isDigit || ('a' ≤ c && c ≤ 'f') || ('A' ≤ c && c ≤ 'F')

/-- The value of a hexadecimal digit. -/
def hexValue (c : Char) : Nat := if c.isDigit then c.toNat - 48 else c.toLower.toNat - 87

/-- The number that digits spell in a base. -/
def valueIn (base : Nat) (digits : List Char) : Nat := digits.foldl (fun n c => base * n + hexValue c) 0

/-- A character that is given by a number of hexadecimal digits. -/
def readPoint (length : Nat) (cs : List Char) : Except Fault Char :=
  let digits := cs.take length
  if digits.length ≠ length || !digits.all isHex then .error ⟨.hex, cs⟩
  else
    let n := valueIn 16 digits
    if n < 0xd800 ∨ (0xdfff < n ∧ n < 0x110000) then .ok (Char.ofNat n) else .error ⟨.point, cs.drop length⟩

/-- The character that a one-letter escape stands for. -/
def letterEscape? (c : Char) : Option Char :=
  match c with
  | 'b' => some '\x08'
  | 't' => some '\t'
  | 'n' => some '\n'
  | 'f' => some '\x0c'
  | 'r' => some '\r'
  | '"' => some '"'
  | '\\' => some '\\'
  | _ => none

/-- Where the reader of a text stands: within it, behind a backslash before the end of a line, or past that end. -/
inductive Stand where
  | within
  | beforeBreak
  | afterBreak

/-- The order in which the reader may change its stand without reading. -/
def Stand.rank : Stand → Nat
  | within => 0
  | _ => 1

/-- A basic text up to its closing quotes, of which the characters so far are known, the last one first. -/
def readBasic (multiline : Bool) (stand : Stand) (sofar : List Char) (cs : List Char) : Except Fault (String × List Char) :=
  match cs with
  | [] => .error ⟨.openString, []⟩
  | c :: r =>
    match stand with
    | .beforeBreak =>
      if c = '\n' then readBasic multiline .afterBreak sofar r
      else if isSpace c then readBasic multiline .beforeBreak sofar r
      else .error ⟨.escape, c :: r⟩
    | .afterBreak =>
      if isSpace c || c = '\n' then readBasic multiline .afterBreak sofar r
      else readBasic multiline .within sofar (c :: r)
    | .within =>
      if c = '"' then
        if !multiline then .ok (String.ofList sofar.reverse, r)
        else if ['"', '"'].isPrefixOf r then .ok (String.ofList sofar.reverse, r.drop 2)
        else readBasic multiline .within (c :: sofar) r
      else if c = '\\' then
        match r with
        | [] => .error ⟨.escape, []⟩
        | 'u' :: r => do
          let p ← readPoint 4 r
          readBasic multiline .within (p :: sofar) (r.drop 4)
        | 'U' :: r => do
          let p ← readPoint 8 r
          readBasic multiline .within (p :: sofar) (r.drop 8)
        | e :: r =>
          if multiline && e = '\n' then readBasic multiline .afterBreak sofar r
          else if multiline && isSpace e then readBasic multiline .beforeBreak sofar r
          else match letterEscape? e with
            | some c => readBasic multiline .within (c :: sofar) r
            | none => .error ⟨.escape, r⟩
      else if isIllegal multiline c then .error ⟨.illegal c, c :: r⟩
      else readBasic multiline .within (c :: sofar) r
termination_by (cs.length, stand.rank)
decreasing_by
  all_goals simp_wf
  all_goals simp [Stand.rank, Prod.lex_def] <;> omega

/-- A literal text up to a mark. -/
def readLiteral (multiline : Bool) (mark : String) (cs : List Char) : Except Fault (String × List Char) :=
  match cutAtMark mark.toList cs with
  | none => .error ⟨.missing mark, []⟩
  | some (body, r) => match body.find? (isIllegal multiline) with
    | some c => .error ⟨.invalid c, cs.dropWhile (! isIllegal multiline ·)⟩
    | none => .ok (String.ofList body, r)

/-- Up to two quotes that stand before the closing ones and belong to the text. -/
def withQuotes (quote : Char) (p : String × List Char) : String × List Char :=
  let extra := (p.2.take 2).takeWhile (· = quote)
  (p.1 ++ String.ofList extra, p.2.drop extra.length)

/-- What follows a line end that comes first. -/
def skipBreak : List Char → List Char
  | '\n' :: r => r
  | r => r

/-- A text on one line, if one starts here. -/
def readLineString? (cs : List Char) : Option (Except Fault (String × List Char)) :=
  match cs with
  | '"' :: r => some (readBasic false .within [] r)
  | '\'' :: r => some (readLiteral false "'" r)
  | _ => none

/-- A text, if one starts here. -/
def readString? (cs : List Char) : Option (Except Fault (String × List Char)) :=
  match cs with
  | '"' :: '"' :: '"' :: r => some ((readBasic true .within [] (skipBreak r)).map (withQuotes '"'))
  | '\'' :: '\'' :: '\'' :: r => some ((readLiteral true "'''" (skipBreak r)).map (withQuotes '\''))
  | cs => readLineString? cs

/-! ## Keys -/

/-- Whether a character may stand in a key without quotes. -/
def isBare (c : Char) : Bool := c.isAlphanum || c = '-' || c = '_'

/-- One name of a key. -/
def readName (cs : List Char) : Except Fault (String × List Char) :=
  match cs with
  | c :: _ =>
    if isBare c then .ok (String.ofList (cs.takeWhile isBare), cs.dropWhile isBare)
    else (readLineString? cs).getD (.error ⟨.keyStart, cs⟩)
  | [] => .error ⟨.keyStart, []⟩

/-- The names of a key, between dots. The fuel bounds their number. -/
def readNames : Nat → List Char → Except Fault (Key × List Char)
  | 0, cs => .error ⟨.keyStart, cs⟩
  | fuel + 1, cs => do
    let (n, r) ← readName cs
    match skipSpace r with
    | '.' :: r =>
      let (ns, r) ← readNames fuel (skipSpace r)
      return (n :: ns, r)
    | r => return ([n], r)

/-- A key, and what follows it and its blanks. -/
def readKey (cs : List Char) : Except Fault (Key × List Char) := readNames (cs.length + 1) cs

/-! ## Numbers -/

/-- The digits of a run with single underscores between them, and what follows. -/
def digitRun (isDigit : Char → Bool) : List Char → List Char × List Char
  | '_' :: d :: r =>
    if isDigit d then
      let (ds, rest) := digitRun isDigit r
      (d :: ds, rest)
    else ([], '_' :: d :: r)
  | d :: r =>
    if isDigit d then
      let (ds, rest) := digitRun isDigit r
      (d :: ds, rest)
    else ([], d :: r)
  | [] => ([], [])

/-- A run that starts with a digit. -/
def digits? (isDigit : Char → Bool) (cs : List Char) : Option (List Char × List Char) :=
  match cs with
  | d :: _ => if isDigit d then some (digitRun isDigit cs) else none
  | [] => none

/-- A whole number in base sixteen, eight or two. -/
def readRadix? (cs : List Char) : Option (Document × List Char) := do
  let (base, isDigit, r) ← match cs with
    | '0' :: 'x' :: r => some (16, isHex, r)
    | '0' :: 'o' :: r => some (8, (fun c => '0' ≤ c && c ≤ '7'), r)
    | '0' :: 'b' :: r => some (2, (fun c => c = '0' || c = '1'), r)
    | _ => none
  let (ds, rest) ← digits? isDigit r
  return (.int (valueIn base ds : Nat), rest)

/-- The fraction of a number, if there is one. -/
def readFraction (cs : List Char) : Option (List Char) × List Char :=
  match cs with
  | '.' :: r => match digits? Char.isDigit r with
    | some (ds, rest) => (some ds, rest)
    | none => (none, cs)
  | _ => (none, cs)

/-- The exponent of a number, if there is one. -/
def readExponent (cs : List Char) : Option Int × List Char :=
  match cs with
  | c :: r =>
    if c = 'e' ∨ c = 'E' then
      let (negative, ds) := Decimal.signed r
      match digits? Char.isDigit ds with
      | some (ds, rest) =>
        let n : Int := valueIn 10 ds
        (some (if negative then -n else n), rest)
      | none => (none, cs)
    else (none, cs)
  | [] => (none, [])

/-- A number in base ten, a double when it has a fraction or an exponent. -/
def readDecimal? (cs : List Char) : Option (Document × List Char) := do
  let (negative, ds) := Decimal.signed cs
  let (whole, rest) ← match ds with
    | '0' :: r => some (['0'], r)
    | ds => digits? Char.isDigit ds
  let (part, rest) := readFraction rest
  let (power, rest) := readExponent rest
  match part, power with
  | none, none =>
    let n : Int := valueIn 10 whole
    return (.int (if negative then -n else n), rest)
  | part, power =>
    let part := part.getD []
    return (.float (Binary64.ofScientific negative (valueIn 10 (whole ++ part)) (power.getD 0 - part.length)), rest)

/-- A double that has no digits. -/
def readSpecial? (cs : List Char) : Option (Document × List Char) :=
  let (negative, r) := Decimal.signed cs
  if ['i', 'n', 'f'].isPrefixOf r then some (.float (.infinite negative), r.drop 3)
  else if ['n', 'a', 'n'].isPrefixOf r then some (.float .nan, r.drop 3)
  else none

/-- A number, if one starts here. -/
def readNumber? (cs : List Char) : Option (Document × List Char) := readRadix? cs <|> readDecimal? cs

/-! ## Moments -/

/-- A number of two digits within bounds. -/
def readPair? (low high : Nat) (cs : List Char) : Option (Nat × List Char) :=
  match cs with
  | a :: b :: r =>
    if a.isDigit && b.isDigit then
      let n := valueIn 10 [a, b]
      if low ≤ n ∧ n ≤ high then some (n, r) else none
    else none
  | _ => none

/-- What follows a character that has to stand here. -/
def after? (c : Char) : List Char → Option (List Char)
  | d :: r => if d = c then some r else none
  | [] => none

/-- What follows a time of the day. -/
def afterTime? (cs : List Char) : Option (List Char) := do
  let (_, r) ← readPair? 0 23 cs
  let (_, r) ← readPair? 0 59 (← after? ':' r)
  let (_, r) ← readPair? 0 59 (← after? ':' r)
  match r with
  | '.' :: d :: _ => if d.isDigit then some ((r.drop 1).dropWhile Char.isDigit) else some r
  | r => some r

/-- What follows the offset of a time, if there is one. -/
def skipOffset (cs : List Char) : List Char :=
  match cs with
  | 'Z' :: r | 'z' :: r => r
  | c :: r =>
    if c = '+' ∨ c = '-' then
      (do
        let (_, r) ← readPair? 0 23 r
        let (_, r) ← readPair? 0 59 (← after? ':' r)
        return r).getD cs
    else cs
  | [] => []

/-- The days of a month. -/
def daysIn (year month : Nat) : Nat :=
  if month = 2 then (if year % 4 = 0 ∧ (year % 100 ≠ 0 ∨ year % 400 = 0) then 29 else 28)
  else if month = 4 ∨ month = 6 ∨ month = 9 ∨ month = 11 then 30
  else 31

/-- A day of the calendar, with whether it exists. -/
def readDay? (cs : List Char) : Option (Bool × List Char) := do
  let (century, r) ← readPair? 0 99 cs
  let (rest, r) ← readPair? 0 99 r
  let (month, r) ← readPair? 1 12 (← after? '-' r)
  let (day, r) ← readPair? 1 31 (← after? '-' r)
  let year := century * 100 + rest
  return (year ≠ 0 && day ≤ daysIn year month, r)

/-- A moment, if one starts here. -/
def readMoment? (cs : List Char) : Option (Except Fault (Document × List Char)) :=
  match readDay? cs with
  | some (isReal, r) =>
    let (kind, r) := match r with
      | c :: t =>
        if c = 'T' ∨ c = 't' ∨ c = ' ' then
          match afterTime? t with
          | some t => (Moment.datetime, skipOffset t)
          | none => (.date, r)
        else (.date, r)
      | [] => (.date, r)
    some (if isReal then .ok (.moment kind, r) else .error ⟨.moment, cs⟩)
  | none => (afterTime? cs).map fun r => .ok (.moment .time, r)

end Lineage.Toml
