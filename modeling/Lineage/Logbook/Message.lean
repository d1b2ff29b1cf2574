import Lineage.Value.Printer

/-!
# Message — texts with holes that values fill

A message may have holes, each a percent sign, how the value is set, and the form that is wanted. The holes take the
values in their order, or by name from a table that is the only value. A message that is given no values at all
is taken as it is. Where values and holes do not fit together there is no text.
-/

set_option autoImplicit false

namespace Lineage.Message

/-- How a value is set in a hole. -/
structure Setting where
  name : Option String
  flags : List Char
  width : Nat
  precision : Option Nat
  form : Char

/-- A part of a message. -/
inductive Part where
  | char (c : Char)
  | hole (s : Setting)

/-- The number at the start of a text, zero if there is none, and what follows it. -/
def readNumber (cs : List Char) : Nat × List Char :=
  ((cs.takeWhile Char.isDigit).foldl (fun n c => 10 * n + (c.toNat - 48)) 0, cs.dropWhile Char.isDigit)

/-- The name in a hole, if one is given. -/
def readName (cs : List Char) : Option String × List Char :=
  match cs with
  | '(' :: r => (some (String.ofList (r.takeWhile (· ≠ ')'))), (r.dropWhile (· ≠ ')')).drop 1)
  | _ => (none, cs)

/-- What is behind a percent sign up to the form. -/
def readSetting (cs : List Char) : Option (Setting × List Char) :=
  let isFlag (c : Char) : Bool := ['-', '0', '+', ' ', '#'].contains c
  let (name, cs) := readName cs
  let flags := cs.takeWhile isFlag
  let (width, cs) := readNumber (cs.dropWhile isFlag)
  let (precision, cs) := match cs with
    | '.' :: r => ((some (readNumber r).1 : Option Nat), (readNumber r).2)
    | cs => (none, cs)
  match cs with
  | c :: r => some (⟨name, flags, width, precision, c⟩, r)
  | [] => none

/-- The parts of a message. The fuel bounds their number. -/
def parts : Nat → List Char → Option (List Part)
  | 0, _ => some []
  | _, [] => some []
  | fuel + 1, '%' :: r => do
    let (s, r) ← readSetting r
    return .hole s :: (← parts fuel r)
  | fuel + 1, c :: r => (parts fuel r).map (.char c :: ·)

/-- A value as it is shown in running text. -/
def plain : Value → String
  | .text t => t.toString
  | .number n => n.plainText
  | v => v.literal

/-- The whole number that a value stands for; with `cut`, what is behind the point is left out. -/
def whole? (cut : Bool) : Value → Option Int
  | .bool b => some (if b then 1 else 0)
  | .number (.int n) => some n
  | .number (.float x) => if cut then x.toRat?.map fun q => Int.tdiv q.num q.den else none
  | _ => none

/-- The exact number that a value stands for. -/
def rational? : Value → Option Rat
  | .bool b => some (if b then 1 else 0)
  | .number (.int n) => some n
  | .number (.float x) => x.toRat?
  | .number (.fraction q) => some q
  | .number (.decimal d) => d.toRat?
  | _ => none

/-- A number with a fixed count of places behind the point, a half going to the even neighbour. -/
def fixedText (places : Nat) (q : Rat) : String :=
  let n := roundHalfEven (q.num.natAbs * Nat.pow 10 places) q.den
  let ds := (toString n).toList
  let ds := List.replicate (places + 1 - ds.length) '0' ++ ds
  let cut := ds.length - places
  String.ofList (ds.take cut) ++ (if places = 0 then "" else "." ++ String.ofList (ds.drop cut))

/-- Digits with zeros in front up to a length. -/
def padded (length : Nat) (digits : String) : String :=
  String.ofList (List.replicate (length - digits.length) '0') ++ digits

/-- The sign, the mark of the base and the digits of a value that is set as a number. -/
def numeral? (s : Setting) (v : Value) : Option (String × String) :=
  let sign (negative : Bool) : String :=
    if negative then "-" else if s.flags.contains '+' then "+" else if s.flags.contains ' ' then " " else ""
  let based (base : Nat) (mark : String) (n : Int) : String × String :=
    (sign (n < 0) ++ (if s.flags.contains '#' then mark else ""),
      padded (s.precision.getD 0) (String.ofList (Nat.toDigits base n.natAbs)))
  match s.form with
  | 'd' | 'i' | 'u' => (whole? true v).map (based 10 "")
  | 'x' => (whole? false v).map (based 16 "0x")
  | 'X' => (whole? false v).map fun n =>
    let (lead, ds) := based 16 "0X" n
    (lead, String.ofList (ds.toList.map Char.toUpper))
  | 'o' => (whole? false v).map (based 8 "0o")
  | 'f' | 'F' => (rational? v).map fun q =>
    (sign (q.num < 0), fixedText (s.precision.getD 6) q ++ (if s.precision = some 0 ∧ s.flags.contains '#' then "." else ""))
  | _ => none

/-- The characters of a value that is set as text. -/
def wording? (s : Setting) (v : Value) : Option String :=
  let cut (t : String) : String := match s.precision with
    | some n => String.ofList (t.toList.take n)
    | none => t
  match s.form with
  | 's' => some (cut (plain v))
  | 'r' => some (cut v.literal)
  | 'a' => some (cut (String.ofList (v.literal.toList.flatMap fun c => if c.toNat < 128 then [c] else Text.hexEscape c.toNat)))
  | 'c' => match v with
    | .bool b => some (String.singleton (Char.ofNat b.toNat))
    | .number (.int n) => if 0 ≤ n ∧ n < 0x110000 then some (String.singleton (Char.ofNat n.toNat)) else none
    | .text t => if t.points.length = 1 then some t.toString else none
    | _ => none
  | _ => none

/-- A value set in a hole. -/
def fill? (s : Setting) (v : Value) : Option String :=
  let missing (lead body : String) : Nat := s.width - (lead ++ body).length
  let blanks (n : Nat) : String := String.ofList (List.replicate n ' ')
  let place (lead body : String) : String :=
    if s.flags.contains '-' then lead ++ body ++ blanks (missing lead body) else blanks (missing lead body) ++ lead ++ body
  match numeral? s v with
  | some (lead, body) =>
    if s.flags.contains '0' && !s.flags.contains '-' then
      some (lead ++ String.ofList (List.replicate (missing lead body) '0') ++ body)
    else some (place lead body)
  | none => (wording? s v).map (place "")

/-- The value of a name in a table. -/
def named? (table : List (Value × Value)) (name : String) : Option Value :=
  (table.find? fun e => e.1.string? = some name).map (·.2)

/-- The parts with values in their holes; no value may be left over. -/
def fillAll (table : Option (List (Value × Value))) : List Part → List Value → Option String
  | [], [] => some ""
  | [], _ :: _ => if table.isSome then some "" else none
  | .char c :: ps, vs => (fillAll table ps vs).map (String.singleton c ++ ·)
  | .hole s :: ps, vs =>
    if s.form = '%' then (fillAll table ps vs).map ("%" ++ ·)
    else match s.name, table, vs with
      | some n, some t, vs => do return (← fill? s (← named? t n)) ++ (← fillAll table ps vs)
      | none, _, v :: vs => do return (← fill? s v) ++ (← fillAll table ps vs)
      | _, _, _ => none

/-- The text of a message with its values. -/
def text? (message : String) (values : List Value) : Option String :=
  match values with
  | [] => some message
  | vs => do
    let table := match vs with
      | [.dict es] => if es.isEmpty then none else some es
      | _ => none
    fillAll table (← parts message.length message.toList) vs

end Lineage.Message
