import Lineage.Value

/-!
# Equality — when two values are equal

Data is equal by content: numbers and booleans by exact value, texts by code points, bytes by octets in whatever
form, sequences of one kind item by item, sets without regard to order or freezing, and mappings (closed enumerations
included) without regard to the order of their entries. Everything else is equal only to itself, except an
outside object that has its own verdict on every comparison.

Inside a container an outside object is always equal to itself, whatever its verdict.

`Value.equal` is meant for values whose cells have been read.
-/

set_option autoImplicit false

namespace Lineage.Value

/-- The number that a boolean, a number or an outside object made of zero stands for. -/
def number? : Value → Option Number
  | bool b => some (.int (if b then 1 else 0))
  | number n => some n
  | foreign _ .int _ => some (.int 0)
  | _ => none

/-- The text that a textual value stands for. -/
def text? : Value → Option Text
  | text t => some t
  | foreign _ .text _ => some ⟨[]⟩
  | _ => none

/-- The verdict of an outside object on its equality with anything. -/
def verdict? : Value → Option Bool
  | foreign _ _ e => e
  | _ => none

/-- Whether two values are one and the same outside object. -/
def isSameForeign : Value → Value → Bool
  | foreign i _ _, foreign j _ _ => i = j
  | _, _ => false

/-- The numbers of the values of an arithmetic progression. -/
def rangeItems (first stop step : Int) : Int × Int × Nat :=
  let count : Nat :=
    if step = 0 then 0
    else if 0 < step then ((stop - first + step - 1) / step).toNat
    else ((first - stop - step - 1) / (-step)).toNat
  if count = 0 then (0, 0, 0) else if count = 1 then (first, 0, 1) else (first, step, count)

/-- Equality of two values without parts. -/
def equalLeaf (a b : Value) : Bool :=
  match a, b with
  | nil, nil => true
  | bytes _ x, bytes _ y => x = y
  | range a b c, range x y z => rangeItems a b c = rangeItems x y z
  | shared k x, shared l y => k = l && x = y
  | specimen x, specimen y => x.name = y.name || (x.isMapping && y.isMapping)
  | function x, function y | property x, property y | .cls x, .cls y | .inst x, .inst y => x = y
  | foreign x _ _, foreign y _ _ => x = y
  | a, b =>
    match a.number?, b.number? with
    | some x, some y => x.equal y
    | _, _ => match a.text?, b.text? with
      | some x, some y => x = y
      | _, _ => false

/-- The items of a sequence of the list kind. -/
def listItems? : Value → Option (List Value)
  | list xs => some xs
  | foreign _ .list _ => some []
  | _ => none

/-- Whether a value is a mapping without entries. -/
def isEmptyMapping (v : Value) : Bool :=
  match v.entries? with
  | some [] => true
  | _ => false

/-- Whether a value is a list without items. -/
def isEmptyList (v : Value) : Bool :=
  match v.listItems? with
  | some [] => true
  | _ => false

/-- Equality with a value that has no items or entries. -/
def equalEmpty (a b : Value) : Bool :=
  (a.isEmptyMapping && b.isEmptyMapping) || (a.isEmptyList && b.isEmptyList) || equalLeaf a b

/-- The verdict of either side, the left first, before the comparison by content. -/
def judged (a b : Value) (content : Bool) : Bool :=
  match a.verdict?, b.verdict? with
  | some v, _ => v
  | none, some v => v
  | none, none => content

/-- Equality inside a container, where an outside object is always equal to itself. -/
def judgedInside (a b : Value) (content : Bool) : Bool := isSameForeign a b || judged a b content

mutual

/-- Equality by content. -/
def equalContent (a b : Value) : Bool :=
  match a with
  | tuple xs => match b with
    | tuple ys => equalAll xs ys
    | _ => false
  | list xs => match b.listItems? with
    | some ys => equalAll xs ys
    | none => false
  | set _ xs => match b with
    | set _ ys => xs.length == ys.length && subset xs ys
    | _ => false
  | dict es | enum _ _ es => match b.entries? with
    | some fs => es.length == fs.length && entriesIn es fs
    | none => false
  | a => equalEmpty a b
termination_by structural a

/-- Item by item. -/
def equalAll (xs ys : List Value) : Bool :=
  match xs, ys with
  | [], [] => true
  | x :: xs, y :: ys => judgedInside x y (equalContent x y) && equalAll xs ys
  | _, _ => false
termination_by structural xs

/-- Whether every item of the first is equal to some item of the second. -/
def subset (xs ys : List Value) : Bool :=
  match xs with
  | [] => true
  | x :: xs => ys.any (fun y => judgedInside x y (equalContent x y)) && subset xs ys
termination_by structural xs

/-- Whether every entry of the first is equal to some entry of the second. -/
def entriesIn (es fs : List (Value × Value)) : Bool :=
  match es with
  | [] => true
  | (k, v) :: es =>
    fs.any (fun f => judgedInside k f.1 (equalContent k f.1) && judgedInside v f.2 (equalContent v f.2)) &&
      entriesIn es fs
termination_by structural es

end

/-- Equality of two values. -/
def equal (a b : Value) : Bool := judged a b (equalContent a b)

/-- Equality of two values as parts of a container. -/
def equalInside (a b : Value) : Bool := judgedInside a b (equalContent a b)

end Lineage.Value
