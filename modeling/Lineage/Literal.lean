import Lineage.Literal.Token
import Lineage.Failure
import Lineage.Value.Equality

/-!
# Literal — values written as text

A literal is the written form of data: numbers, texts, bytes, the three constants, and tuples, lists, sets and
dictionaries of literals. A text that is no literal stands for itself, so every text stands for a value
(`Literal.read`), except that a set element or a dictionary key which cannot be one is an error.

Reading goes through a tree (`Tree.ofTokens?`): the shape is settled before any value is made, so a misplaced bracket
behind a bad key still makes the whole a plain text.
-/

set_option autoImplicit false

namespace Lineage.Literal

/-- The shape of a literal. -/
inductive Tree where
  | number (n : Number)
  | data (v : Value)
  | name (s : String)
  | negated (t : Tree)
  | signed (t : Tree)
  | sum (left : Tree) (minus : Bool) (right : Tree)
  | tuple (items : List Tree)
  | list (items : List Tree)
  | set (items : List Tree)
  | dict (entries : List (Tree × Tree))
  | emptySet

namespace Tree

/-! ## The grammar -/

/-- Joins quoted words that stand side by side; texts and bytes do not mix. -/
def quotedRun (v : Value) : List Token → Option (Tree × List Token)
  | .text t :: r => match v with
    | .text u => quotedRun (.text ⟨u.points ++ t⟩) r
    | _ => none
  | .octets t :: r => match v with
    | .bytes f u => quotedRun (.bytes f (u ++ t)) r
    | _ => none
  | r => some (.data v, r)

/-- The constants that names stand for. -/
def constant (s : String) : Tree :=
  if s = "None" then .data .nil
  else if s = "True" then .data (.bool true)
  else if s = "False" then .data (.bool false)
  else .name s

/-- An atom, or the empty set where its name is called. -/
def called : Tree × List Token → Tree × List Token
  | (.name "set", .mark '(' :: .mark ')' :: r) => (.emptySet, r)
  | p => p

mutual

/-- A sum of signed atoms. -/
def expression : Nat → List Token → Option (Tree × List Token)
  | 0, _ => none
  | fuel + 1, ts => do
    let (t, r) ← operand fuel ts
    terms fuel t r

/-- The terms added to a first one. -/
def terms : Nat → Tree → List Token → Option (Tree × List Token)
  | 0, _, _ => none
  | fuel + 1, left, ts => match ts with
    | .mark '+' :: r => do
      let (t, r) ← operand fuel r
      terms fuel (.sum left false t) r
    | .mark '-' :: r => do
      let (t, r) ← operand fuel r
      terms fuel (.sum left true t) r
    | r => some (left, r)

/-- An atom with its signs. -/
def operand : Nat → List Token → Option (Tree × List Token)
  | 0, _ => none
  | fuel + 1, ts => match ts with
    | .mark '+' :: r => (operand fuel r).map fun p => (.signed p.1, p.2)
    | .mark '-' :: r => (operand fuel r).map fun p => (.negated p.1, p.2)
    | ts => (atom fuel ts).map called

/-- A word, or a bracketed group. -/
def atom : Nat → List Token → Option (Tree × List Token)
  | 0, _ => none
  | fuel + 1, ts => match ts with
    | .number n :: r => some (.number n, r)
    | .text t :: r => quotedRun (.text ⟨t⟩) r
    | .octets t :: r => quotedRun (.bytes .fixed t) r
    | .ellipsis :: r => some (.data (.specimen ⟨"ellipsis", "ellipsis", .object, false, true, false⟩), r)
    | .name s :: r => some (constant s, r)
    | .mark '(' :: .mark ')' :: r => some (.tuple [], r)
    | .mark '(' :: r => do
      let (t, r) ← expression fuel r
      match r with
      | .mark ')' :: r => some (t, r)
      | .mark ',' :: r => do
        let (ts, r) ← items fuel ')' r
        some (.tuple (t :: ts), r)
      | _ => none
    | .mark '[' :: r => do
      let (ts, r) ← items fuel ']' r
      some (.list ts, r)
    | .mark '\x7b' :: .mark '\x7d' :: r => some (.dict [], r)
    | .mark '\x7b' :: r => do
      let (t, r) ← expression fuel r
      match r with
      | .mark '\x7d' :: r => some (.set [t], r)
      | .mark ',' :: r => do
        let (ts, r) ← items fuel '\x7d' r
        some (.set (t :: ts), r)
      | .mark ':' :: r => do
        let (v, r) ← expression fuel r
        let (es, r) ← entries fuel r
        some (.dict ((t, v) :: es), r)
      | _ => none
    | _ => none

/-- The items up to a closing mark, commas between them and perhaps one behind. -/
def items : Nat → Char → List Token → Option (List Tree × List Token)
  | 0, _, _ => none
  | fuel + 1, close, ts => match ts with
    | .mark c :: r => if c = close then some ([], r) else itemsFrom fuel close (.mark c :: r)
    | ts => itemsFrom fuel close ts

/-- At least one item, and the items behind it. -/
def itemsFrom : Nat → Char → List Token → Option (List Tree × List Token)
  | 0, _, _ => none
  | fuel + 1, close, ts => do
    let (t, r) ← expression fuel ts
    match r with
    | .mark ',' :: r => do
      let (ts, r) ← items fuel close r
      some (t :: ts, r)
    | .mark c :: r => if c = close then some ([t], r) else none
    | _ => none

/-- The entries behind the first, up to the closing brace. -/
def entries : Nat → List Token → Option (List (Tree × Tree) × List Token)
  | 0, _ => none
  | fuel + 1, ts => match ts with
    | .mark '\x7d' :: r => some ([], r)
    | .mark ',' :: .mark '\x7d' :: r => some ([], r)
    | .mark ',' :: r => do
      let (k, r) ← expression fuel r
      match r with
      | .mark ':' :: r => do
        let (v, r) ← expression fuel r
        let (es, r) ← entries fuel r
        some ((k, v) :: es, r)
      | _ => none
    | _ => none

end

/-- The items of a tuple without brackets, commas between them and perhaps one behind, up to the end of the line. -/
def bareItems : Nat → List Token → Option (List Tree × List Token)
  | 0, _ => none
  | fuel + 1, ts => match ts with
    | [] => some ([], [])
    | .lineEnd :: r => some ([], .lineEnd :: r)
    | ts => do
      let (t, r) ← expression fuel ts
      match r with
      | .mark ',' :: r => do
        let (ts, r) ← bareItems fuel r
        some (t :: ts, r)
      | r => some ([t], r)

/-- The tree of a whole text: one expression or a tuple without brackets, and nothing but line ends behind it. -/
def ofTokens? (ts : List Token) : Option Tree := do
  let fuel := 8 * ts.length + 8
  let (t, r) ← expression fuel ts
  let (t, r) ← match r with
    | .mark ',' :: r => (bareItems fuel r).map fun p => (tuple (t :: p.1), p.2)
    | r => some (t, r)
  if r.all fun t => t matches .lineEnd then some t else none

/-! ## The value of a tree -/

/-- Why a tree has no value: it is none of the forms of data, or the data cannot be built. -/
inductive Refusal where
  | notLiteral
  | failed (cause : Failure)

/-- The number with the other sign. -/
def negateNumber : Number → Number
  | .int n => .int (-n)
  | .float x => .float x.negate
  | .complex a b => .complex a.negate b.negate
  | n => n

/-- The number that a tree is, with at most one sign before it. -/
def signedNumber? : Tree → Option Number
  | number n => some n
  | signed (number n) => some n
  | negated (number n) => some (negateNumber n)
  | _ => none

/-- The double that a real number is as a part of a complex one. -/
def realPart? : Number → Option (Except Failure Binary64)
  | .int n => some (match Binary64.ofInt? n with
    | some x => .ok x
    | none => .error (.misuse .overflow "int too large to convert to float"))
  | .float x => some (.ok x)
  | _ => none

/-- A real number plus or minus an imaginary one. -/
def complexSum (re : Binary64) (minus : Bool) (im : Binary64) : Number :=
  let zero : Binary64 := .finite false 0 (-1074)
  let re := if re.isZero && !minus then zero else re
  .complex re (if minus then (if im.isZero then zero else im.negate) else im)

/-- Adds an item to a set unless it is there. -/
def insertItem (xs : List Value) (x : Value) : List Value := if xs.any (·.equalInside x) then xs else xs ++ [x]

/-- Adds an entry to a dictionary: a key that is there keeps its place and gets the new value. -/
def insertEntry (es : List (Value × Value)) (k v : Value) : List (Value × Value) :=
  if es.any (·.1.equalInside k) then es.map fun e => if e.1.equalInside k then (e.1, v) else e else es ++ [(k, v)]

/-- A key must be hashable. -/
def checkKey (v : Value) : Except Refusal Unit :=
  match v.unhashable? with
  | some c => .error (.failed (.unhashable c))
  | none => .ok ()

mutual

/-- The value of a tree. -/
def value (t : Tree) : Except Refusal Value :=
  match t with
  | number n => .ok (.number n)
  | data v => .ok v
  | name _ => .error .notLiteral
  | signed t => match signedNumber? (signed t) with
    | some n => .ok (.number n)
    | none => .error .notLiteral
  | negated t => match signedNumber? (negated t) with
    | some n => .ok (.number n)
    | none => .error .notLiteral
  | sum a minus b => match (signedNumber? a).bind realPart?, b with
    | some (.ok re), number (.complex _ im) => .ok (.number (complexSum re minus im))
    | some (.error e), number (.complex _ _) => .error (.failed e)
    | _, _ => .error .notLiteral
  | tuple ts => (values ts).map Value.tuple
  | list ts => (values ts).map Value.list
  | set ts => (setItems [] ts).map (Value.set false)
  | dict es => (dictEntries [] es).map Value.dict
  | emptySet => .ok (.set false [])
termination_by structural t

/-- The values of trees, up to the first that has none. -/
def values (ts : List Tree) : Except Refusal (List Value) :=
  match ts with
  | [] => .ok []
  | t :: ts => do return (← value t) :: (← values ts)
termination_by structural ts

/-- The items of a set, put in one by one. -/
def setItems (sofar : List Value) (ts : List Tree) : Except Refusal (List Value) :=
  match ts with
  | [] => .ok sofar
  | t :: ts => do
    let v ← value t
    checkKey v
    setItems (insertItem sofar v) ts
termination_by structural ts

/-- The entries of a dictionary, put in one by one. -/
def dictEntries (sofar : List (Value × Value)) (es : List (Tree × Tree)) : Except Refusal (List (Value × Value)) :=
  match es with
  | [] => .ok sofar
  | (k, v) :: es => do
    let k ← value k
    let v ← value v
    checkKey k
    dictEntries (insertEntry sofar k v) es
termination_by structural es

end

end Tree

/-- The value that a text stands for: what it is a literal of, or else itself. -/
def read (s : String) : Except Failure Value :=
  match (Token.scan s).bind Tree.ofTokens? with
  | none => .ok (.ofString s)
  | some t => match t.value with
    | .ok v => .ok v
    | .error .notLiteral => .ok (.ofString s)
    | .error (.failed e) => .error e

end Lineage.Literal
