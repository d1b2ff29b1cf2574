import Lineage.Number
import Lineage.Text.Names

/-!
# Token — the words of a literal

The text of a literal is cut into numbers, quoted texts, quoted bytes, names and marks. Blanks, comments and line breaks
inside brackets vanish; a line break outside of them ends the literal and is a token. A text that cannot be cut
is no literal: `Token.scan` gives nothing for it.

Escapes inside quotes are read by `unescape` and `unescapeOctets`; a malformed numeric escape is refused and an unknown
one stands for itself.
-/

set_option autoImplicit false

namespace Lineage.Literal

/-- A word of a literal. -/
inductive Token where
  | number (n : Number)
  | text (t : List Nat)
  | octets (os : List Nat)
  | name (s : String)
  | mark (c : Char)
  | ellipsis
  | lineEnd

/-! ## Escapes -/

/-- The value of a hexadecimal digit. -/
def hexValue? (c : Char) : Option Nat :=
  let n := c.toNat
  if 48 ≤ n ∧ n ≤ 57 then some (n - 48)
  else if 97 ≤ n ∧ n ≤ 102 then some (n - 87)
  else if 65 ≤ n ∧ n ≤ 70 then some (n - 55)
  else none

/-- The value of hexadecimal digits, if all of them are. -/
def hexNumber? (cs : List Char) : Option Nat :=
  cs.foldlM (fun n c => (hexValue? c).map (16 * n + ·)) 0

/-- Whether a character is an octal digit. -/
def isOctal (c : Char) : Bool := '0' ≤ c && c ≤ '7'

/-- The value of octal digits. -/
def octalNumber (cs : List Char) : Nat := cs.foldl (fun n c => 8 * n + (c.toNat - 48)) 0

/-- The point that a one-letter escape stands for. -/
def simpleEscape? (c : Char) : Option Nat :=
  match c with
  | '\\' => some 92
  | '\'' => some 39
  | '"' => some 34
  | 'a' => some 7
  | 'b' => some 8
  | 'f' => some 12
  | 'n' => some 10
  | 'r' => some 13
  | 't' => some 9
  | 'v' => some 11
  | _ => none

/-- How many digits a numeric escape has. -/
def hexWidth? (inText : Bool) (c : Char) : Option Nat :=
  if c = 'x' then some 2
  else if inText && c = 'u' then some 4
  else if inText && c = 'U' then some 8
  else none

/-- Reads one escape, given what follows the backslash: the points it stands for, and the rest. -/
def readEscape (inText : Bool) (c : Char) (r : List Char) : Option (List Nat × List Char) :=
  if c = '\n' then some ([], r)
  else match simpleEscape? c with
    | some n => some ([n], r)
    | none => match hexWidth? inText c with
      | some width =>
        if r.length < width then none
        else (hexNumber? (r.take width)).bind fun n => if 0x10ffff < n then none else some ([n], r.drop width)
      | none =>
        if isOctal c then
          let more := (r.take 2).takeWhile isOctal
          let n := octalNumber (c :: more)
          some ([if inText then n else n % 256], r.drop more.length)
        else if inText && c = 'N' then
          match r with
          | '\x7b' :: r =>
            let name := r.takeWhile (· ≠ '\x7d')
            (Text.named? (String.ofList name)).bind fun n =>
              if (r.drop name.length).isEmpty then none else some ([n], r.drop (name.length + 1))
          | _ => none
        else some ([92, c.toNat], r)

theorem length_readEscape_le {inText : Bool} {c : Char} {r rest : List Char} {ns : List Nat}
    (h : readEscape inText c r = some (ns, rest)) : rest.length ≤ r.length := by
  unfold readEscape at h
  split at h
  next => simp_all
  next =>
    split at h
    next => simp_all
    next =>
      split at h
      next =>
        split at h
        next => simp at h
        next =>
          obtain ⟨n, _, hn⟩ := Option.bind_eq_some_iff.1 h
          split at hn
          next => simp at hn
          next => simp only [Option.some.injEq, Prod.mk.injEq] at hn; rw [← hn.2]; simp
      next =>
        split at h
        next => simp only [Option.some.injEq, Prod.mk.injEq] at h; rw [← h.2]; simp
        next =>
          split at h
          next =>
            split at h
            next r' =>
              obtain ⟨n, _, hn⟩ := Option.bind_eq_some_iff.1 h
              split at hn
              next => simp at hn
              next =>
                simp only [Option.some.injEq, Prod.mk.injEq] at hn
                rw [← hn.2]
                simp only [List.length_drop, List.length_cons]
                omega
            next => simp at h
          next => simp_all

/-- The points that the characters between quotes stand for. -/
def unescape (inText : Bool) (cs : List Char) : Option (List Nat) :=
  match cs with
  | [] => some []
  | '\\' :: c :: r =>
    match h : readEscape inText c r with
    | none => none
    | some (ns, rest) =>
      have : rest.length ≤ r.length := length_readEscape_le h
      (unescape inText rest).map (ns ++ ·)
  | c :: r => (unescape inText r).map (c.toNat :: ·)
termination_by cs.length

/-! ## Quoted words -/

/-- The characters up to the closing quotes, and the rest after them. A backslash keeps the next character inside. -/
def quotedBody (quote : Char) (triple : Bool) : List Char → Option (List Char × List Char)
  | [] => none
  | '\\' :: c :: r => (quotedBody quote triple r).map fun p => ('\\' :: c :: p.1, p.2)
  | c :: r =>
    if triple && [quote, quote, quote].isPrefixOf (c :: r) then some ([], r.drop 2)
    else if !triple && c = quote then some ([], r)
    else if !triple && c = '\n' then none
    else (quotedBody quote triple r).map fun p => (c :: p.1, p.2)

/-- What the letters in front of a quote say: whether the word is text, and whether backslashes are plain. -/
def quotePrefix? (letters : List Char) : Option (Bool × Bool) :=
  match letters.map Char.toLower with
  | [] | ['u'] => some (true, false)
  | ['r'] => some (true, true)
  | ['b'] => some (false, false)
  | ['b', 'r'] | ['r', 'b'] => some (false, true)
  | _ => none

/-- Reads a quoted word from its opening quote on. -/
def quotedWord (letters : List Char) (quote : Char) (r : List Char) : Option (Token × List Char) := do
  let (inText, raw) ← quotePrefix? letters
  let triple := [quote, quote].isPrefixOf r
  let (body, rest) ← quotedBody quote triple (if triple then r.drop 2 else r)
  if !inText && body.any fun c => 127 < c.toNat then none
  let points ← if raw then some (body.map Char.toNat) else unescape inText body
  return (if inText then .text points else .octets points, rest)

/-! ## Numbers -/

/-- The digits in front of a text, single underscores between them allowed, and the rest. -/
def digitRun (isDigit : Char → Bool) : List Char → List Char × List Char
  | '_' :: c :: r =>
    if isDigit c then
      let (a, b) := digitRun isDigit r
      (c :: a, b)
    else ([], '_' :: c :: r)
  | c :: r =>
    if isDigit c then
      let (a, b) := digitRun isDigit r
      (c :: a, b)
    else ([], c :: r)
  | [] => ([], [])

/-- Whether a character can go on a name. -/
def isNameChar (c : Char) : Bool := c.isAlphanum || c = '_' || 127 < c.toNat

/-- The digits of a number with a base mark: the base and which digits it has. -/
def baseOf? (c : Char) : Option (Nat × (Char → Bool)) :=
  match c.toLower with
  | 'x' => some (16, fun c => (hexValue? c).isSome)
  | 'o' => some (8, isOctal)
  | 'b' => some (2, fun c => c = '0' || c = '1')
  | _ => none

/-- The most decimal digits that a whole number may be written with. -/
def maxDecimalDigits : Nat := 4300

/-- The exponent part in front of a text, and the rest; nothing when the letter is not followed by a number. -/
def exponentRun (cs : List Char) : Option (Int × List Char) :=
  match cs with
  | c :: r =>
    if c = 'e' ∨ c = 'E' then
      let (negative, r) := Decimal.signed r
      if (r.head?.map Char.isDigit).getD false then
        let (ds, rest) := digitRun Char.isDigit r
        some (if negative then -(Decimal.digitsValue ds : Int) else Decimal.digitsValue ds, rest)
      else none
    else none
  | [] => none

/-- Reads a decimal number: a whole one, a double, or an imaginary one. -/
def decimalWord (cs : List Char) : Option (Number × List Char) :=
  let (whole, r) := if (cs.head?.map Char.isDigit).getD false then digitRun Char.isDigit cs else ([], cs)
  let (part, r, hasPoint) := match r with
    | '.' :: r =>
      if (r.head?.map Char.isDigit).getD false then
        let (ds, r) := digitRun Char.isDigit r
        (ds, r, true)
      else ([], r, true)
    | r => ([], r, false)
  let (exponent, r, hasExponent) := match exponentRun r with
    | some (e, r) => (e, r, true)
    | none => (0, r, false)
  let value : Binary64 := .ofScientific false (Decimal.digitsValue (whole ++ part)) (exponent - part.length)
  match r with
  | c :: rest =>
    if c = 'j' ∨ c = 'J' then some (.complex (.finite false 0 (-1074)) value, rest)
    else finish whole value (hasPoint || hasExponent) r
  | [] => finish whole value (hasPoint || hasExponent) r
where
  /-- The number when no imaginary mark follows. -/
  finish (whole : List Char) (value : Binary64) (isDouble : Bool) (r : List Char) : Option (Number × List Char) :=
    if isDouble then some (.float value, r)
    else if maxDecimalDigits < whole.length then none
    else if whole.head? = some '0' ∧ whole.any (· ≠ '0') then none
    else some (.int (Decimal.digitsValue whole), r)

/-- Reads a number; it must not run into a name. -/
def numberWord (cs : List Char) : Option (Token × List Char) := do
  let (n, rest) ← match cs with
    | '0' :: c :: r => match baseOf? c with
      | some (base, isDigit) =>
        let (ds, rest) := digitRun isDigit r
        if ds.isEmpty then none
        else some (.int (ds.foldl (fun n c => base * n + (hexValue? c).getD 0) 0 : Nat), rest)
      | none => decimalWord cs
    | cs => decimalWord cs
  if (rest.head?.map isNameChar).getD false then none else return (.number n, rest)

/-! ## Scanning -/

/-- The marks of a literal. -/
def isMark (c : Char) : Bool := "()[],:+-".toList.contains c || c = '\x7b' || c = '\x7d'

/-- Whether a character is a blank inside a line. -/
def isBlankInLine (c : Char) : Bool := c = ' ' || c = '\t' || c = '\x0c'

/-- The bracket depth after a mark. -/
def depthAfter (depth : Nat) (c : Char) : Nat :=
  if c = '(' ∨ c = '[' ∨ c = '\x7b' then depth + 1
  else if c = ')' ∨ c = ']' ∨ c = '\x7d' then depth - 1
  else depth

/-- Reads one word that is neither blank nor a line break. -/
def wordAt (cs : List Char) : Option (Token × List Char) :=
  match cs with
  | [] => none
  | '.' :: '.' :: '.' :: r => some (.ellipsis, r)
  | c :: r =>
    if c.isDigit || (c = '.' && (r.head?.map Char.isDigit).getD false) then numberWord cs
    else if c = '\'' ∨ c = '"' then quotedWord [] c r
    else if isNameChar c then
      let letters := cs.takeWhile isNameChar
      match cs.dropWhile isNameChar with
      | q :: rest =>
        if q = '\'' ∨ q = '"' then quotedWord letters q rest else some (.name (String.ofList letters), q :: rest)
      | [] => some (.name (String.ofList letters), [])
    else if isMark c then some (.mark c, r)
    else none

/-- The column at which a line starts, and what follows the blanks in front of it. Of a line that goes on within those
blanks the first column counts; a form feed starts anew. -/
def indentation (column kept : Nat) : List Char → Option (Nat × List Char)
  | ' ' :: r => indentation (column + 1) kept r
  | '\t' :: r => indentation ((column / 8 + 1) * 8) kept r
  | '\x0c' :: r => indentation 0 kept r
  | '\\' :: '\n' :: r => if r.isEmpty then none else indentation column (if kept = 0 then column else kept) r
  | r => some (if kept = 0 then column else kept, r)

/-- Cuts the text into words, in `fuel` steps at most. Outside brackets no line may be indented, except that blank
lines and lines with a comment alone are passed over. A line that goes on needs another line. -/
def scanWith : Nat → Nat → Bool → List Char → Option (List Token)
  | 0, _, _, cs => if cs.isEmpty then some [] else none
  | fuel + 1, depth, true, cs =>
    match indentation 0 0 cs with
    | none => none
    | some (_, '\n' :: r) => scanWith fuel depth true r
    | some (_, '#' :: r) => scanWith fuel depth true ((r.dropWhile (· ≠ '\n')).drop 1)
    | some (column, r) => if depth = 0 ∧ 0 < column then none else scanWith fuel depth false r
  | fuel + 1, depth, false, cs =>
    match cs with
    | [] => some []
    | '\\' :: '\n' :: r => if r.isEmpty then none else scanWith fuel depth false r
    | '#' :: r => scanWith fuel depth false (r.dropWhile (· ≠ '\n'))
    | '\n' :: r => if depth = 0 then (scanWith fuel depth true r).map (.lineEnd :: ·) else scanWith fuel depth true r
    | c :: r =>
      if isBlankInLine c then scanWith fuel depth false r
      else match wordAt (c :: r) with
        | some (t, rest) =>
          (scanWith fuel (match t with | .mark m => depthAfter depth m | _ => depth) false rest).map (t :: ·)
        | none => none

/-- The text with every line break as one line feed. -/
def normalizeBreaks : List Char → List Char
  | '\r' :: '\n' :: r => '\n' :: normalizeBreaks r
  | '\r' :: r => '\n' :: normalizeBreaks r
  | c :: r => c :: normalizeBreaks r
  | [] => []

/-- The words of a text, if it can be cut into words. Blanks in front of the first line are dropped; a text with a NUL or
a byte order mark in front is no literal. -/
def Token.scan (s : String) : Option (List Token) :=
  let cs := normalizeBreaks (s.toList.dropWhile fun c => c = ' ' || c = '\t')
  if cs.contains (Char.ofNat 0) then none else scanWith (2 * cs.length + 2) 0 true cs

end Lineage.Literal
