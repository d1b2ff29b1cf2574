import Lineage.Display.Style
import Lineage.Display.Wrap
import Lineage.Failure

/-!
# Markup — texts with style tags in square brackets

A tag opens a style, `[name]`, or closes one, `[/name]` or `[/]` for the last that was opened. A backslash in front of a tag
makes it plain text. Since nothing is shown in colour, what is left of a marked-up text is the text without its tags
(`Markup.plain`); a closing tag without its opening one is an error.
-/

set_option autoImplicit false

namespace Lineage.Display.Markup

/-- A part of a marked-up text, with the place where it starts. -/
inductive Part where
  | text (cs : List Char)
  | opening (name : String)
  | closing (name : String) (tag : String) (position : Nat)

/-- Whether a character may be the first of a tag. -/
def startsTag (c : Char) : Bool := ('a' ≤ c && c ≤ 'z') || c = '#' || c = '/' || c = '@'

/-- The inside of a tag whose bracket has been read, and the text behind it. -/
def tagBody? (cs : List Char) : Option (List Char × List Char) :=
  match cs with
  | c :: r =>
    if !startsTag c then none
    else
      let inner := r.takeWhile fun x => x ≠ ']' && x ≠ '['
      match r.dropWhile fun x => x ≠ ']' && x ≠ '[' with
      | ']' :: rest => some (c :: inner, rest)
      | _ => none
  | [] => none

/-- The backslashes in front of a tag, the inside of the tag, and the text behind it. -/
def tag? (cs : List Char) : Option (Nat × List Char × List Char) :=
  let slashes := (cs.takeWhile (· = '\\')).length
  match cs.drop slashes with
  | '[' :: r => (tagBody? r).map fun p => (slashes, p.1, p.2)
  | _ => none

/-- The part that a tag is. -/
def partOf (inner : List Char) (position : Nat) : Part :=
  let name := inner.takeWhile (· ≠ '=')
  match name with
  | '/' :: closed =>
    .closing (Text.strip (String.ofList closed)) ("[" ++ String.ofList inner ++ "]") position
  | name => .opening (String.ofList name)

/-- Text in which an escaped bracket is a bracket. -/
def unescape : List Char → List Char
  | '\\' :: '[' :: r => '[' :: unescape r
  | c :: r => c :: unescape r
  | [] => []

/-- A run of text, if it is not empty. -/
def textPart (reversed : List Char) : List Part :=
  if reversed.isEmpty then [] else [.text (unescape reversed.reverse)]

/-- The parts of a text from a position on; `run` is the text since the last tag, backwards. -/
def partsFrom : Nat → Nat → List Char → List Char → List Part
  | 0, _, run, cs => textPart (cs.reverse ++ run)
  | _, _, run, [] => textPart run
  | fuel + 1, position, run, c :: r =>
    match tag? (c :: r) with
    | none => partsFrom fuel (position + 1) (c :: run) r
    | some (slashes, inner, rest) =>
      let start := position + 2 * (slashes / 2)
      let next := position + slashes + inner.length + 2
      let doubled := textPart (List.replicate (slashes / 2) '\\')
      let part := if slashes % 2 = 1 then .text ('[' :: inner ++ [']']) else partOf inner start
      textPart run ++ doubled ++ part :: partsFrom fuel next [] rest

/-- The parts of a text. -/
def parts (cs : List Char) : List Part := partsFrom cs.length 0 [] cs

/-- The open styles without the last one of a name. -/
def closeLast? (name : String) : List String → Option (List String)
  | [] => none
  | s :: r => if s = name then some r else (closeLast? name r).map (s :: ·)

/-- The text of parts, with the styles that are open, the last one first. -/
def render (opened : List String) : List Part → Except Failure (List Char)
  | [] => .ok []
  | .text cs :: r => (render opened r).map (cs ++ ·)
  | .opening name :: r => render (Style.normalize name :: opened) r
  | .closing name tag position :: r =>
    if name = "" then
      match opened with
      | [] => .error (.nothingToClose "[/]" position)
      | _ :: rest => render rest r
    else match closeLast? (Style.normalize name) opened with
      | none => .error (.unmatchedTag tag position)
      | some rest => render rest r

/-- The text without its tags, or the first tag that closes nothing. -/
def plain (s : String) : Except Failure (List Char) :=
  (render [] (parts s.toList)).map fun cs => cs.filter (!isSilent ·)

end Lineage.Display.Markup
