import Lineage.Text.Quoted

/-!
# Fault — what is wrong with a TOML text, and where

A reader that refuses says what is wrong and what was left to read there; the place is counted from that. Lines and
columns are counted from one, and the place behind the last character is the end of the document.
-/

set_option autoImplicit false

namespace Lineage.Toml

/-- A key: the names on the way from the top. -/
abbrev Key := List String

/-- A key as it is shown: its names, quoted, between parentheses; a lone name is followed by a comma. -/
def shownKey (key : Key) : String :=
  match key with
  | [n] => "(" ++ Text.quote n ++ ",)"
  | ns => "(" ++ String.intercalate ", " (ns.map Text.quote) ++ ")"

/-- What can be wrong with a text. -/
inductive Trouble where
  | statement
  | statementEnd
  | keyStart
  | equalsSign
  | tableEnd
  | arrayEnd
  | value
  | moment
  | unclosedArray
  | unclosedTable
  | openString
  | missing (mark : String)
  | illegal (c : Char)
  | invalid (c : Char)
  | escape
  | hex
  | point
  /-- A value stands where a table or another value is meant to go. -/
  | overwritten
  | declaredTwice (key : Key)
  | redefined (key : Key)
  /-- An inline table or list is complete as it is written. -/
  | closed (key : Key)
  | repeated (name : String)

/-- The wording of a trouble. -/
def Trouble.text : Trouble → String
  | statement => "Invalid statement"
  | statementEnd => "Expected newline or end of document after a statement"
  | keyStart => "Invalid initial character for a key part"
  | equalsSign => "Expected '=' after a key in a key/value pair"
  | tableEnd => "Expected ']' at the end of a table declaration"
  | arrayEnd => "Expected ']]' at the end of an array declaration"
  | value => "Invalid value"
  | moment => "Invalid date or datetime"
  | unclosedArray => "Unclosed array"
  | unclosedTable => "Unclosed inline table"
  | openString => "Unterminated string"
  | missing m => "Expected " ++ Text.quote m
  | illegal c => "Illegal character " ++ Text.quote (String.singleton c)
  | invalid c => "Found invalid character " ++ Text.quote (String.singleton c)
  | escape => "Unescaped '\\' in a string"
  | hex => "Invalid hex value"
  | point => "Escaped character is not a Unicode scalar value"
  | overwritten => "Cannot overwrite a value"
  | declaredTwice k => "Cannot declare " ++ shownKey k ++ " twice"
  | redefined k => "Cannot redefine namespace " ++ shownKey k
  | closed k => "Cannot mutate immutable namespace " ++ shownKey k
  | repeated n => "Duplicate inline table key " ++ Text.quote n

/-- A trouble, and what was left to read where it was met. -/
structure Fault where
  trouble : Trouble
  rest : List Char

/-- The place behind a part that was read. -/
def placeBehind (read : List Char) : String :=
  "line " ++ toString (read.count '\n' + 1) ++ ", column " ++ toString ((read.reverse.takeWhile (· ≠ '\n')).length + 1)

/-- The wording of a fault in a text. -/
def Fault.text (f : Fault) (whole : List Char) : String :=
  let place := match f.rest with
    | [] => "end of document"
    | rest => placeBehind (whole.take (whole.length - rest.length))
  f.trouble.text ++ " (at " ++ place ++ ")"

end Lineage.Toml
