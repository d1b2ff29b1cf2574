import Lineage.Text.Utf8

/-!
# FileTree — regular files and folders below a root

A tree holds files by the names on the way from its root, folders, and the folder in which a program works. A path is
read from text (`Path.ofText`) and found in the tree step by step (`FileTree.locate`): every name on the
way has to be that of a folder, also before a step up. Nothing outside of the tree is there.

`FileTree.resolve` follows a path by its names alone and so also reaches what does not exist.
-/

set_option autoImplicit false

namespace Lineage

/-- Where a path starts: in the working folder, at the root of the tree, or outside of the tree. -/
inductive Anchor where
  | here
  | root
  | outside
deriving DecidableEq, Repr

/-- A path by its start and the names on the way. -/
structure Path where
  anchor : Anchor
  names : List String
deriving DecidableEq, Repr

/-- Files with their octets, and folders, below a root that is known by a text. -/
structure FileTree where
  root : String
  files : List (List String × List Nat)
  folders : List (List String)
  here : List String

namespace Path

/-- The pieces of a text between slashes. -/
def pieces : List Char → List (List Char)
  | [] => [[]]
  | c :: r => match pieces r with
    | p :: ps => if c = '/' then [] :: p :: ps else (c :: p) :: ps
    | [] => [[c]]

/-- The names of a text: the pieces that say something. -/
def namesOf (cs : List Char) : List String := ((pieces cs).map String.ofList).filter fun n => n ≠ "" && n ≠ "."

/-- The path that a text spells; `root` is the text of the root. -/
def ofText (root s : String) : Path :=
  let cs := s.toList
  let behind := cs.drop root.length
  if root.toList.isPrefixOf cs && (behind.isEmpty && root ≠ "" || behind.head? = some '/') then ⟨.root, namesOf behind⟩
  else if cs.head? = some '/' then ⟨.outside, namesOf cs⟩
  else ⟨.here, namesOf cs⟩

/-- The text of a path. -/
def text (root : String) (p : Path) : String :=
  let names := String.intercalate "/" p.names
  match p.anchor with
  | .here => if p.names.isEmpty then "." else names
  | .root => if p.names.isEmpty && root ≠ "" then root else root ++ "/" ++ names
  | .outside => "/" ++ names

/-- The path one name further. -/
def child (p : Path) (name : String) : Path := { p with names := p.names ++ [name] }

end Path

namespace FileTree

/-- Whether there is a folder: one that is known, or one on the way to a folder or a file. -/
def isFolder (t : FileTree) (at_ : List String) : Bool :=
  at_.isEmpty || (t.here :: t.folders).any (at_.isPrefixOf ·) || t.files.any fun f => at_.isPrefixOf f.1.dropLast

/-- Where names lead from a folder. -/
def walk (t : FileTree) (at_ : List String) : List String → Option (List String)
  | [] => some at_
  | n :: r =>
    if !t.isFolder at_ then none
    else if n = ".." then (if at_.isEmpty then none else walk t at_.dropLast r)
    else walk t (at_ ++ [n]) r

/-- Where the names of a path start. -/
def start? (t : FileTree) (p : Path) : Option (List String) :=
  match p.anchor with
  | .here => some t.here
  | .root => some []
  | .outside => none

/-- Where a path leads. -/
def locate (t : FileTree) (p : Path) : Option (List String) := (t.start? p).bind fun s => t.walk s p.names

/-- The octets of the regular file at a path. -/
def read? (t : FileTree) (p : Path) : Option (List Nat) :=
  (t.locate p).bind fun l => (t.files.find? (·.1 = l)).map (·.2)

/-- Whether a path leads to a regular file. -/
def isFile (t : FileTree) (p : Path) : Bool := (t.read? p).isSome

/-- Where names lead when every step up undoes the step before. -/
def follow (at_ : List String) : List String → Option (List String)
  | [] => some at_
  | n :: r => if n = ".." then (if at_.isEmpty then none else follow at_.dropLast r) else follow (at_ ++ [n]) r

/-- Where a path leads by its names alone, unless that is outside of the tree. -/
def resolve (t : FileTree) (p : Path) : Option (List String) := (t.start? p).bind fun s => follow s p.names

/-- A place and all above it, from the inside. -/
def upwards (at_ : List String) : List (List String) := (List.range (at_.length + 1)).map fun i => at_.take (at_.length - i)

/-- The characters with every kind of line end as one character. -/
def plainLines : List Char → List Char
  | '\r' :: '\n' :: r => '\n' :: plainLines r
  | '\r' :: r => '\n' :: plainLines r
  | c :: r => c :: plainLines r
  | [] => []

/-- The text that octets hold. -/
def textOf (octets : List Nat) : Except Utf8.Fault String :=
  (Utf8.decode octets).map fun s => String.ofList (plainLines s.toList)

end FileTree

end Lineage
