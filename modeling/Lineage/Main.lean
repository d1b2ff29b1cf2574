import Lineage.CommandLine
import Std.Time

/-!
# Main — the program

Finds out what surrounds a call, runs it, and writes what it leaves.
-/

set_option autoImplicit false

namespace Lineage.Main

/-- The variables that may matter. -/
def variableNames : List String :=
  let upper (s : String) : String := String.ofList (s.toList.map Char.toUpper)
  let settings := Layer.schema.flatMap fun s => match s.2 with
    | .plain => [s.1]
    | .group fields => s.1 :: fields.map fun f => s.1 ++ "__" ++ f.1
  ["HOME", Discovery.variableName] ++ settings.map fun s => upper (Layer.stem ++ s)

/-- The variables that are set. -/
def readVariables : IO Environment :=
  variableNames.filterMapM fun n => do return (← IO.getEnv n).map (n, ·)

/-- The octets of a file, if it can be read. -/
def readFile? (path : String) : IO (Option (List Nat)) := do
  try return some ((← IO.FS.readBinFile path).toList.map UInt8.toNat)
  catch _ => return none

/-- The files at paths, as a tree from the root of all files. -/
def readTree (here : List String) (paths : List Path) : IO FileTree := do
  let places := paths.filterMap fun p => (FileTree.follow (if p.anchor = .here then here else []) p.names).map (p, ·)
  let files ← places.filterMapM fun e => do return (← readFile? (e.1.text "")).map (e.2, ·)
  let folders := paths.flatMap fun p => (List.range p.names.length).map fun i =>
    (if p.anchor = .here then here else []) ++ p.names.take i
  return ⟨"", files, folders, here⟩

/-- The moment of the call. -/
def stamp : IO String := do
  return (Std.Time.DateTime.ofTimestamp (← Std.Time.Timestamp.now) .UTC).format "uuuu-MM-dd'T'HH:mm:ss.SSSSSS'Z'"

/-- What surrounds the call. -/
def surroundings (args : List String) : IO Surroundings := do
  let environment ← readVariables
  let here := Path.namesOf (← IO.currentDir).toString.toList
  let named := (Fields.get? environment Discovery.variableName).toList ++ args
  let given := named.filterMap fun s => match Discovery.expand ⟨"", [], [], here⟩ environment (Path.ofText "" s) with
    | .ok p => some p
    | .error _ => none
  let tree ← readTree here (given ++ Discovery.candidates here)
  return ⟨tree, environment, Library.standard, [], ← stamp⟩

end Lineage.Main

/-- Runs the program. -/
def main (args : List String) : IO UInt32 := do
  let (o, _) := Lineage.CommandLine.run (← Lineage.Main.surroundings args) args .initial
  IO.print o.out
  IO.eprint o.err
  if let some f := o.failure then IO.eprintln (f.kind.name ++ ": " ++ f.message)
  return o.exit.toUInt32
