import Lineage.Document.Json
import Lineage.Document.Overlay
import Lineage.Document.Toml
import Lineage.Settings.Discovery

/-!
# Layer — where settings come from

A source of settings gives a table of the settings that it knows of. `Layer.ofFile` reads a configuration file. `Layer.ofEnvironment`
collects variables whose names start with `OFFSPRING_`, whatever their case: a plain setting has one
variable, a section has one that holds JSON and one for each of its fields, behind two underscores, which counts more.
-/

set_option autoImplicit false

namespace Lineage.Layer

/-- What is known of a setting: a plain one, or a section with its fields, those that hold lists marked. -/
inductive Setting where
  | plain
  | group (fields : List (String × Bool))

/-- The settings by name. -/
def schema : List (String × Setting) :=
  [("config_path", .plain), ("json_output", .plain), ("verbose", .plain), ("log_json", .plain),
    ("types", .group [("union_delimiter", false), ("excluded_fields", true)]),
    ("plugins", .group [("autoload", false)])]

/-- What the names of variables start with. -/
def stem : String := "offspring_"

/-- A name in lower case. -/
def lowered (s : String) : String := String.ofList (s.toList.map Char.toLower)

/-- The variables by their names in lower case; of two that agree the later one counts. -/
def loweredAll (env : Environment) : Environment := Fields.ofList (env.map fun e => (lowered e.1, e.2))

/-- The pieces of a name between double underscores. -/
def pieces : List Char → List (List Char)
  | '_' :: '_' :: r => [] :: pieces r
  | c :: r => match pieces r with
    | p :: ps => (c :: p) :: ps
    | [] => [[c]]
  | [] => [[]]

/-- A value put under a name, below further names; what is no table on the way there stays. -/
def put (name : String) (d : Document) : List String → List (String × Document) → List (String × Document)
  | [], es => Fields.set es name d
  | k :: ks, es => match Fields.get? es k with
    | none => Fields.set es k (.table (put name d ks []))
    | some (.table t) => Fields.set es k (.table (put name d ks t))
    | some _ => es

/-- The value of one field of a section: text, or JSON where the field holds a list. -/
def fieldValue (group : String) (holdsList : Bool) (s : String) : Except Failure Document :=
  if holdsList && s ≠ "" then
    match Document.ofJson? s with
    | some d => .ok d
    | none => .error (.unparsableSetting group)
  else .ok (.text s)

/-- What the names of variables for the fields of a section start with. -/
def fieldStem (group : String) : String := stem ++ group ++ "__"

/-- The entries of a section with the value of a variable, if it is the variable of a field or of what is below one. -/
def takeVariable (group : String) (fields : List (String × Bool)) (es : List (String × Document)) (e : String × String) :
    Except Failure (List (String × Document)) :=
  if (fieldStem group).toList.isPrefixOf e.1.toList then
    let names := (pieces (e.1.toList.drop (fieldStem group).toList.length)).map String.ofList
    let name := names.getLast?.getD ""
    let on := names.dropLast
    (fieldValue group (on.isEmpty && (Fields.get? fields name).getD false) e.2).map fun d => put name d on es
  else .ok es

/-- The variables of single fields of a section, put together. -/
def ofFields (env : Environment) (group : String) (fields : List (String × Bool)) :
    Except Failure (List (String × Document)) :=
  env.foldlM (takeVariable group fields) []

/-- The entries with the names of fields in their usual case; of two that agree the later one counts. -/
def canonical (fields : List (String × Bool)) (es : List (String × Document)) : List (String × Document) :=
  Fields.ofList (es.map fun e => if Fields.has fields (lowered e.1) then (lowered e.1, e.2) else e)

/-- What variables say about a section. -/
def ofGroup (env : Environment) (group : String) (fields : List (String × Bool)) : Except Failure (Option Document) :=
  match Fields.get? env (stem ++ group) with
  | none => (ofFields env group fields).map fun es => if es.isEmpty then none else some (.table (canonical fields es))
  | some s => match Document.ofJson? s with
    | none => .error (.unparsableSetting group)
    | some (.table es) =>
      (ofFields env group fields).map fun on => some (.table (canonical fields (Document.overlayAll es on)))
    | some .null => .ok none
    | some d => .ok (some d)

/-- What variables say about a setting. -/
def ofSetting (env : Environment) (name : String) : Setting → Except Failure (Option Document)
  | .plain => .ok ((Fields.get? env (stem ++ name)).map .text)
  | .group fields => ofGroup env name fields

/-- The settings that variables give. -/
def ofEnvironment (env : Environment) : Except Failure Document := do
  let found ← schema.mapM fun s => (ofSetting (loweredAll env) s.1 s.2).map fun d => d.map fun d => (s.1, d)
  return .table (found.filterMap id)

/-- The settings in a configuration file; none when there is no such file. -/
def ofFile (t : FileTree) (path : Option Path) : Except Failure Document :=
  match path.bind fun p => (t.read? p).map fun os => (p, os) with
  | none => .ok (.table [])
  | some (p, os) => match FileTree.textOf os with
    | .error f => .error (.misuse .decoding f.text)
    | .ok s => match Document.ofToml s with
      | .ok d => .ok d
      | .error reason => .error (.invalidDocument (p.text t.root) reason)

end Lineage.Layer
