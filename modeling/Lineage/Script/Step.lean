import Lineage.Introspection
import Lineage.Script.Term
import Lineage.Sections

/-!
# Step — one thing that a script does

A step does one thing to one type system, from a place on a call stack, and may give its result a name. The terms in it
are evaluated when the step is run.
-/

set_option autoImplicit false

namespace Lineage.Script

/-- What a described plugin does besides writing to the log. -/
inductive Effect where
  | plain (kind : PluginKind)
  | inject (field : String) (t : Term)

/-- The description of a plugin. -/
structure PluginTerm where
  id : String
  className : String
  isModule : Bool
  hooks : List HookName
  effect : Effect

/-- An advertised plugin: its description, or the error that loading it raises. -/
structure Advert where
  name : String
  group : String
  plugin : Except String PluginTerm

/-- The ways to copy an enumeration: the members themselves, or copies of them. -/
inductive CopyDepth where
  | shallow
  | deep

/-- What a step does. -/
inductive Deed where
  | newSystem (types plugins : Option Document) (share : Option String) (installed : List Advert)
  | say (value : Term)
  | asked (value : Term)
  | defineClass (name : Term) (parents : List Term) (module : Option Term) (depth : Int)
  | statement (name : Term) (bases : List Term) (body : List (Term × Term)) (probe : Option String)
  | build (name : Term) (parents : List Term) (excluded : Option (List Term)) (body : List (Term × Term)) (depth : Int)
  | classInfo (cls : Term)
  | fields (cls : Term)
  | writeField (cls key value : Term)
  | construct (cls : Term) (args : List Term)
  | call (on method : Term) (args : List Term)
  | repr (value : Term)
  | debugString (value : Term)
  | same (a b : Term)
  | equal (a b : Term)
  | hash (value : Term)
  | read (on key : Term) (absent : Option Term)
  | has (on key : Term)
  | write (on key value : Term)
  | erase (on key : Term)
  | append (on value : Term)
  | typeName (value : Term)
  | typeOf (value expression : Term)
  | findMatch (value expression : Term)
  | assertType (value expression : Term) (label : Term) (depth : Int) (direct : Bool)
  | assertArgument (index value expression : Term) (depth : Option Int) (direct : Bool)
  | defineEnum (name members : Term)
  | readItem (on key : Term)
  | writeItem (on key value : Term)
  | eraseItem (on key : Term)
  | hasItem (on key : Term)
  | enumInfo (on : Term)
  | copyEnum (on : Term) (depth : CopyDepth)
  | registry
  | registryGet (name : Term)
  | registryHas (name : Term)
  | containsValue (name value : Term)
  | exclude (add discard : List String)
  | register (plugin : PluginTerm ⊕ String) (name : Option String)
  | unregister (id : String)
  | plugins
  | discover (installed : List Advert)
  | announceClass (cls : Term) (parents : List Term)
  | announceEnum (name members : Term)
  | takeLog
  | addModule (name : String) (exports : List (String × Term))
  | describe (raw : String)
  | check (raw expression : String) (enums : List String)
  | inspect (module : String)

/-- A deed with the system it is done to, the place it is done from, and the name its result gets. -/
structure Step where
  sys : String
  saveAs : Option String
  stack : CallStack
  deed : Deed

/-- What a step answers: a document in which values may stand. -/
inductive Answer where
  | value (v : Value)
  | document (d : Document)
  | list (items : List Answer)
  | record (entries : List (String × Answer))

namespace Answer

/-- A boolean. -/
def bool (b : Bool) : Answer := document (.bool b)

/-- A text. -/
def text (s : String) : Answer := document (.text s)

/-- Nothing to tell. -/
def nothing : Answer := document .null

/-- The value that an answer is, for a name to stand for. -/
def toValue : Answer → Value
  | value v => v
  | document (.bool b) => .bool b
  | document (.text s) => .ofString s
  | _ => .nil

end Answer

end Lineage.Script
