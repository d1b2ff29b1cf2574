import Lineage.Definition
import Mathlib.Logic.Relation

/-!
# Change — everything the program can do to a world

Whatever a program run does to a world, it does in steps of a few sorts. `Use` lists those that come from using values and
`Change` all of them, each with what has been checked before it is made; `Reaches` is any number of changes one after the
other. A law about whole runs is proved once for each sort of change and then holds of every run.

Classes and instances change by lines of the journal only. `Entry.Fits` says which line may be written in a world: a class
is built after an examination that it passed, and an attribute is set or removed where nothing refuses it.
-/

set_option autoImplicit false

namespace Lineage

/-- **What a line of the journal presupposes.** -/
def Entry.Fits (w : World) : Entry → Prop
  | .built i b => i = w.classes.length ∧ ∃ request u, (Definition.examine request).run u = (.ok b, w)
  | .made i c => i = w.instances.length ∧ c < w.classes.length
  | .assigned (.cls i) key x => ∃ c, w.class? i = some c ∧ Access.classSetRefusal? w c key x = none
  | .assigned (.inst i) key x => ∃ r, w.instances[i]? = some r ∧ Access.instanceSetRefusal? w i r key x = none
  | .erased (.cls i) key => ∃ c, w.class? i = some c ∧ Access.classEraseRefusal? c key = none
  | .erased (.inst i) key => ∃ r, w.instances[i]? = some r ∧ key ≠ "__class__" ∧ Fields.has r.attributes key = true

/-- **What using a value changes.** Attributes are read, set and removed, instances made, functions and outside objects
called; nothing of this touches a type system. -/
inductive Use (w : World) : World → Prop where
  | made {i c : Nat} (h : (Entry.made i c).Fits w) : Use w (w.commit (.made i c))
  | assigned (on : Holder) (key : String) (x : Value) (h : (Entry.assigned on key x).Fits w) :
      Use w (w.commit (.assigned on key x))
  | erased (on : Holder) (key : String) (h : (Entry.erased on key).Fits w) : Use w (w.commit (.erased on key))
  | foreignAttributes (i : Nat) (f : Fields → Fields) : Use w (w.modifyForeign i f)
  | cells (cs : List Cell) : Use w { w with cells := cs }
  | asked (log : List (Nat × Value)) : Use w { w with asked := w.asked ++ log }

/-- **One change of a world.** -/
inductive Change (w : World) : World → Prop where
  | use {w' : World} (h : Use w w') : Change w w'
  | built {i : Nat} {b : Birth} (h : (Entry.built i b).Fits w) : Change w (w.commit (.built i b))
  | behaviour (b : Behaviour) : Change w (w.addBehaviour b).1
  | foreign (f : ForeignRecord) : Change w (w.addForeign f).1
  | enumCount : Change w { w with enumCount := w.enumCount + 1 }
  /-- A name that is free is registered with its members. -/
  | enum {sys name : String} {s : System} (members : List (Value × Value)) (hs : w.system? sys = some s)
      (hn : Fields.has s.enums name = false) : Change w (Definition.registerEnum w sys name members).1
  | excluded (sys : String) (f : List String → List String) : Change w (w.changeExcluded sys f)
  /-- A system that has no enumerations yet. -/
  | system (name delimiter : String) (excluded : List String) (manager : Nat) :
      Change w { w with systems := Fields.set w.systems name ⟨delimiter, [], excluded, manager⟩ }
  | manager : Change w w.addManager.1
  | plugins (i : Nat) (f : Manager → Manager) : Change w (w.modifyManager i f)
  | events (log : List Event) : Change w { w with events := log }
  | records (log : List Record) : Change w { w with records := w.records ++ log }

/-- Any number of changes. -/
def Reaches : World → World → Prop := Relation.ReflTransGen Change

end Lineage
