import Lineage.Definition
import Lineage.Proofs.Separation.Likeness

/-!
# Records — alike classes, instances, functions and systems

Likeness of values carries over to everything that holds values. Tables are alike when they have the same keys in the
same order and alike values (`Tabled`); a class, an instance, a function or an outside object is alike another
when its parts are (`ThingLike`). Alike classes have the same type name and the same membership and alike members, and
composing alike classes gives alike classes (`BirthLike.classOf`).

Systems and managers are told apart by their names and numbers, which are the same on both sides, so their delimiters,
excluded keys and registered names are equal outright (`SystemLike`).
-/

set_option autoImplicit false

namespace Lineage

/-! ## Tables -/

section Tables

variable {α β : Type} {R : α → β → Prop}

/-- Two tables with the same keys in the same order, and related values. -/
def Tabled (R : α → β → Prop) : List (String × α) → List (String × β) → Prop :=
  List.Forall₂ fun e f => e.1 = f.1 ∧ R e.2 f.2

variable {fs : List (String × α)} {gs : List (String × β)}

theorem Tabled.imp {S : α → β → Prop} (hRS : ∀ {x y}, R x y → S x y) (h : Tabled R fs gs) : Tabled S fs gs :=
  List.Forall₂.imp (fun _ _ h => ⟨h.1, hRS h.2⟩) h

theorem Tabled.keys_eq (h : Tabled R fs gs) : fs.map (·.1) = gs.map (·.1) := by
  induction h with
  | nil => rfl
  | cons h _ ih => rw [List.map_cons, List.map_cons, h.1, ih]

theorem Tabled.get? (h : Tabled R fs gs) (key : String) : Option.Rel R (Fields.get? fs key) (Fields.get? gs key) := by
  induction h with
  | nil => exact .none
  | @cons e f fs gs h _ ih =>
    unfold Fields.get?
    rw [List.find?_cons, List.find?_cons, h.1]
    cases decide (f.1 = key) with
    | true => exact .some h.2
    | false => exact ih

theorem Tabled.has_eq (h : Tabled R fs gs) (key : String) : Fields.has fs key = Fields.has gs key := by
  induction h with
  | nil => rfl
  | cons h _ ih =>
    unfold Fields.has at ih ⊢
    rw [List.any_cons, List.any_cons, h.1, ih]

theorem Tabled.set (h : Tabled R fs gs) (key : String) {x : α} {y : β} (hxy : R x y) :
    Tabled R (Fields.set fs key x) (Fields.set gs key y) := by
  induction h with
  | nil => exact .cons ⟨rfl, hxy⟩ .nil
  | @cons e f fs gs h r ih =>
    obtain ⟨k, a⟩ := e
    obtain ⟨l, b⟩ := f
    obtain ⟨rfl, hab⟩ : k = l ∧ R a b := h
    unfold Fields.set
    split
    · exact .cons ⟨rfl, hxy⟩ r
    · exact .cons ⟨rfl, hab⟩ ih

theorem Tabled.filter (h : Tabled R fs gs) (p : String → Bool) :
    Tabled R (fs.filter fun e => p e.1) (gs.filter fun e => p e.1) := by
  induction h with
  | nil => exact .nil
  | @cons e f fs gs h r ih =>
    rw [List.filter_cons, List.filter_cons, h.1]
    split
    · exact .cons h ih
    · exact ih

theorem Tabled.erase (h : Tabled R fs gs) (key : String) : Tabled R (Fields.erase fs key) (Fields.erase gs key) :=
  h.filter (· ≠ key)

theorem Tabled.append (h : Tabled R fs gs) {fs' : List (String × α)} {gs' : List (String × β)}
    (h' : Tabled R fs' gs') : Tabled R (fs ++ fs') (gs ++ gs') :=
  List.rel_append h h'

theorem Tabled.update (h : Tabled R fs gs) {fs' : List (String × α)} {gs' : List (String × β)}
    (h' : Tabled R fs' gs') : Tabled R (Fields.update fs fs') (Fields.update gs gs') := by
  unfold Fields.update
  induction h' generalizing fs gs with
  | nil => exact h
  | @cons e f fs' gs' he _ ih =>
    rw [List.foldl_cons, List.foldl_cons, he.1]
    exact ih (h.set f.1 he.2)

end Tables

variable {s t : Matching}

/-- Alike tables of values. -/
abbrev FieldsLike (s : Matching) : Fields → Fields → Prop := Tabled (Like s)

theorem FieldsLike.mono (hst : s ≤ t) {fs gs : Fields} (h : FieldsLike s fs gs) : FieldsLike t fs gs :=
  h.imp (Like.mono hst)

/-- Alike tables are alike as dictionaries. -/
theorem FieldsLike.dictOf {fs gs : Fields} (h : FieldsLike s fs gs) : Like s (Access.dictOf fs) (Access.dictOf gs) := by
  refine .dict ?_
  induction h with
  | nil => exact .nil
  | cons h _ ih =>
    rw [List.map_cons, List.map_cons, h.1]
    exact .cons (.ofString _) h.2 ih

/-! ## Failures -/

/-- The value that a cause carries, if it carries one. -/
def Failure.carried? : Failure → Option Value
  | argument v _ _ _ _ | typeMismatch v _ _ _ _ | enumKey _ _ v _ => some v
  | _ => none

/-- Causes that differ in the numbers of what they carry only. -/
inductive FailureLike (s : Matching) : Failure → Failure → Prop where
  | argument {v v' : Value} (h : Like s v v') (shown expected actual : String) (site : Option Frame) :
    FailureLike s (.argument v shown expected actual site) (.argument v' shown expected actual site)
  | typeMismatch {v v' : Value} (h : Like s v v') (label expected actual : String) (site : Option Frame) :
    FailureLike s (.typeMismatch v label expected actual site) (.typeMismatch v' label expected actual site)
  | enumKey (touch : EnumTouch) (name : String) {v v' : Value} (h : Like s v v') (shown : String) :
    FailureLike s (.enumKey touch name v shown) (.enumKey touch name v' shown)
  | plain (e : Failure) (h : e.carried? = none) : FailureLike s e e

namespace FailureLike

variable {e e' : Failure}

theorem mono (hst : s ≤ t) (h : FailureLike s e e') : FailureLike t e e' := by
  cases h with
  | argument h a b c d => exact .argument (h.mono hst) a b c d
  | typeMismatch h a b c d => exact .typeMismatch (h.mono hst) a b c d
  | enumKey a b h c => exact .enumKey a b (h.mono hst) c
  | plain _ h => exact .plain _ h

theorem kind_eq (h : FailureLike s e e') : e.kind = e'.kind := by
  cases h <;> rfl

/-- **Alike causes have the same wording.** -/
theorem message_eq (h : FailureLike s e e') : e.message = e'.message := by
  cases h with
  | enumKey touch _ _ _ => cases touch <;> rfl
  | _ => rfl

/-- **Alike causes are blamed on the same place.** -/
theorem place?_eq (h : FailureLike s e e') : e.place? = e'.place? := by
  cases h <;> rfl

end FailureLike

/-! ## Things -/

/-- Alike classes. -/
structure ClassLike (s : Matching) (c c' : ClassRecord) : Prop where
  label : c.label = c'.label
  qualifiedName : c.qualifiedName = c'.qualifiedName
  module : Like s c.module c'.module
  doc : Like s c.doc c'.doc
  body : FieldsLike s c.body c'.body

/-- Alike instances: of matched classes, with alike attributes. -/
structure InstanceLike (s : Matching) (r r' : InstanceRecord) : Prop where
  cls : s .cls r.cls r'.cls
  attributes : FieldsLike s r.attributes r'.attributes

/-- Functions that do alike things. -/
inductive BehaviourLike (s : Matching) : Behaviour → Behaviour → Prop where
  | base (m : BaseMethod) : BehaviourLike s (.base m) (.base m)
  | returns {v v' : Value} (h : Like s v v') : BehaviourLike s (.returns v) (.returns v')
  | raises (text : String) : BehaviourLike s (.raises text) (.raises text)
  | announces (lead : String) : BehaviourLike s (.announces lead) (.announces lead)
  | assigns (key : String) : BehaviourLike s (.assigns key) (.assigns key)
  | reads (key : String) : BehaviourLike s (.reads key) (.reads key)
  | forwards (method : String) : BehaviourLike s (.forwards method) (.forwards method)
  | isOneOf {ns ns' : List Value} (h : LikeAll s ns ns') : BehaviourLike s (.isOneOf ns) (.isOneOf ns')
  | itself : BehaviourLike s .itself .itself
  | makes : BehaviourLike s .makes .makes
  | namesClass : BehaviourLike s .namesClass .namesClass
  | constant {v v' : Value} (h : Like s v v') : BehaviourLike s (.constant v) (.constant v')
  | probes {i j : Nat} (h : s .cls i j) : BehaviourLike s (.probes i) (.probes j)

/-- Capabilities that answer alike. -/
inductive CapabilityLike (s : Matching) : Capability → Capability → Prop where
  | absent : CapabilityLike s .absent .absent
  | returns {v v' : Value} (h : Like s v v') : CapabilityLike s (.returns v) (.returns v')
  | raises (text : String) : CapabilityLike s (.raises text) (.raises text)
  | holds {v v' : Value} (h : Like s v v') : CapabilityLike s (.holds v) (.holds v')
  | readRaises (text : String) : CapabilityLike s (.readRaises text) (.readRaises text)
  | readMissing (text : String) : CapabilityLike s (.readMissing text) (.readMissing text)
  | names {ns ns' : List Value} (h : LikeAll s ns ns') : CapabilityLike s (.names ns) (.names ns')

/-- Alike outside objects. -/
structure ForeignLike (s : Matching) (r r' : ForeignRecord) : Prop where
  type : CapabilityLike s r.type r'.type
  typeOf : CapabilityLike s r.typeOf r'.typeOf
  attributes : FieldsLike s r.attributes r'.attributes

/-- Cells with alike contents. -/
inductive CellLike (s : Matching) : Cell → Cell → Prop where
  | list {xs ys : List Value} (h : LikeAll s xs ys) : CellLike s (.list xs) (.list ys)
  | dict {es fs : List (Value × Value)} (h : LikeEntries s es fs) : CellLike s (.dict es) (.dict fs)

/-- What a number stands for at a moment. An enumeration has all its parts in its value. -/
inductive Thing where
  | cls (c : ClassRecord)
  | inst (r : InstanceRecord)
  | function (b : Behaviour)
  | foreign (r : ForeignRecord)
  | cell (c : Cell)
  | enum

/-- Alike things. -/
inductive ThingLike (s : Matching) : Thing → Thing → Prop where
  | cls {c c' : ClassRecord} (h : ClassLike s c c') : ThingLike s (.cls c) (.cls c')
  | inst {r r' : InstanceRecord} (h : InstanceLike s r r') : ThingLike s (.inst r) (.inst r')
  | function {b b' : Behaviour} (h : BehaviourLike s b b') : ThingLike s (.function b) (.function b')
  | foreign {r r' : ForeignRecord} (h : ForeignLike s r r') : ThingLike s (.foreign r) (.foreign r')
  | cell {c c' : Cell} (h : CellLike s c c') : ThingLike s (.cell c) (.cell c')
  | enum : ThingLike s .enum .enum

theorem ClassLike.mono (hst : s ≤ t) {c c' : ClassRecord} (h : ClassLike s c c') : ClassLike t c c' :=
  ⟨h.label, h.qualifiedName, h.module.mono hst, h.doc.mono hst, h.body.mono hst⟩

theorem InstanceLike.mono (hst : s ≤ t) {r r' : InstanceRecord} (h : InstanceLike s r r') : InstanceLike t r r' :=
  ⟨hst _ _ _ h.cls, h.attributes.mono hst⟩

theorem BehaviourLike.mono (hst : s ≤ t) {b b' : Behaviour} (h : BehaviourLike s b b') : BehaviourLike t b b' := by
  cases h with
  | returns h => exact .returns (h.mono hst)
  | isOneOf h => exact .isOneOf (h.mono hst)
  | constant h => exact .constant (h.mono hst)
  | probes h => exact .probes (hst _ _ _ h)
  | _ => constructor

theorem BehaviourLike.binding_eq {b b' : Behaviour} (h : BehaviourLike s b b') : b.binding = b'.binding := by
  cases h <;> rfl

theorem CapabilityLike.mono (hst : s ≤ t) {c c' : Capability} (h : CapabilityLike s c c') : CapabilityLike t c c' := by
  cases h with
  | returns h => exact .returns (h.mono hst)
  | holds h => exact .holds (h.mono hst)
  | names h => exact .names (h.mono hst)
  | _ => constructor

theorem ForeignLike.mono (hst : s ≤ t) {r r' : ForeignRecord} (h : ForeignLike s r r') : ForeignLike t r r' :=
  ⟨h.type.mono hst, h.typeOf.mono hst, h.attributes.mono hst⟩

theorem CellLike.mono (hst : s ≤ t) {c c' : Cell} (h : CellLike s c c') : CellLike t c c' := by
  cases h with
  | list h => exact .list (h.mono hst)
  | dict h => exact .dict (h.mono hst)

theorem ThingLike.mono (hst : s ≤ t) {x y : Thing} (h : ThingLike s x y) : ThingLike t x y := by
  cases h with
  | cls h => exact .cls (h.mono hst)
  | inst h => exact .inst (h.mono hst)
  | function h => exact .function (h.mono hst)
  | foreign h => exact .foreign (h.mono hst)
  | cell h => exact .cell (h.mono hst)
  | enum => exact .enum

/-! ## Classes and instances -/

theorem LikeAll.strings_eq {xs ys : List Value} (h : LikeAll s xs ys) :
    xs.filterMap Value.string? = ys.filterMap Value.string? := by
  induction xs generalizing ys with
  | nil => cases h; rfl
  | cons x xs ih =>
    cases h with
    | cons h r => rw [List.filterMap_cons, List.filterMap_cons, h.string?, ih r]

/-- Alike sets of texts hold the same texts. -/
theorem Like.namesIn_eq {v v' : Value} (h : Like s v v') : ClassRecord.namesIn v = ClassRecord.namesIn v' := by
  cases h with
  | set _ h =>
    exact h.strings_eq
  | _ => rfl

namespace ClassLike

variable {c c' : ClassRecord}

/-- **Alike classes have the same type name.** -/
theorem typeName_eq (h : ClassLike s c c') : c.typeName = c'.typeName := by
  unfold ClassRecord.typeName
  obtain ⟨hc, hc'⟩ | ⟨v, v', hc, hc', hv⟩ := rel_cases (h.body.get? typeNameKey)
  · rw [hc, hc']
  · rw [hc, hc', Option.bind_some, Option.bind_some, hv.string?]

/-- **Alike classes have the same membership.** -/
theorem membership_eq (h : ClassLike s c c') : c.membership = c'.membership := by
  unfold ClassRecord.membership
  obtain ⟨hc, hc'⟩ | ⟨v, v', hc, hc', hv⟩ := rel_cases (h.body.get? membershipKey)
  · rw [hc, hc']
  · rw [hc, hc']
    exact hv.namesIn_eq

/-- **Alike classes have alike members: the same keys in the same order, with alike values.** -/
theorem fields (h : ClassLike s c c') : FieldsLike s c.fields c'.fields :=
  h.body.filter fun k => !bookkeepingKeys.contains k && !reservedKeys.contains k

theorem classHolds? (h : ClassLike s c c') (key : String) :
    Option.Rel (Like s) (Access.classHolds? c key) (Access.classHolds? c' key) := by
  unfold Access.classHolds?
  split
  · exact .some h.module
  · split
    · exact .some h.doc
    · exact h.body.get? key

theorem rawRepr_eq (h : ClassLike s c c') : Access.rawRepr c = Access.rawRepr c' := by
  have hm := h.module
  unfold Access.rawRepr
  rw [h.label, h.qualifiedName]
  cases hc : c.module with
  | text m =>
    rw [hc] at hm
    generalize c'.module = m' at hm
    cases hm
    rfl
  | _ =>
    rw [hc] at hm
    generalize c'.module = m' at hm
    cases hm <;> rfl

theorem assign (h : ClassLike s c c') (key : String) {v v' : Value} (hv : Like s v v') :
    ClassLike s (c.assign key v) (c'.assign key v') := by
  unfold ClassRecord.assign
  rw [hv.string?, h.label, h.qualifiedName]
  split
  · exact ⟨rfl, rfl, h.module, h.doc, h.body⟩
  split
  · exact ⟨rfl, rfl, h.module, h.doc, h.body⟩
  split
  · exact ⟨rfl, rfl, hv, h.doc, h.body⟩
  split
  · exact ⟨rfl, rfl, h.module, hv, h.body⟩
  · exact ⟨rfl, rfl, h.module, h.doc, h.body.set key hv⟩

theorem erase (h : ClassLike s c c') (key : String) : ClassLike s (c.erase key) (c'.erase key) :=
  ⟨h.label, h.qualifiedName, h.module, h.doc, h.body.erase key⟩

end ClassLike

namespace InstanceLike

variable {r r' : InstanceRecord}

theorem assign (h : InstanceLike s r r') (key : String) {v v' : Value} (hv : Like s v v') :
    InstanceLike s (r.assign key v) (r'.assign key v') := by
  unfold InstanceRecord.assign
  split
  · cases hv with
    | cls hv => exact ⟨hv, h.attributes⟩
    | _ => exact h
  · exact ⟨h.cls, h.attributes.set key hv⟩

theorem erase (h : InstanceLike s r r') (key : String) : InstanceLike s (r.erase key) (r'.erase key) :=
  ⟨h.cls, h.attributes.erase key⟩

end InstanceLike

/-! ## New classes -/

/-- Alike births: everything that a new class is built from. -/
structure BirthLike (s : Matching) (b b' : Birth) : Prop where
  name : b.name = b'.name
  qualifiedName : b.qualifiedName = b'.qualifiedName
  module : Like s b.module b'.module
  doc : Like s b.doc b'.doc
  excluded : b.excluded = b'.excluded
  parents : List.Forall₂ (s .cls) b.parents b'.parents
  own : FieldsLike s b.own b'.own
  manager : b.manager = b'.manager

theorem BirthLike.mono (hst : s ≤ t) {b b' : Birth} (h : BirthLike s b b') : BirthLike t b b' :=
  { h with
    module := h.module.mono hst
    doc := h.doc.mono hst
    parents := h.parents.imp fun _ _ => hst _ _ _
    own := h.own.mono hst }

/-- Members composed of alike members are alike. -/
theorem FieldsLike.compose {ps ps' : List Fields} (h : List.Forall₂ (FieldsLike s) ps ps') (excluded : List String)
    {own own' : Fields} (hown : FieldsLike s own own') :
    FieldsLike s (Composition.compose excluded ps own) (Composition.compose excluded ps' own') := by
  refine Tabled.update ?_ hown
  have fold {fs gs : Fields} (hfg : FieldsLike s fs gs) :
      FieldsLike s (ps.foldl (fun t p => Fields.update t (Composition.inherited excluded p)) fs)
        (ps'.foldl (fun t p => Fields.update t (Composition.inherited excluded p)) gs) := by
    induction h generalizing fs gs with
    | nil => exact hfg
    | cons h _ ih => exact ih (hfg.update (h.filter (Composition.isInherited excluded)))
  exact fold .nil

theorem FieldsLike.withHash {fs gs : Fields} (h : FieldsLike s fs gs) :
    FieldsLike s (Composition.withHash fs) (Composition.withHash gs) := by
  unfold Composition.withHash
  rw [h.has_eq, h.has_eq]
  split
  · exact h.append (.cons ⟨rfl, .nil⟩ .nil)
  · exact h

/-- Alike sets of texts. -/
theorem LikeAll.ofStrings (ns : List String) : LikeAll s (ns.map .ofString) (ns.map .ofString) := by
  induction ns with
  | nil => exact .nil
  | cons n ns ih => exact .cons (.ofString n) ih

/-- **Alike births from alike parents give alike classes.** -/
theorem BirthLike.classOf {b b' : Birth} (h : BirthLike s b b') {ps ps' : List ClassRecord}
    (hp : List.Forall₂ (ClassLike s) ps ps') : ClassLike s (Composition.classOf b ps) (Composition.classOf b' ps') := by
  have hbodies : List.Forall₂ (FieldsLike s) (ps.map (·.body)) (ps'.map (·.body)) := by
    induction hp with
    | nil => exact .nil
    | cons h _ ih => exact .cons h.body ih
  have hnames : ps.map (·.membership) = ps'.map (·.membership) := by
    clear hbodies
    induction hp with
    | nil => rfl
    | cons h _ ih => rw [List.map_cons, List.map_cons, h.membership_eq, ih]
  refine ⟨h.name, h.qualifiedName, h.module, h.doc, FieldsLike.withHash ?_⟩
  unfold Composition.reserve
  rw [h.name, hnames, h.excluded]
  exact ((FieldsLike.compose hbodies b'.excluded h.own).set _ (.ofString _)).set _ (.set _ (.ofStrings _))

/-! ## Plugins, managers and systems -/

/-- What a client of a world works with: the name of its type system and the number of its plugin manager. -/
structure Client where
  system : String
  manager : Nat

variable {c : Client}

/-- Alike plugins' doings. A plugin that changes the main system may only be held by a client whose system that is. -/
inductive KindLike (c : Client) (s : Matching) : PluginKind → PluginKind → Prop where
  | plain : KindLike c s .plain .plain
  | failOn (hook : HookName) (text : String) : KindLike c s (.failOn hook text) (.failOn hook text)
  | inject (field : String) {v v' : Value} (h : Like s v v') : KindLike c s (.inject field v) (.inject field v')
  | exclude (field : String) (h : c.system = Definition.mainSystem) : KindLike c s (.exclude field) (.exclude field)
  | defineEnum (h : c.system = Definition.mainSystem) : KindLike c s .defineEnum .defineEnum
  | defineClass (h : c.system = Definition.mainSystem) : KindLike c s .defineClass .defineClass

/-- Alike plugins. -/
structure PluginLike (c : Client) (s : Matching) (p p' : Plugin) : Prop where
  id : p.id = p'.id
  serial : p.serial = p'.serial
  className : p.className = p'.className
  isModule : p.isModule = p'.isModule
  hooks : p.hooks = p'.hooks
  kind : KindLike c s p.kind p'.kind

/-- Alike managers. -/
structure ManagerLike (c : Client) (s : Matching) (m m' : Manager) : Prop where
  plugins : Tabled (PluginLike c s) m.plugins m'.plugins
  loaded : m.loaded = m'.loaded

/-- Alike systems: the same delimiter, names, excluded keys and manager, and alike enumerations. -/
structure SystemLike (c : Client) (s : Matching) (t t' : System) : Prop where
  delimiter : t.delimiter = t'.delimiter
  enums : FieldsLike s t.enums t'.enums
  excluded : t.excluded = t'.excluded
  manager : t.manager = c.manager
  manager' : t'.manager = c.manager

theorem KindLike.mono (hst : s ≤ t) {p p' : PluginKind} (h : KindLike c s p p') : KindLike c t p p' := by
  cases h with
  | inject f h => exact .inject f (h.mono hst)
  | _ => constructor <;> assumption

theorem PluginLike.mono (hst : s ≤ t) {p p' : Plugin} (h : PluginLike c s p p') : PluginLike c t p p' :=
  ⟨h.id, h.serial, h.className, h.isModule, h.hooks, h.kind.mono hst⟩

theorem ManagerLike.mono (hst : s ≤ t) {m m' : Manager} (h : ManagerLike c s m m') : ManagerLike c t m m' :=
  ⟨h.plugins.imp (PluginLike.mono hst), h.loaded⟩

theorem SystemLike.mono (hst : s ≤ t) {u u' : System} (h : SystemLike c s u u') : SystemLike c t u u' :=
  ⟨h.delimiter, h.enums.mono hst, h.excluded, h.manager, h.manager'⟩

end Lineage
