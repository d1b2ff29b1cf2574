import Lineage.Proofs.Separation.Looking

/-!
# Using — reading and writing attributes in two worlds

Reading an attribute runs abreast (`Access.readWith_abreast`) if what it calls does, and so do setting and removing one: what
is refused on one side is refused on the other for the same reason, and what is changed is changed alike.
-/

set_option autoImplicit false

namespace Lineage

/-- A handler whose uses run abreast in worlds that look alike to a client. -/
structure Handler.RunsAbreast (c : Client) (h : Handler) : Prop where
  read : ∀ {s : Matching} {w w' : World} {v v' : Value}, Together c s w w' → Like s v v' → ∀ key : String,
    Abreast c s w w' Like (h.read v key) (h.read v' key)
  call : ∀ {s : Matching} {w w' : World} {f f' : Value} {xs ys : List Value}, Together c s w w' → Like s f f' →
    LikeAll s xs ys → Abreast c s w w' Like (h.call f xs) (h.call f' ys)
  repr : ∀ {s : Matching} {w w' : World} {v v' : Value}, Together c s w w' → Like s v v' →
    Abreast c s w w' Same (h.repr v) (h.repr v')

namespace Access

/-- The answer `e` if a class holds a property, and `p` if it holds anything else or nothing. -/
def unlessProperty (held : Option Value) (e p : Option Failure) : Option Failure :=
  match held with
  | some (.property _) => e
  | _ => p

variable {c : Client} {s : Matching} {w w' : World} {v v' x x' : Value} {i j : Nat} {h : Handler}

/-! ## Keys -/

/-- An instance can be a key in both worlds or in neither. -/
theorem instanceUnhashable?_eq (hw : Together c s w w') (hij : s .inst i j) :
    instanceUnhashable? w i = instanceUnhashable? w' j := by
  obtain ⟨r, r', hr, hr', hrr⟩ := hw.inst hij
  obtain ⟨k, k', hk, hk', hkk⟩ := hw.cls hrr.cls
  simp only [instanceUnhashable?, World.classOf?, hr, hr', Option.map_some, Option.bind_some, hk, hk', hkk.label]
  obtain ⟨hf, hf'⟩ | ⟨f, f', hf, hf', hff⟩ := rel_cases (hkk.body.get? "__hash__") <;> rw [hf, hf']
  cases hff <;> rfl

mutual

/-- Alike values can be keys at the same time. -/
theorem unhashable?_eq (hw : Together c s w w') {v v' : Value} (hv : Like s v v') : unhashable? w v = unhashable? w' v' := by
  have hplain := hv.unhashable?
  cases hv with
  | inst hij => exact instanceUnhashable?_eq hw hij
  | tuple h => exact unhashableIn_eq hw h
  | _ => exact hplain

theorem unhashableIn_eq (hw : Together c s w w') {xs ys : List Value} (h : LikeAll s xs ys) :
    unhashable?.unhashableIn w xs = unhashable?.unhashableIn w' ys := by
  cases h with
  | nil => rfl
  | cons h r =>
    unfold unhashable?.unhashableIn
    rw [unhashable?_eq hw h, unhashableIn_eq hw r]

end

/-! ## Reading -/

variable (hw : Together c s w w') (hh : h.RunsAbreast c)

include hw

section
include hh

theorem readInstance_abreast (hij : s .inst i j) (key : String) :
    Abreast c s w w' Like (readInstance h i key) (readInstance h j key) := by
  obtain ⟨r, r', hr, hr', hrr⟩ := hw.inst hij
  obtain ⟨k, k', hk, hk', hkk⟩ := hw.cls hrr.cls
  unfold readInstance
  refine .get_bind ?_
  simp only [hr, hr', hk, hk']
  obtain ⟨hf, hf'⟩ | ⟨f, f', hf, hf', hff⟩ := rel_cases (hkk.classHolds? key) <;>
    obtain ⟨ho, ho'⟩ | ⟨o, o', ho, ho', hoo⟩ := rel_cases (hrr.attributes.get? key) <;>
    simp only [hf, hf', ho, ho']
  · split
    · exact .pure hw (.cls hrr.cls)
    split
    · exact .pure hw hrr.attributes.dictOf
    split
    · exact .pure hw (.builtIn key (.inst hij))
    · exact .fail_eq hw (by rw [hkk.label]) rfl
  · exact .pure hw hoo
  · have hbound := hw.named.bind (.inst hij) hrr.cls hff
    cases hff with
    | property hp => exact hh.call hw (.method (.inst hij) hp) .nil
    | _ => exact .pure hw hbound
  · cases hff with
    | property hp => exact hh.call hw (.method (.inst hij) hp) .nil
    | _ => exact .pure hw hoo

end

theorem readClass_abreast (hij : s .cls i j) (key : String) :
    Abreast c s w w' Like (readClass i key) (readClass j key) := by
  obtain ⟨k, k', hk, hk', hkk⟩ := hw.cls hij
  unfold readClass
  refine .get_bind ?_
  simp only [hk, hk']
  split
  · exact .pure hw (hkk.typeName_eq ▸ .ofString _)
  split
  · exact .pure hw (hkk.membership_eq ▸ .set true (LikeAll.ofStrings _))
  split
  · exact .pure hw hkk.fields.dictOf
  split
  · exact .pure hw (hkk.label ▸ .ofString _)
  split
  · exact .pure hw (hkk.qualifiedName ▸ .ofString _)
  obtain ⟨hf, hf'⟩ | ⟨f, f', hf, hf', hff⟩ := rel_cases (hkk.classHolds? key) <;> simp only [hf, hf']
  · split
    · exact .pure hw (.specimen _)
    split
    · exact .pure hw (.builtIn key (.cls hij))
    · exact .fail_eq hw (by rw [hkk.label]) rfl
  · cases hff with
    | function hp =>
      dsimp only
      rw [hw.named.function hp]
      refine .pure hw ?_
      split
      · exact .method (.cls hij) hp
      · exact .function hp
    | _ => exact .pure hw (by constructor <;> assumption)

omit hw in
theorem memberOf?_like (hs : s.OneToOne) {es fs : List (Value × Value)} (hes : LikeEntries s es fs) {key key' : Value}
    (hk : Like s key key') : Option.Rel (Like s) (memberOf? es key) (memberOf? fs key') := by
  unfold memberOf?
  obtain ⟨he, hf⟩ | ⟨e, f, he, hf, hef⟩ := rel_cases (hes.find? fun h _ => h.equalInside hs hk)
  · rw [he, hf]
    exact .none
  · rw [he, hf]
    exact .some hef.2

section
include hh

theorem shownWith_abreast (hv : Like s v v') : Abreast c s w w' Same (shownWith h v) (shownWith h v') := by
  have hplain := hh.repr hw hv
  cases hv with
  | text t => exact .pure hw rfl
  | number n =>
    unfold shownWith
    dsimp only
    split
    · exact .fail hw _ rfl
    · exact .pure hw rfl
  | foreign b e hij =>
    cases b with
    | text => exact .pure hw rfl
    | _ => exact hplain
  | _ => exact hplain

theorem refuseWith_abreast (touch : EnumTouch) (name : String) (hv : Like s v v') :
    Abreast c s w w' Like (refuseWith h touch name v) (refuseWith h touch name v') :=
  (shownWith_abreast hw hh hv).bind fun ho hu ht => ht ▸ .throw hu (.enumKey touch name (hv.mono ho.le) _)

theorem readItemWith_abreast (name : String) {es fs : List (Value × Value)} (hes : LikeEntries s es fs)
    (hv : Like s v v') : Abreast c s w w' Like (readItemWith h name es v) (readItemWith h name fs v') := by
  unfold readItemWith
  refine .get_bind ?_
  rw [unhashable?_eq hw hv]
  split
  · exact .fail hw _ rfl
  · obtain ⟨hm, hm'⟩ | ⟨m, m', hm, hm', hmm⟩ := rel_cases (memberOf?_like hw.oneToOne hes hv) <;> rw [hm, hm']
    · exact refuseWith_abreast hw hh .read name hv
    · exact .pure hw hmm

theorem getItemWith_abreast (name : String) {es fs : List (Value × Value)} (hes : LikeEntries s es fs)
    (hv : Like s v v') (hx : Like s x x') :
    Abreast c s w w' Like (getItemWith h name es v x) (getItemWith h name fs v' x') := by
  refine .tryCatch (readItemWith_abreast hw hh name hes hv) fun ho hu he => ?_
  rw [he.kind_eq]
  split
  · exact .pure hu (hx.mono ho.le)
  · exact .throw hu he

theorem readEnum_abreast (hij : s .enum i j) (name : String) {es fs : List (Value × Value)} (hes : LikeEntries s es fs)
    (key : String) : Abreast c s w w' Like (readEnum h i name es key) (readEnum h j name fs key) := by
  unfold readEnum
  split
  · exact .pure hw (.ofString name)
  split
  · exact .pure hw (.dict hes)
  split
  · exact .pure hw .nil
  split
  · exact .pure hw (.builtIn key (.enum name hij hes))
  split
  · exact .fail hw _ rfl
  · exact readItemWith_abreast hw hh name hes (.ofString key)

end

theorem readCapability_abreast (hv : Like s v v') {d d' : Capability} (hd : CapabilityLike s d d') {o o' : Option Value}
    (ho : Option.Rel (Like s) o o') (key : String) :
    Abreast c s w w' Like (readCapability v d o key) (readCapability v' d' o' key) := by
  cases hd with
  | readRaises t => exact .fail hw _ rfl
  | readMissing t => exact .fail hw _ rfl
  | absent =>
    cases ho with
    | none => exact .fail hw _ rfl
    | some ho => exact .pure hw ho
  | holds hx =>
    cases ho with
    | none => exact .pure hw hx
    | some ho => exact .pure hw ho
  | _ =>
    cases ho with
    | none => exact .pure hw (.builtIn key hv)
    | some ho => exact .pure hw ho

theorem readForeign_abreast (hv : Like s v v') (hij : s .foreign i j) (key : String) :
    Abreast c s w w' Like (readForeign v i key) (readForeign v' j key) := by
  obtain ⟨r, r', hr, hr', hrr⟩ := hw.foreign hij
  have hown := hrr.attributes.get? key
  unfold readForeign
  refine .get_bind ?_
  simp only [hr, hr']
  split
  · exact readCapability_abreast hw hv hrr.type hown key
  split
  · exact readCapability_abreast hw hv hrr.typeOf hown key
  · obtain ⟨ho, ho'⟩ | ⟨o, o', ho, ho', hoo⟩ := rel_cases hown <;> rw [ho, ho']
    · exact .fail hw _ rfl
    · exact .pure hw hoo

/-- **Reading** runs abreast. -/
theorem readWith_abreast (hh : h.RunsAbreast c) (hv : Like s v v') (key : String) :
    Abreast c s w w' Like (readWith h v key) (readWith h v' key) := by
  have hname := hw.named.className_eq hv
  cases hv with
  | inst hij => exact readInstance_abreast hw hh hij key
  | cls hij => exact readClass_abreast hw hij key
  | enum n hij hes => exact readEnum_abreast hw hh hij n hes key
  | foreign b e hij => exact readForeign_abreast hw (.foreign b e hij) hij key
  | shared k hij =>
    unfold readWith
    dsimp only
    split
    · exact .pure hw (.builtIn key (.shared k hij))
    · exact .fail_eq hw (by cases k <;> rfl) rfl
  | _ => exact .get_bind (.fail_eq hw (by rw [hname]) rfl)

/-! ## Writing -/

theorem classSetRefusal?_eq {k k' : ClassRecord} (hk : ClassLike s k k') (key : String) (hx : Like s x x') :
    classSetRefusal? w k key x = classSetRefusal? w' k' key x' := by
  unfold classSetRefusal?
  rw [hk.typeName_eq, hk.label, hx.string?, hw.named.className_eq hx]

omit hw in
theorem unlessProperty_eq {held held' : Option Value} (hheld : Option.Rel (Like s) held held') {e p p' : Option Failure}
    (hp : p = p') : unlessProperty held e p = unlessProperty held' e p' := by
  obtain ⟨hf, hf'⟩ | ⟨f, f', hf, hf', hff⟩ := rel_cases hheld <;> rw [hf, hf']
  · exact hp
  · cases hff with
    | property _ => rfl
    | _ => exact hp

theorem instanceSetRefusal?_eq (hij : s .inst i j) {r r' : InstanceRecord} (hr : InstanceLike s r r') (key : String)
    (hx : Like s x x') : instanceSetRefusal? w i r key x = instanceSetRefusal? w' j r' key x' := by
  obtain ⟨k, k', hk, hk', hkk⟩ := hw.cls hr.cls
  have hname := hw.named.className_eq (.inst hij)
  have hname' := hw.named.className_eq hx
  have hcategory := hx.category
  unfold instanceSetRefusal?
  rw [hk, hk', Option.bind_some, Option.bind_some, hname]
  refine unlessProperty_eq (hkk.classHolds? key) ?_
  split
  · cases hx with
    | cls hab =>
      obtain ⟨m, m', hm, hm', -⟩ := hw.cls hab
      dsimp only
      rw [hm, hm']
      rfl
    | _ =>
      dsimp only
      rw [hname', hcategory]
  · rfl

omit hw in
theorem carried?_of_instanceSetRefusal? {r : InstanceRecord} {key : String} {f : Failure}
    (hf : instanceSetRefusal? w i r key x = some f) : f.carried? = none := by
  unfold instanceSetRefusal? at hf
  repeat' split at hf
  all_goals cases hf <;> rfl

omit hw in
theorem carried?_of_classSetRefusal? {k : ClassRecord} {key : String} {f : Failure}
    (hf : classSetRefusal? w k key x = some f) : f.carried? = none := by
  unfold classSetRefusal? at hf
  repeat' split at hf
  all_goals cases hf <;> rfl

omit hw in
theorem carried?_of_classEraseRefusal? {k : ClassRecord} {key : String} {f : Failure}
    (hf : classEraseRefusal? k key = some f) : f.carried? = none := by
  unfold classEraseRefusal? at hf
  repeat' split at hf
  all_goals cases hf <;> rfl

/-- **Setting** runs abreast. -/
theorem write_abreast (hv : Like s v v') (key : String) (hx : Like s x x') :
    Abreast c s w w' Same (write v key x) (write v' key x') := by
  have hname := hw.named.className_eq hv
  unfold write
  refine .get_bind ?_
  cases hv with
  | inst hij =>
    obtain ⟨r, r', hr, hr', hrr⟩ := hw.inst hij
    simp only [hr, hr', instanceSetRefusal?_eq hw hij hrr key hx]
    split
    next f hf => exact .fail hw f (carried?_of_instanceSetRefusal? hf)
    · exact .set (hw.put (World.puts_assignInstance hr key x) (World.puts_assignInstance hr' key x') (by decide) hij
        (.inst (hrr.assign key hx)))
  | cls hij =>
    obtain ⟨k, k', hk, hk', hkk⟩ := hw.cls hij
    simp only [hk, hk', classSetRefusal?_eq hw hkk key hx]
    split
    next f hf => exact .fail hw f (carried?_of_classSetRefusal? hf)
    · exact .set (hw.put (World.puts_assignClass hk key x) (World.puts_assignClass hk' key x') (by decide) hij
        (.cls (hkk.assign key hx)))
  | enum _ _ _ => exact .throw hw (.enumKey .write _ (.ofString key) _)
  | foreign _ _ hij =>
    obtain ⟨r, r', hr, hr', hrr⟩ := hw.foreign hij
    exact .set (hw.put (World.puts_modifyForeign hr (Fields.set · key x)) (World.puts_modifyForeign hr' (Fields.set · key x'))
      (by decide) hij (.foreign ⟨hrr.type, hrr.typeOf, hrr.attributes.set key hx⟩))
  | function _ => exact .pure hw rfl
  | _ => exact .fail_eq hw (by rw [hname]) rfl

omit hw in
theorem classEraseRefusal?_eq {k k' : ClassRecord} (hk : ClassLike s k k') (key : String) :
    classEraseRefusal? k key = classEraseRefusal? k' key := by
  unfold classEraseRefusal?
  rw [hk.typeName_eq, hk.label, hk.body.has_eq]

/-- **Removing** runs abreast. -/
theorem erase_abreast (hv : Like s v v') (key : String) : Abreast c s w w' Same (erase v key) (erase v' key) := by
  have hname := hw.named.className_eq hv
  unfold erase
  refine .get_bind ?_
  cases hv with
  | inst hij =>
    obtain ⟨r, r', hr, hr', hrr⟩ := hw.inst hij
    simp only [hr, hr', hrr.attributes.has_eq]
    split
    · exact .fail hw _ rfl
    split
    · exact .set (hw.put (World.puts_eraseInstance hr key) (World.puts_eraseInstance hr' key) (by decide) hij
        (.inst (hrr.erase key)))
    · exact .fail_eq hw (by rw [hname]) rfl
  | cls hij =>
    obtain ⟨k, k', hk, hk', hkk⟩ := hw.cls hij
    simp only [hk, hk', classEraseRefusal?_eq hkk]
    split
    next f hf => exact .fail hw f (carried?_of_classEraseRefusal? hf)
    · exact .set (hw.put (World.puts_eraseClass hk key) (World.puts_eraseClass hk' key) (by decide) hij
        (.cls (hkk.erase key)))
  | enum _ _ _ => exact .throw hw (.enumKey .delete _ (.ofString key) _)
  | foreign _ _ hij =>
    obtain ⟨r, r', hr, hr', hrr⟩ := hw.foreign hij
    simp only [hr, hr', Option.map_some, hrr.attributes.has_eq]
    split
    · exact .set (hw.put (World.puts_modifyForeign hr (Fields.erase · key)) (World.puts_modifyForeign hr' (Fields.erase · key))
        (by decide) hij (.foreign ⟨hrr.type, hrr.typeOf, hrr.attributes.erase key⟩))
    · exact .fail hw _ rfl
  | _ => exact .fail_eq hw (by rw [hname]) rfl

end Access

end Lineage
