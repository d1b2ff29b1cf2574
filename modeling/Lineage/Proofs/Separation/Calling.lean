import Lineage.Proofs.Separation.Using

/-!
# Calling — calls and printing in two worlds

Whatever is called with alike arguments does the same in two worlds that look alike, one function after the other in the order
in which they are defined: the methods of the base class, the functions of scripts, making instances, the standard things,
the methods of enumerations and of shared lists and dictionaries. All of them are given what they call in turn;
`handler_runsAbreast` closes the circle by induction on the depth of nesting.

Methods that are not written by the user are chosen by their names and by the number of their arguments. For a name that none
of them has there is one answer (`callEnum_other` and its kind), which depends on that number only.
-/

set_option autoImplicit false

namespace Lineage

namespace Access

variable {c : Client} {s : Matching} {w w' : World} {v v' x x' : Value} {i j : Nat} {h : Handler}
  (hw : Together c s w w') (hh : h.RunsAbreast c)

include hw

/-! ## Calling -/

theorem checkArity_abreast (function : String) (parameters : List String) (given : Nat) :
    Abreast c s w w' Same (checkArity function parameters given) (checkArity function parameters given) := by
  unfold checkArity
  dsimp only
  split
  · exact .fail hw _ rfl
  split
  · exact .fail hw _ rfl
  · exact .pure hw rfl

/-- A call with a wrong number of arguments. -/
theorem checkArity_nil_abreast (function : String) (parameters : List String) {m n : Nat} (hmn : m = n) :
    Abreast c s w w' Like (do checkArity function parameters m; return .nil)
      (do checkArity function parameters n; return .nil) :=
  hmn ▸ (checkArity_abreast hw function parameters m).bind fun _ hu _ => .pure hu .nil

/-- The class of a receiver and its number. -/
def ReceiverLike (s : Matching) (p q : Nat × ClassRecord) : Prop := s .cls p.1 q.1 ∧ ClassLike s p.2 q.2

theorem receiverClass_abreast (hv : Like s v v') :
    Abreast c s w w' ReceiverLike (receiverClass v) (receiverClass v') := by
  have hname := hw.named.className_eq hv
  unfold receiverClass
  refine .get_bind ?_
  cases hv with
  | inst hij =>
    obtain ⟨a, b, k, k', ha, hb, hab, hk, hk', hkk⟩ := hw.classOf? hij
    simp only [ha, hb, hk, hk']
    exact .pure hw ⟨hab, hkk⟩
  | _ => exact .fail_eq hw (by rw [hname]) rfl

theorem holdsName_abreast {k k' : ClassRecord} (hk : ClassLike s k k') (hv : Like s v v') :
    Abreast c s w w' Same (holdsName k v) (holdsName k' v') := by
  have hkey := unhashable?_eq hw hv
  have hstring := hv.string?
  have hnames := hk.membership_eq
  cases hv with
  | set => exact .pure hw rfl
  | _ =>
    unfold holdsName
    refine .get_bind ?_
    rw [hkey, hstring, hnames]
    split
    · exact .fail hw _ rfl
    · exact .pure hw rfl

section
include hh

theorem callBase_abreast (m : BaseMethod) {xs ys : List Value} (hxs : LikeAll s xs ys) :
    Abreast c s w w' Like (callBase h m xs) (callBase h m ys) := by
  have harity (function : String) (parameters : List String) := checkArity_nil_abreast hw function parameters hxs.length_eq
  have hself {x y : Value} (hxy : Like s x y) := receiverClass_abreast hw hxy
  cases m with
  | class_ =>
    rcases hxs with _ | ⟨hx, _ | ⟨hy, hr⟩⟩
    · exact harity ..
    · exact (hself hx).bind fun _ hu hk => .pure hu (.cls hk.1)
    · exact harity ..
  | type =>
    rcases hxs with _ | ⟨hx, _ | ⟨hy, hr⟩⟩
    · exact harity ..
    · exact (hself hx).bind fun _ hu hk => .pure hu (hk.2.typeName_eq ▸ .ofString _)
    · exact harity ..
  | typeOf =>
    rcases hxs with _ | ⟨hx, _ | ⟨hy, _ | ⟨hz, hr⟩⟩⟩
    · exact harity ..
    · exact harity ..
    · refine (hself hx).bind fun ho hu hk => ?_
      exact (holdsName_abreast hu hk.2 (hy.mono ho.le)).bind fun _ hv h => h ▸ .pure hv (.bool _)
    · exact harity ..
  | debugString =>
    rcases hxs with _ | ⟨hx, _ | ⟨hy, hr⟩⟩
    · exact harity ..
    · refine (hself hx).bind fun {t u u' p q} ho hu hk => .pure hu ?_
      rw [hk.2.typeName_eq, hk.2.rawRepr_eq]
      exact .ofString _
    · exact harity ..
  | repr =>
    rcases hxs with _ | ⟨hx, _ | ⟨hy, hr⟩⟩
    · exact harity ..
    · exact (hh.read hw hx _).bind fun _ hu hf => hh.call hu hf .nil
    · exact harity ..

end


theorem apply_abreast (hh : h.RunsAbreast c) {b b' : Behaviour} (hb : BehaviourLike s b b') {xs ys : List Value}
    (hxs : LikeAll s xs ys) : Abreast c s w w' Like (apply h b xs) (apply h b' ys) := by
  have hmissing := checkArity_nil_abreast hw "method" ["self"] (m := 0) rfl
  cases hb with
  | base m => exact callBase_abreast hw hh m hxs
  | returns hv | constant hv => exact .pure hw hv
  | raises t => exact .fail hw _ rfl
  | announces lead =>
    cases hxs with
    | nil => exact hmissing
    | cons hx hr =>
      refine (hh.read hw hx _).bind fun _ hu hf => (hh.call hu hf .nil).bind fun _ hu ht => ?_
      rw [ht.string?]
      split
      · exact .pure hu (.ofString _)
      · exact .get_bind (.fail_eq hu (by rw [hu.named.className_eq ht]) rfl)
  | assigns key =>
    rcases hxs with _ | ⟨hx, _ | ⟨hy, _ | ⟨hz, hr⟩⟩⟩
    · exact checkArity_nil_abreast hw _ _ rfl
    · exact (write_abreast hw hx key (.ofInt 0)).bind fun _ hu _ => .pure hu .nil
    · exact (write_abreast hw hx key hy).bind fun _ hu _ => .pure hu .nil
    · exact checkArity_nil_abreast hw _ _ (by simp only [List.length_cons, hr.length_eq])
  | reads key =>
    cases hxs with
    | nil => exact hmissing
    | cons hx hr => exact hh.read hw hx key
  | forwards m =>
    cases hxs with
    | nil => exact hmissing
    | cons hx hr => exact (hh.read hw hx m).bind fun ho hu hf => hh.call hu hf (hr.mono ho.le)
  | isOneOf hns =>
    refine .get_bind (.pure hw ?_)
    have hany : ∀ {a a' : Value}, Like s a a' → _ := fun ha =>
      hns.any_eq fun hn => (hw.read hn).equalInside hw.oneToOne (hw.read ha)
    obtain ⟨ha, ha'⟩ | ⟨a, a', ha, ha', haa⟩ := rel_cases hxs.getLast? <;> rw [ha, ha']
    · exact .bool _
    · rw [Option.elim_some, Option.elim_some, hany haa]
      exact .bool _
  | itself =>
    cases hxs with
    | nil => exact hmissing
    | cons hx hr => exact .pure hw hx
  | makes =>
    cases hxs with
    | nil => exact hmissing
    | cons hx hr => exact hh.call hw hx hr
  | namesClass =>
    cases hxs with
    | nil => exact hmissing
    | cons hx hr => exact hh.read hw hx "type_name"
  | probes hij =>
    cases hxs with
    | nil => exact hmissing
    | cons hx hr =>
      cases hx with
      | inst hab =>
        obtain ⟨a, b, k, k', ha, hb, hcls, -⟩ := hw.classOf? hab
        refine .get_bind ?_
        have hsame : (some a = some _) = (some b = some _) :=
          propext ((Option.some_inj.trans (hw.oneToOne hcls hij)).trans Option.some_inj.symm)
        simp only [ha, hb, hsame]
        split
        · exact .pure hw (.ofString _)
        · exact .fail hw _ rfl
      | _ => exact .fail hw _ rfl

theorem construct_abreast (hh : h.RunsAbreast c) (hij : s .cls i j) {xs ys : List Value} (hxs : LikeAll s xs ys) :
    Abreast c s w w' Like (construct h i xs) (construct h j ys) := by
  obtain ⟨k, k', hk, hk', hkk⟩ := hw.cls hij
  have hmade := hw.add (w.puts_addInstance i) (w'.puts_addInstance j) (w.thing?_count .inst) (w'.thing?_count .inst)
    (.inst ⟨.inl hij, .nil⟩)
  have hnew : Like (s ⊔ .pair .inst w.instances.length w'.instances.length) (.inst w.instances.length)
      (.inst w'.instances.length) := .inst (.inr ⟨rfl, rfl, rfl⟩)
  unfold construct
  refine .get_bind ?_
  simp only [hk, hk']
  obtain ⟨hf, hf'⟩ | ⟨f, f', hf, hf', hff⟩ := rel_cases (hkk.body.get? "__init__") <;> simp only [hf, hf']
  · rw [hxs.isEmpty_eq, hkk.label]
    split
    · exact .fail hw _ rfl
    · exact .set_bind hmade (.pure hmade.2 hnew)
  · refine .set_bind hmade ?_
    have hbound := hmade.2.named.bind hnew (.inl hij) (hff.mono le_sup_left)
    refine (hh.call hmade.2 hbound (hxs.mono le_sup_left)).bind fun ho hu hr => ?_
    have hname := hu.named.className_eq hr
    cases hr with
    | nil => exact .pure hu (hnew.mono ho.le)
    | _ => exact .get_bind (.fail_eq hu (by rw [hname]) rfl)

omit hw in
theorem callInteger_many (v v' : Value) (r : List Value) : callInteger (v :: v' :: r) =
    throw (.misuse .type ("int() takes at most 2 arguments (" ++ toString (r.length + 2) ++ " given)")) := by
  unfold callInteger
  split
  case h_7 => rfl
  all_goals simp_all

/-- What `int` makes of a value that is no number. -/
def spelledInteger (v : Value) : Action Value :=
  match v.text? with
  | some t =>
    match integer? t.toString with
    | some n => pure (.ofInt n)
    | none => throw (.invalidInteger t)
  | none => do
    throw (.misuse .type ("int() argument must be a string, a bytes-like object or a real number, not '" ++
      className (← get) v ++ "'"))

theorem spelledInteger_abreast {v v' : Value} (hv : Like s v v') :
    Abreast c s w w' Like (spelledInteger v) (spelledInteger v') := by
  unfold spelledInteger
  rw [hv.text?]
  split
  · split
    · exact .pure hw (.ofInt _)
    · exact .fail hw _ rfl
  · exact .get_bind (.fail_eq hw (by rw [hw.named.className_eq hv]) rfl)

theorem callInteger_abreast {xs ys : List Value} (hxs : LikeAll s xs ys) :
    Abreast c s w w' Like (callInteger xs) (callInteger ys) := by
  rcases hxs with _ | ⟨hx, _ | ⟨hy, hr⟩⟩
  · exact .pure hw (.ofInt 0)
  · have hx' := spelledInteger_abreast hw hx
    cases hx with
    | bool b => exact .pure hw (.ofInt _)
    | number n =>
      cases n with
      | int n => exact .pure hw (.ofInt n)
      | fraction q => exact .pure hw (.ofInt _)
      | float x =>
        unfold callInteger
        dsimp only
        split
        · exact .pure hw (.ofInt _)
        · exact .fail hw _ rfl
      | _ => exact hx'
    | _ => exact hx'
  · rw [callInteger_many, callInteger_many, hr.length_eq]
    exact .fail hw _ rfl

omit hw in
theorem callSpecimen_other {x : Specimen} {xs : List Value}
    (hname : x.name ∉ ["int", "callable_instance", "len", "object_class"]) (htype : x.name = "type" → ∀ i, xs ≠ [.cls i]) :
    callSpecimen x xs =
      if x.callable then (do checkArity x.name [] xs.length; return .nil) else throw (.notCallable x.className) := by
  unfold callSpecimen
  split
  case h_9 => rfl
  all_goals simp_all

theorem callSpecimen_abreast (x : Specimen) {xs ys : List Value} (hxs : LikeAll s xs ys) :
    Abreast c s w w' Like (callSpecimen x xs) (callSpecimen x ys) := by
  by_cases hname : x.name ∈ ["int", "callable_instance", "len", "object_class"]
  · obtain ⟨name, className, category, callable, hashable, isMapping⟩ := x
    simp only [List.mem_cons, List.not_mem_nil, or_false] at hname
    rcases hname with rfl | rfl | rfl | rfl
    · exact callInteger_abreast hw hxs
    · rcases hxs with _ | ⟨hx, hr⟩
      · exact .pure hw (.ofInt 1)
      · exact checkArity_nil_abreast hw _ _ (by simp only [List.length_cons, hr.length_eq])
    · rcases hxs with _ | ⟨hx, _ | ⟨hy, hr⟩⟩
      · exact .fail hw _ rfl
      · refine .get_bind ?_
        rw [(hw.read hx).length?, hw.named.className_eq hx]
        split
        · exact .pure hw (.ofInt _)
        · exact .fail hw _ rfl
      · exact .fail_eq hw (by simp only [List.length_cons, hr.length_eq]) rfl
    · rcases hxs with _ | ⟨hx, hr⟩
      · exact .pure hw (.specimen _)
      · exact .fail hw _ rfl
  by_cases htype : x.name = "type" ∧ ∃ i, xs = [.cls i]
  · obtain ⟨name, className, category, callable, hashable, isMapping⟩ := x
    obtain ⟨rfl, i, rfl⟩ := htype
    obtain _ | ⟨⟨hij⟩, ⟨⟩⟩ := hxs
    exact .pure hw (.specimen _)
  · have hleft : x.name = "type" → ∀ i, xs ≠ [.cls i] := fun ht i hi => htype ⟨ht, i, hi⟩
    have hright : x.name = "type" → ∀ j, ys ≠ [.cls j] := by
      rintro ht j rfl
      obtain _ | ⟨⟨hij⟩, ⟨⟩⟩ := hxs
      exact htype ⟨ht, _, rfl⟩
    rw [callSpecimen_other hname hleft, callSpecimen_other hname hright]
    split
    · exact checkArity_nil_abreast hw _ _ hxs.length_eq
    · exact .fail hw _ rfl

omit hw in
theorem callEnum_other {method : String} (hm : method ∉ ["keys", "values", "items", "__len__", "get", "has_value",
    "__getitem__", "__setitem__", "__setattr__", "__delitem__", "__delattr__", "__contains__"]) (name : String)
    (es : List (Value × Value)) (xs : List Value) :
    callEnum h name es method xs = do checkArity ("Mapping." ++ method) ["self"] (xs.length + 1); return .nil := by
  unfold callEnum
  split
  case h_16 => rfl
  all_goals simp_all

theorem callEnum_abreast (hh : h.RunsAbreast c) (name : String) {es fs : List (Value × Value)}
    (hes : LikeEntries s es fs) (method : String) {xs ys : List Value} (hxs : LikeAll s xs ys) :
    Abreast c s w w' Like (callEnum h name es method xs) (callEnum h name fs method ys) := by
  have hwrong (function : String) (parameters : List String) : Abreast c s w w' Like
      (do let _ ← get; checkArity function parameters (xs.length + 1); return .nil)
      (do let _ ← get; checkArity function parameters (ys.length + 1); return .nil) :=
    .get_bind (checkArity_nil_abreast hw function parameters (congrArg (· + 1) hxs.length_eq))
  have hmember {x y : Value} (hxy : Like s x y) := memberOf?_like hw.oneToOne hes hxy
  by_cases hm : method ∈ ["keys", "values", "items", "__len__", "get", "has_value", "__getitem__", "__setitem__",
      "__setattr__", "__delitem__", "__delattr__", "__contains__"]
  · simp only [List.mem_cons, List.not_mem_nil, or_false] at hm
    rcases hm with rfl | rfl | rfl | rfl | rfl | rfl | rfl | rfl | rfl | rfl | rfl | rfl
    · rcases hxs with _ | ⟨hx, hr⟩
      · exact .pure hw (.view _ hes.keys)
      · exact hwrong _ _
    · rcases hxs with _ | ⟨hx, hr⟩
      · exact .pure hw (.view _ hes.values)
      · exact hwrong _ _
    · rcases hxs with _ | ⟨hx, hr⟩
      · exact .pure hw (.view _ hes.items)
      · exact hwrong _ _
    · rcases hxs with _ | ⟨hx, hr⟩
      · exact .pure hw (hes.length_eq ▸ .ofInt _)
      · exact hwrong _ _
    · rcases hxs with _ | ⟨hx, _ | ⟨hy, _ | ⟨hz, hr⟩⟩⟩
      · exact hwrong _ _
      · exact .get_bind (getItemWith_abreast hw hh name hes hx .nil)
      · exact .get_bind (getItemWith_abreast hw hh name hes hx hy)
      · exact hwrong _ _
    · rcases hxs with _ | ⟨hx, _ | ⟨hy, hr⟩⟩
      · exact hwrong _ _
      · refine .get_bind (.pure hw ?_)
        rw [hes.any_eq (q := fun e => decide (e.2.category = _) && (w'.read e.2).equal (w'.read _))]
        · exact .bool _
        · intro e f _ hef
          rw [hef.category, hx.category, (hw.read hef).equal hw.oneToOne (hw.read hx)]
      · exact hwrong _ _
    · rcases hxs with _ | ⟨hx, _ | ⟨hy, hr⟩⟩
      · exact hwrong _ _
      · exact .get_bind (readItemWith_abreast hw hh name hes hx)
      · exact hwrong _ _
    · rcases hxs with _ | ⟨hx, _ | ⟨hy, _ | ⟨hz, hr⟩⟩⟩
      · exact hwrong _ _
      · exact hwrong _ _
      · exact .get_bind (refuseWith_abreast hw hh .write name hx)
      · exact hwrong _ _
    · rcases hxs with _ | ⟨hx, _ | ⟨hy, _ | ⟨hz, hr⟩⟩⟩
      · exact hwrong _ _
      · exact hwrong _ _
      · exact .get_bind (refuseWith_abreast hw hh .write name hx)
      · exact hwrong _ _
    · rcases hxs with _ | ⟨hx, _ | ⟨hy, hr⟩⟩
      · exact hwrong _ _
      · exact .get_bind (refuseWith_abreast hw hh .delete name hx)
      · exact hwrong _ _
    · rcases hxs with _ | ⟨hx, _ | ⟨hy, hr⟩⟩
      · exact hwrong _ _
      · exact .get_bind (refuseWith_abreast hw hh .delete name hx)
      · exact hwrong _ _
    · rcases hxs with _ | ⟨hx, _ | ⟨hy, hr⟩⟩
      · exact hwrong _ _
      · refine .get_bind ?_
        simp only [unhashable?_eq hw hx, rel_isSome (hmember hx)]
        split
        · exact .fail hw _ rfl
        · exact .pure hw (.bool _)
      · exact hwrong _ _
  · rw [callEnum_other hm, callEnum_other hm]
    exact checkArity_nil_abreast hw _ _ (congrArg (· + 1) hxs.length_eq)

omit hw in
theorem callDict_other {method : String} (hm : method ∉ ["keys", "values", "items", "copy", "clear", "get", "pop", "setdefault",
    "update"]) (a : Nat) (es : List (Value × Value)) (xs : List Value) :
    callDict a es method xs = (do
      let _ ← get
      throw (.misuse .type ("dict." ++ method ++ "() takes no arguments (" ++ toString xs.length ++ " given)"))) := by
  unfold callDict
  congr 1
  funext w
  dsimp only
  split
  case h_11 => rfl
  all_goals simp_all

theorem callDict_find_abreast {a b : Nat} (hab : s .cell a b) {es fs : List (Value × Value)} (hes : LikeEntries s es fs)
    {method : String} (hm : method = "get" ∨ method = "pop" ∨ method = "setdefault") {x y : Value} (hx : Like s x y)
    {xs ys : List Value} (hxs : LikeAll s xs ys) :
    Abreast c s w w' Like (callDict a es method (x :: xs)) (callDict b fs method (y :: ys)) := by
  have hsame {e f : Value × Value} (hk : Like s e.1 f.1) := (hw.read hk).equalInside hw.oneToOne (hw.read hx)
  have hdefault : Like s (xs.headD .nil) (ys.headD .nil) := by
    cases hxs with
    | nil => exact .nil
    | cons h _ => exact h
  have hkept := hw.setCell hab (.dict (hes.filter (p := fun e => !(w.read e.1).equalInside (w.read x))
    (q := fun f => !(w'.read f.1).equalInside (w'.read y)) fun hk _ => congrArg (!·) (hsame hk)))
  have hgrown := hw.setCell hab (.dict (hes.append (.cons hx hdefault .nil)))
  rcases hm with rfl | rfl | rfl
  all_goals
    refine .get_bind ?_
    simp only [unhashable?_eq hw hx]
    split
    · exact .throw_bind hw (.plain _ rfl)
    obtain ⟨he, hf⟩ | ⟨e, f, he, hf, -, hef⟩ := rel_cases (hes.find? fun hk _ => hsame hk) <;> simp only [he, hf]
    · rw [hxs.isEmpty_eq, (hw.read hx).literal]
      split
      · exact .throw_bind hw (.plain _ rfl)
      split
      · exact .set_bind hgrown (.pure hgrown.2 hdefault)
      · exact .pure hw hdefault
    · split
      · exact .set_bind hkept (.pure hkept.2 hef)
      · exact .pure hw hef

theorem callDict_abreast {a b : Nat} (hab : s .cell a b) {es fs : List (Value × Value)} (hes : LikeEntries s es fs)
    (method : String) {xs ys : List Value} (hxs : LikeAll s xs ys) :
    Abreast c s w w' Like (callDict a es method xs) (callDict b fs method ys) := by
  have hwrong : Abreast c s w w' Like
      (do
        let _ ← get
        throw (.misuse .type ("dict." ++ method ++ "() takes no arguments (" ++ toString xs.length ++ " given)")))
      (do
        let _ ← get
        throw (.misuse .type ("dict." ++ method ++ "() takes no arguments (" ++ toString ys.length ++ " given)"))) :=
    .get_bind (.fail_eq hw (by rw [hxs.length_eq]) rfl)
  by_cases hm : method ∈ ["keys", "values", "items", "copy", "clear", "get", "pop", "setdefault", "update"]
  · simp only [List.mem_cons, List.not_mem_nil, or_false] at hm
    rcases hm with rfl | rfl | rfl | rfl | rfl | rfl | rfl | rfl | rfl
    · rcases hxs with _ | ⟨hx, hr⟩
      · exact .pure hw (.view _ hes.keys)
      · exact hwrong
    · rcases hxs with _ | ⟨hx, hr⟩
      · exact .pure hw (.view _ hes.values)
      · exact hwrong
    · rcases hxs with _ | ⟨hx, hr⟩
      · exact .pure hw (.view _ hes.items)
      · exact hwrong
    · rcases hxs with _ | ⟨hx, hr⟩
      · refine .get_bind (.set_bind (hw.addCell (.dict hes)) ?_)
        exact .pure (hw.addCell (.dict hes)).2 (.shared .dict (.inr ⟨rfl, rfl, rfl⟩))
      · exact hwrong
    · rcases hxs with _ | ⟨hx, hr⟩
      · have hempty := hw.setCell hab (.dict .nil)
        refine .get_bind (.set_bind hempty ?_)
        exact .pure hempty.2 .nil
      · exact hwrong
    · rcases hxs with _ | ⟨hx, hr⟩
      · exact hwrong
      · exact callDict_find_abreast hw hab hes (.inl rfl) hx hr
    · rcases hxs with _ | ⟨hx, hr⟩
      · exact hwrong
      · exact callDict_find_abreast hw hab hes (.inr (.inl rfl)) hx hr
    · rcases hxs with _ | ⟨hx, hr⟩
      · exact hwrong
      · exact callDict_find_abreast hw hab hes (.inr (.inr rfl)) hx hr
    · rcases hxs with _ | ⟨hx, _ | ⟨hy, hr⟩⟩
      · exact .pure hw .nil
      · refine .get_bind ?_
        obtain ⟨he, hf⟩ | ⟨us, vs, he, hf, huv⟩ := rel_cases (hw.read hx).entries? <;> simp only [he, hf]
        · exact .fail_eq hw (by rw [hw.named.className_eq hx]) rfl
        · have hput := huv.foldl hes (f := fun t e =>
              if t.any (fun f => (w.read f.1).equalInside (w.read e.1)) then
                t.map fun f => if (w.read f.1).equalInside (w.read e.1) then (f.1, e.2) else f
              else t ++ [e]) (g := fun t e =>
              if t.any (fun f => (w'.read f.1).equalInside (w'.read e.1)) then
                t.map fun f => if (w'.read f.1).equalInside (w'.read e.1) then (f.1, e.2) else f
              else t ++ [e]) fun ht hk hv =>
            ht.put (fun hk' _ => (hw.read hk').equalInside hw.oneToOne (hw.read hk)) hk hv
          exact .set_bind (hw.setCell hab (.dict hput)) (.pure (hw.setCell hab (.dict hput)).2 .nil)
      · exact hwrong
  · rw [callDict_other hm, callDict_other hm]
    exact hwrong

omit hw in
theorem callList_other {method : String} (hm : method ∉ ["append", "extend", "insert", "pop", "copy", "clear", "reverse"])
    (a : Nat) (us : List Value) (xs : List Value) :
    callList a us method xs = (do
      let _ ← get
      throw (.misuse .type ("list." ++ method ++ "() takes exactly one argument (" ++ toString xs.length ++ " given)"))) := by
  unfold callList
  congr 1
  funext w
  split
  case h_8 => rfl
  all_goals simp_all

omit hw in
theorem callList_insert {xs : List Value} (hxs : ∀ n v, xs ≠ [.number (.int n), v]) (a : Nat) (us : List Value) :
    callList a us "insert" xs = (do
      let _ ← get
      throw (.misuse .type ("list.insert() takes exactly one argument (" ++ toString xs.length ++ " given)"))) := by
  unfold callList
  congr 1
  funext w
  split
  case h_8 => rfl
  all_goals simp_all

theorem callList_abreast {a b : Nat} (hab : s .cell a b) {us vs : List Value} (huv : LikeAll s us vs) (method : String)
    {xs ys : List Value} (hxs : LikeAll s xs ys) :
    Abreast c s w w' Like (callList a us method xs) (callList b vs method ys) := by
  have hwrong : Abreast c s w w' Like
      (do
        let _ ← get
        throw (.misuse .type ("list." ++ method ++ "() takes exactly one argument (" ++ toString xs.length ++ " given)")))
      (do
        let _ ← get
        throw (.misuse .type ("list." ++ method ++ "() takes exactly one argument (" ++ toString ys.length ++ " given)"))) :=
    .get_bind (.fail_eq hw (by rw [hxs.length_eq]) rfl)
  have hreset {us' vs' : List Value} (h : LikeAll s us' vs') {x y : Value} (hxy : Like s x y) : Abreast c s w w' Like
      (do
        let w ← get
        set (w.setCell a (.list us'))
        return x)
      (do
        let w ← get
        set (w.setCell b (.list vs'))
        return y) :=
    .get_bind (.set_bind (hw.setCell hab (.list h)) (.pure (hw.setCell hab (.list h)).2 hxy))
  by_cases hm : method ∈ ["append", "extend", "insert", "pop", "copy", "clear", "reverse"]
  · simp only [List.mem_cons, List.not_mem_nil, or_false] at hm
    rcases hm with rfl | rfl | rfl | rfl | rfl | rfl | rfl
    · rcases hxs with _ | ⟨hx, _ | ⟨hy, hr⟩⟩
      · exact hwrong
      · exact hreset (huv.append (.cons hx .nil)) .nil
      · exact hwrong
    · rcases hxs with _ | ⟨hx, _ | ⟨hy, hr⟩⟩
      · exact hwrong
      · refine .get_bind ?_
        have hread := hw.read hx
        have hname := hw.named.className_eq hx
        simp only []
        generalize w.read _ = v at hread ⊢
        generalize w'.read _ = v' at hread ⊢
        cases hread with
        | list h | tuple h | set _ h => exact hreset (huv.append h) .nil
        | _ => exact .fail_eq hw (by rw [hname]) rfl
      · exact hwrong
    · by_cases hnumber : ∃ n v, xs = [.number (.int n), v]
      · obtain ⟨n, v, rfl⟩ := hnumber
        obtain _ | ⟨⟨n⟩, _ | ⟨hv, ⟨⟩⟩⟩ := hxs
        rw [callList, callList, huv.length_eq]
        exact hreset ((huv.take _).append (.cons hv (huv.drop _))) .nil
      · rw [callList_insert fun n v h => hnumber ⟨n, v, h⟩, callList_insert]
        · exact hwrong
        · rintro n v rfl
          obtain _ | ⟨⟨n⟩, _ | ⟨hv, ⟨⟩⟩⟩ := hxs
          exact hnumber ⟨_, _, rfl⟩
    · rcases hxs with _ | ⟨hx, hr⟩
      · refine .get_bind ?_
        simp only []
        obtain ⟨he, hf⟩ | ⟨e, f, he, hf, hef⟩ := rel_cases huv.getLast? <;> simp only [he, hf]
        · exact .fail hw _ rfl
        · exact hreset huv.dropLast hef
      · exact hwrong
    · rcases hxs with _ | ⟨hx, hr⟩
      · refine .get_bind (.set_bind (hw.addCell (.list huv)) ?_)
        exact .pure (hw.addCell (.list huv)).2 (.shared .list (.inr ⟨rfl, rfl, rfl⟩))
      · exact hwrong
    · rcases hxs with _ | ⟨hx, hr⟩
      · exact hreset .nil .nil
      · exact hwrong
    · rcases hxs with _ | ⟨hx, hr⟩
      · exact hreset huv.reverse .nil
      · exact hwrong
  · rw [callList_other hm, callList_other hm]
    exact hwrong

theorem callForeign_abreast (hij : s .foreign i j) (question : String) {xs ys : List Value} (hxs : LikeAll s xs ys) :
    Abreast c s w w' Like (callForeign i question xs) (callForeign j question ys) := by
  obtain ⟨r, r', hr, hr', hrr⟩ := hw.foreign hij
  have hasked (log log' : List (Nat × Value)) : Onward c s w w' s { w with asked := log } { w' with asked := log' } ∧
      Together c s { w with asked := log } { w' with asked := log' } :=
    hw.keep ⟨fun k _ => by cases k <;> rfl, rfl, rfl⟩ ⟨fun k _ => by cases k <;> rfl, rfl, rfl⟩
  have hchosen : CapabilityLike s (if question = "type" then r.type else r.typeOf)
      (if question = "type" then r'.type else r'.typeOf) := by
    split
    · exact hrr.type
    · exact hrr.typeOf
  unfold callForeign
  refine .get_bind ?_
  simp only [hr, hr']
  generalize (if question = "type" then r.type else r.typeOf) = d at hchosen ⊢
  generalize (if question = "type" then r'.type else r'.typeOf) = d' at hchosen ⊢
  cases hchosen with
  | returns hv => exact .set_bind (hasked _ _) (.pure (hasked _ _).2 hv)
  | raises t => exact .fail hw _ rfl
  | names hns =>
    refine .set_bind (hasked _ _) (.pure (hasked _ _).2 ?_)
    have hany {a a' : Value} (ha : Like s a a') := hns.any_eq fun hn => (hw.read hn).equalInside hw.oneToOne (hw.read ha)
    obtain ⟨ha, ha'⟩ | ⟨a, a', ha, ha', haa⟩ := rel_cases hxs.getLast? <;> rw [ha, ha']
    · exact .bool _
    · rw [Option.elim_some, Option.elim_some, hany haa]
      exact .bool _
  | _ => exact .fail hw _ rfl

/-- What a method of every object does. -/
theorem callObject_abreast (hh : h.RunsAbreast c) {r r' : Value} (hr : Like s r r') (method : String) {xs ys : List Value} :
    LikeAll s xs ys → Abreast c s w w' Like
      (match method, xs with
        | "__repr__", [] | "__str__", [] => do return .ofString (← h.repr r)
        | "__eq__", [x] => return .bool ((w.read r).equal (w.read x))
        | _, _ => return .nil)
      (match method, ys with
        | "__repr__", [] | "__str__", [] => do return .ofString (← h.repr r')
        | "__eq__", [y] => return .bool ((w'.read r').equal (w'.read y))
        | _, _ => return .nil) := by
  intro hxs
  have hprinted : Abreast c s w w' Like (do return .ofString (← h.repr r)) (do return .ofString (← h.repr r')) :=
    (hh.repr hw hr).bind fun _ hu ht => .pure hu (ht ▸ .ofString _)
  split
  · cases hxs
    exact hprinted
  · cases hxs
    exact hprinted
  · obtain _ | ⟨hx, ⟨⟩⟩ := hxs
    refine .pure hw ?_
    rw [(hw.read hr).equal hw.oneToOne (hw.read hx)]
    exact .bool _
  · split
    · cases hxs
      simp_all
    · cases hxs
      simp_all
    · obtain _ | ⟨hx, ⟨⟩⟩ := hxs
      simp_all
    · exact .pure hw .nil

section
include hh

theorem callBuiltIn_abreast {r r' : Value} (hr : Like s r r') (method : String) {xs ys : List Value} (hxs : LikeAll s xs ys) :
    Abreast c s w w' Like (callBuiltIn h r method xs) (callBuiltIn h r' method ys) := by
  have hplain := callObject_abreast hw hh hr method hxs
  cases hr with
  | enum n hij hes => exact .get_bind (callEnum_abreast hw hh n hes method hxs)
  | foreign b e hij => exact .get_bind (callForeign_abreast hw hij method hxs)
  | shared k hij =>
    obtain ⟨d, d', hd, hd', hdd⟩ := hw.cell hij
    refine .get_bind ?_
    simp only [hd, hd']
    cases hdd with
    | list hus => exact callList_abreast hw hij hus method hxs
    | dict hes => exact callDict_abreast hw hij hes method hxs
  | _ => exact .get_bind hplain

/-- **Calling** runs abreast. -/
theorem callWith_abreast {f f' : Value} (hf : Like s f f') {xs ys : List Value} (hxs : LikeAll s xs ys) :
    Abreast c s w w' Like (callWith h f xs) (callWith h f' ys) := by
  have hname := hw.named.className_eq hf
  unfold callWith
  refine .get_bind ?_
  dsimp only
  rw [hw.named.isCallable_eq hf, hname]
  split
  · exact .throw_bind hw (.plain _ rfl)
  cases hf with
  | builtIn m hr => exact callBuiltIn_abreast hw hh hr m hxs
  | method hr hij =>
    obtain ⟨b, b', hb, hb', hbb⟩ := hw.function hij
    simp only [hb, hb']
    exact apply_abreast hw hh hbb (.cons hr hxs)
  | function hij =>
    obtain ⟨b, b', hb, hb', hbb⟩ := hw.function hij
    simp only [hb, hb']
    exact apply_abreast hw hh hbb hxs
  | cls hij => exact construct_abreast hw hh hij hxs
  | specimen x => exact callSpecimen_abreast hw x hxs
  | inst hij => exact (hh.read hw (.inst hij) "__call__").bind fun ho hu hf => hh.call hu hf (hxs.mono ho.le)
  | _ => exact .fail_eq hw (congrArg Failure.notCallable hname) rfl

/-! ## Printing -/

theorem leafRepr_abreast (hv : Like s v v') : Abreast c s w w' Same (leafRepr h v) (leafRepr h v') := by
  have hplain : Abreast c s w w' Same (if isTooLong v then throw .digitLimit else return v.leafText)
      (if isTooLong v' then throw .digitLimit else return v'.leafText) := by
    rw [hv.isTooLong, hv.leafText]
    split
    · exact .fail hw _ rfl
    · exact .pure hw rfl
  cases hv with
  | inst hij =>
    obtain ⟨a, b, k, k', ha, hb, hab, hk, hk', hkk⟩ := hw.classOf? hij
    refine .get_bind ?_
    simp only [ha, hb, Option.bind_some, hk, hk', Option.getD_some]
    obtain ⟨hf, hf'⟩ | ⟨f, f', hf, hf', hff⟩ := rel_cases (hkk.body.get? "__repr__") <;> simp only [hf, hf']
    · exact .pure hw hkk.rawRepr_eq
    · refine (hh.call hw (hw.named.bind (.inst hij) hab hff) .nil).bind fun _ hu hr => ?_
      rw [hr.string?]
      split
      · exact .pure hu rfl
      · exact .get_bind (.fail_eq hu (by rw [hu.named.className_eq hr]) rfl)
  | cls hij =>
    obtain ⟨k, k', hk, hk', hkk⟩ := hw.cls hij
    refine .get_bind ?_
    simp only [hk, hk', hkk.typeName_eq]
    exact .pure hw rfl
  | function _ => exact .pure hw rfl
  | method _ _ => exact .pure hw rfl
  | builtIn _ _ => exact .pure hw rfl
  | _ => exact .get_bind hplain

end

omit hw

/-- A way to print values that are no containers, which runs abreast. -/
def PrintsAbreast (c : Client) (leaf : Value → Action String) : Prop :=
  ∀ {t : Matching} {u u' : World} {v v' : Value}, Together c t u u' → Like t v v' → Abreast c t u u' Same (leaf v) (leaf v')

mutual

/-- The literal form of alike values, whatever the worlds in which its parts are printed. -/
theorem render_abreast {leaf : Value → Action String} (hleaf : PrintsAbreast c leaf) {v v' : Value} (hv : Like s v v')
    {t : Matching} (hst : s ≤ t) {u u' : World} (hu : Together c t u u') :
    Abreast c t u u' Same (Value.render leaf v) (Value.render leaf v') := by
  have hplain := hleaf hu (hv.mono hst)
  cases hv with
  | tuple hxs => exact (renderAll_abreast hleaf hxs hst hu).bind fun _ hu ht => .pure hu (congrArg _ ht)
  | list hxs =>
    exact (renderAll_abreast hleaf hxs hst hu).bind fun _ hu ht =>
      .pure hu (congrArg (fun ts => "[" ++ Value.commaSeparated ts ++ "]") ht)
  | set f hxs => exact (renderAll_abreast hleaf hxs hst hu).bind fun _ hu ht => .pure hu (congrArg _ ht)
  | dict hes => exact (renderEntries_abreast hleaf hes hst hu).bind fun _ hu ht => .pure hu (congrArg _ ht)
  | enum n _ hes => exact (renderEntries_abreast hleaf hes hst hu).bind fun _ hu ht => .pure hu (congrArg _ ht)
  | _ => exact hplain

theorem renderAll_abreast {leaf : Value → Action String} (hleaf : PrintsAbreast c leaf) {xs ys : List Value}
    (hxs : LikeAll s xs ys) {t : Matching} (hst : s ≤ t) {u u' : World} (hu : Together c t u u') :
    Abreast c t u u' Same (Value.renderAll leaf xs) (Value.renderAll leaf ys) := by
  cases hxs with
  | nil => exact .pure hu rfl
  | cons hx hr =>
    exact (render_abreast hleaf hx hst hu).bind fun ho hu ht => (renderAll_abreast hleaf hr (hst.trans ho.le) hu).bind
      fun _ hu hts => .pure hu (congrArg₂ List.cons ht hts)

theorem renderEntries_abreast {leaf : Value → Action String} (hleaf : PrintsAbreast c leaf) {es fs : List (Value × Value)}
    (hes : LikeEntries s es fs) {t : Matching} (hst : s ≤ t) {u u' : World} (hu : Together c t u u') :
    Abreast c t u u' Same (Value.renderEntries leaf es) (Value.renderEntries leaf fs) := by
  cases hes with
  | nil => exact .pure hu rfl
  | cons hk hv hr =>
    refine (render_abreast hleaf hk hst hu).bind fun ho hu hkt => ?_
    refine (render_abreast hleaf hv (hst.trans ho.le) hu).bind fun ho' hu hvt => ?_
    refine (renderEntries_abreast hleaf hr (hst.trans (ho.le.trans ho'.le)) hu).bind fun _ hu hts => .pure hu ?_
    exact congrArg₂ List.cons (congrArg₂ (fun k v => k ++ ": " ++ v) hkt hvt) hts

end

include hw

theorem reprWith_abreast (hh : h.RunsAbreast c) (hv : Like s v v') : Abreast c s w w' Same (reprWith h v) (reprWith h v') :=
  .get_bind (render_abreast (fun hu hv => leafRepr_abreast hu hh hv) (hw.read hv) le_rfl hw)

/-! ## The knot -/

omit hw in
/-- **Uses of values run abreast,** however deep they are nested. -/
theorem handler_runsAbreast (c : Client) (depth : Nat) : (handler depth).RunsAbreast c := by
  induction depth with
  | zero => exact ⟨fun hw _ _ => .fail hw _ rfl, fun hw _ _ => .fail hw _ rfl, fun hw _ => .fail hw _ rfl⟩
  | succ depth ih =>
    exact ⟨fun hw hv key => readWith_abreast hw ih hv key, fun hw hf hxs => callWith_abreast hw ih hf hxs,
      fun hw hv => reprWith_abreast hw ih hv⟩

theorem read_abreast (hv : Like s v v') (key : String) : Abreast c s w w' Like (read v key) (read v' key) :=
  (handler_runsAbreast c maxDepth).read hw hv key

theorem call_abreast {f f' : Value} (hf : Like s f f') {xs ys : List Value} (hxs : LikeAll s xs ys) :
    Abreast c s w w' Like (call f xs) (call f' ys) :=
  (handler_runsAbreast c maxDepth).call hw hf hxs

theorem repr_abreast (hv : Like s v v') : Abreast c s w w' Same (repr v) (repr v') :=
  (handler_runsAbreast c maxDepth).repr hw hv

theorem shown_abreast (hv : Like s v v') : Abreast c s w w' Same (shown v) (shown v') :=
  shownWith_abreast hw (handler_runsAbreast c maxDepth) hv

/-- Optional values that are both missing, or alike. -/
abbrev LikeOption (s : Matching) : Option Value → Option Value → Prop := Option.Rel (Like s)

theorem read?_abreast (hv : Like s v v') (key : String) : Abreast c s w w' LikeOption (read? v key) (read? v' key) := by
  refine .tryCatch ((read_abreast hw hv key).map fun h => .some h) fun _ hu he => ?_
  rw [he.kind_eq]
  split
  · exact .pure hu .none
  · exact .throw hu he

end Access

end Lineage
