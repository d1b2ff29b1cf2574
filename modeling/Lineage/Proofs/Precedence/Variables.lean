import Lineage.Proofs.Action
import Lineage.Proofs.Precedence

/-!
# Variables — what the environment says about each setting

A leaf has a variable of its own: the name of the setting behind the common stem, or the name of its section and its
own, with two underscores between. A section may also have one variable that holds a table.

**What the environment says about a leaf is the value of its own variable, and else what the variable of the section
holds under its name** (`Leaf.given_environment`); no other variable says anything about it.
-/

set_option autoImplicit false

namespace Lineage

/-! ## Tables in JSON -/

namespace Json

variable {cs r : List Char} {es : List (String × Document)}

theorem readMagnitude_ne_table {negative : Bool} : readMagnitude negative cs ≠ some (.table es, r) := by
  intro h
  unfold readMagnitude at h
  simp only at h
  repeat' split at h
  all_goals cases h

theorem readScalar_ne_table : readScalar cs ≠ some (.table es, r) := by
  intro h
  unfold readScalar at h
  repeat' split at h
  all_goals first
    | cases h
    | exact readMagnitude_ne_table h

/-- The names in a table that is read differ from each other. -/
theorem nodup_keys_readValue {n : Nat} (h : readValue n cs = some (.table es, r)) : (es.map Prod.fst).Nodup := by
  cases n with
  | zero => cases h
  | succ n =>
    unfold readValue at h
    split at h
    · obtain ⟨p, -, hp⟩ := Option.map_eq_some_iff.1 h
      cases hp
    · split at h
      · cases h
      · obtain ⟨p, -, hp⟩ := Option.map_eq_some_iff.1 h
        cases hp
    · split at h
      · cases h
        exact List.nodup_nil
      · obtain ⟨p, -, hp⟩ := Option.map_eq_some_iff.1 h
        cases hp
        exact Fields.nodup_keys_ofList p.1
    · exact absurd h readScalar_ne_table

end Json

namespace Layer

/-! ## Names -/

theorem lowered_lowered (s : String) : lowered (lowered s) = lowered s := by
  simp [lowered, List.map_map, Function.comp_def]

theorem lowered_eq_self_iff {s : String} : lowered s = s ↔ ∀ c ∈ s.toList, c.toLower = c := by
  have hmap : s.toList.map Char.toLower = s.toList ↔ ∀ c ∈ s.toList, c.toLower = c := by
    constructor
    · intro h c hc
      exact List.map_eq_map_iff.1 (h.trans s.toList.map_id.symm) c hc
    · intro h
      exact (List.map_congr_left h).trans s.toList.map_id
  rw [← String.toList_inj, ← hmap]
  simp [lowered]

theorem pieces_ne_nil (cs : List Char) : pieces cs ≠ [] := by
  induction cs using pieces.induct with
  | case1 r => simp [pieces]
  | case2 c r hne p ps hps ih => simp [pieces, hps]
  | case3 c r hne hnil ih => exact absurd hnil ih
  | case4 => simp [pieces]

/-- The first piece is all there is, or two underscores follow it. -/
theorem pieces_head {cs p : List Char} {ps : List (List Char)} (h : pieces cs = p :: ps) :
    ps = [] ∧ cs = p ∨ ps ≠ [] ∧ p ++ ['_', '_'] <+: cs := by
  induction cs using pieces.induct generalizing p ps with
  | case1 r =>
    cases h
    exact .inr ⟨pieces_ne_nil r, r, rfl⟩
  | case2 c r hne p' ps' hps ih =>
    have hcons : pieces (c :: r) = (c :: p') :: ps' := by simp [pieces, hps]
    rw [hcons] at h
    cases h
    rcases ih hps with ⟨rfl, rfl⟩ | ⟨hmore, hprefix⟩
    · exact .inl ⟨rfl, rfl⟩
    · exact .inr ⟨hmore, List.cons_prefix_cons.2 ⟨rfl, hprefix⟩⟩
  | case3 c r hne hnil ih => exact absurd hnil (pieces_ne_nil r)
  | case4 =>
    cases h
    exact .inl ⟨rfl, rfl⟩

theorem mem_pieces {cs p : List Char} (h : p ∈ pieces cs) {c : Char} (hc : c ∈ p) : c ∈ cs := by
  induction cs using pieces.induct generalizing p with
  | case1 r ih =>
    rcases List.mem_cons.1 h with rfl | h
    · cases hc
    · exact List.mem_cons_of_mem _ (List.mem_cons_of_mem _ (ih h hc))
  | case2 c' r hne p' ps' hps ih =>
    have hcons : pieces (c' :: r) = (c' :: p') :: ps' := by simp [pieces, hps]
    rw [hcons] at h
    rcases List.mem_cons.1 h with rfl | h
    · rcases List.mem_cons.1 hc with rfl | hc
      · exact List.mem_cons_self
      · exact List.mem_cons_of_mem _ (ih (hps ▸ List.mem_cons_self) hc)
    · exact List.mem_cons_of_mem _ (ih (hps ▸ List.mem_cons_of_mem _ h) hc)
  | case3 c r hne hnil ih => exact absurd hnil (pieces_ne_nil r)
  | case4 =>
    cases List.mem_singleton.1 h
    cases hc

/-- The variables have names in lower case, which differ from each other. -/
theorem nodup_loweredAll (env : Environment) : ((loweredAll env).map Prod.fst).Nodup :=
  Fields.nodup_keys_ofList _

theorem lowered_of_mem_loweredAll {env : Environment} {e : String × String} (h : e ∈ loweredAll env) :
    lowered e.1 = e.1 := by
  have hnil : ∀ e : String × String, e ∈ [] → lowered e.1 = e.1 := fun e he => nomatch he
  refine Fields.forall_mem_update hnil ?_ e h
  intro e he
  obtain ⟨e', -, rfl⟩ := List.mem_map.1 he
  exact lowered_lowered e'.1

/-! ## Values put below names -/

theorem get?_put_self (name : String) (d : Document) (es : List (String × Document)) :
    Fields.get? (put name d [] es) name = some d :=
  Fields.get?_set_self es name d

/-- A value is put under the first of the names only. -/
theorem get?_put_of_ne {name k : String} (d : Document) {on : List String} (es : List (String × Document))
    (h : (on ++ [name]).head? ≠ some k) : Fields.get? (put name d on es) k = Fields.get? es k := by
  cases on with
  | nil =>
    have hne : k ≠ name := fun heq => h (heq ▸ rfl)
    exact Fields.get?_set_of_ne es d hne
  | cons n ns =>
    have hne : k ≠ n := fun heq => h (heq ▸ rfl)
    rw [put]
    split
    · exact Fields.get?_set_of_ne es _ hne
    · exact Fields.get?_set_of_ne es _ hne
    · rfl

/-- A place that holds a table. -/
def IsTable (x : Option Document) : Prop := ∃ t, x = some (.table t)

/-- What is put further below a name leaves a table there, unless there is something else. -/
theorem get?_put_below (name k : String) (d : Document) (ns : List String) (es : List (String × Document)) :
    Fields.get? (put name d (k :: ns) es) k = Fields.get? es k ∨
      IsTable (Fields.get? (put name d (k :: ns) es) k) ∧ (Fields.get? es k = none ∨ IsTable (Fields.get? es k)) := by
  rw [put]
  split
  · next hnone => exact .inr ⟨⟨_, Fields.get?_set_self _ _ _⟩, .inl hnone⟩
  · next t htable => exact .inr ⟨⟨_, Fields.get?_set_self _ _ _⟩, .inr ⟨t, htable⟩⟩
  · exact .inl rfl

theorem mem_keys_put {name j : String} {d : Document} {on : List String} {es : List (String × Document)}
    (h : j ∈ (put name d on es).map Prod.fst) : (on ++ [name]).head? = some j ∨ j ∈ es.map Prod.fst := by
  cases on with
  | nil =>
    rcases Fields.mem_keys_set.1 h with rfl | h
    · exact .inl rfl
    · exact .inr h
  | cons n ns =>
    rw [put] at h
    split at h
    · rcases Fields.mem_keys_set.1 h with rfl | h
      · exact .inl rfl
      · exact .inr h
    · rcases Fields.mem_keys_set.1 h with rfl | h
      · exact .inl rfl
      · exact .inr h
    · exact .inr h

theorem nodup_keys_put {es : List (String × Document)} (h : (es.map Prod.fst).Nodup) (name : String) (d : Document)
    (on : List String) : ((put name d on es).map Prod.fst).Nodup := by
  cases on with
  | nil => exact Fields.nodup_keys_set h _ _
  | cons n ns =>
    rw [put]
    split
    · exact Fields.nodup_keys_set h _ _
    · exact Fields.nodup_keys_set h _ _
    · exact h

/-! ## The variables of single fields -/

variable {env : Environment} {group f : String} {fields : List (String × Bool)} {es es' on : List (String × Document)}

/-- A variable is passed over, or its value is put below the pieces of its name. -/
theorem takeVariable_eq_ok {e : String × String} (h : takeVariable group fields es e = .ok es') :
    es' = es ∧ ¬ (fieldStem group).toList <+: e.1.toList ∨
      ∃ cs above name d, e.1.toList = (fieldStem group).toList ++ cs ∧
        above ++ [name] = (pieces cs).map String.ofList ∧
        fieldValue group (above.isEmpty && (Fields.get? fields name).getD false) e.2 = .ok d ∧
        es' = put name d above es := by
  unfold takeVariable at h
  split at h
  · next hprefix =>
    obtain ⟨cs, hcs⟩ := List.isPrefixOf_iff_prefix.1 hprefix
    rw [← hcs, List.drop_left] at h
    obtain ⟨d, hd, hput⟩ := Action.map_eq_ok h
    refine .inr ⟨cs, _, _, d, hcs.symm, ?_, hd, hput.symm⟩
    have hne : (pieces cs).map String.ofList ≠ [] := by simp [pieces_ne_nil]
    rw [List.getLast?_eq_some_getLast hne]
    exact List.dropLast_append_getLast hne
  · next hprefix =>
    cases h
    refine .inl ⟨rfl, fun hp => hprefix (List.isPrefixOf_iff_prefix.2 hp)⟩

/-- Under the name of a field, a variable that is not the field's own changes nothing, or puts something below it. -/
theorem takeVariable_other (hf : pieces f.toList = [f.toList]) {e : String × String}
    (hne : e.1 ≠ fieldStem group ++ f) (h : takeVariable group fields es e = .ok es') :
    Fields.get? es' f = Fields.get? es f ∨
      IsTable (Fields.get? es' f) ∧ (Fields.get? es f = none ∨ IsTable (Fields.get? es f)) := by
  rcases takeVariable_eq_ok h with ⟨rfl, -⟩ | ⟨cs, above, name, d, hcs, hnames, -, rfl⟩
  · exact .inl rfl
  · by_cases hhead : (above ++ [name]).head? = some f
    · cases above with
      | nil =>
        -- the variable would be the field's own
        obtain rfl : name = f := Option.some.inj hhead
        have hone : pieces cs = [name.toList] := by
          have hmap := congrArg (List.map String.toList) hnames
          simpa [Function.comp_def] using hmap.symm
        rcases pieces_head hone with ⟨-, rfl⟩ | ⟨hmore, -⟩
        · refine absurd ?_ hne
          rw [← String.toList_inj, hcs, String.toList_append]
        · exact absurd rfl hmore
      | cons n ns =>
        obtain rfl : n = f := Option.some.inj hhead
        exact get?_put_below name n d ns es
    · exact .inl (get?_put_of_ne d es hhead)

/-- The variable of a field sets it. -/
theorem takeVariable_own (hf : pieces f.toList = [f.toList]) {s : String}
    (h : takeVariable group fields es (fieldStem group ++ f, s) = .ok es') :
    ∃ d, fieldValue group ((Fields.get? fields f).getD false) s = .ok d ∧ Fields.get? es' f = some d := by
  rcases takeVariable_eq_ok h with ⟨-, hprefix⟩ | ⟨cs, above, name, d, hcs, hnames, hd, rfl⟩
  · refine absurd ?_ hprefix
    rw [String.toList_append]
    exact List.prefix_append _ _
  · obtain rfl : f.toList = cs := by
      rw [String.toList_append] at hcs
      exact List.append_cancel_left hcs
    rw [hf, List.map_singleton, String.ofList_toList] at hnames
    obtain ⟨rfl, hname⟩ := List.append_eq_singleton_iff.1 hnames |>.resolve_right (by simp)
    obtain rfl : name = f := List.singleton_inj.1 hname
    exact ⟨d, hd, get?_put_self name d es⟩

/-- What the variables preserve one by one, they preserve together. -/
theorem foldlM_takeVariable {P : List (String × Document) → Prop}
    (hstep : ∀ e ∈ env, ∀ es es', P es → takeVariable group fields es e = .ok es' → P es') (hP : P es)
    (h : env.foldlM (takeVariable group fields) es = .ok on) : P on := by
  induction env generalizing es with
  | nil =>
    cases h
    exact hP
  | cons e r ih =>
    rw [List.foldlM_cons] at h
    cases hfirst : takeVariable group fields es e with
    | error f =>
      rw [hfirst] at h
      cases h
    | ok es₁ =>
      rw [hfirst] at h
      have hP₁ : P es₁ := hstep e List.mem_cons_self es es₁ hP hfirst
      exact ih (fun e' he' => hstep e' (List.mem_cons_of_mem _ he')) hP₁ h

/-- A field whose variable is not set is not given, or holds what was put below it. -/
theorem ofFields_unset (hf : pieces f.toList = [f.toList]) (hunset : fieldStem group ++ f ∉ env.map Prod.fst)
    (h : ofFields env group fields = .ok on) : Fields.get? on f = none ∨ IsTable (Fields.get? on f) := by
  refine foldlM_takeVariable (P := fun es => Fields.get? es f = none ∨ IsTable (Fields.get? es f)) ?_ (.inl rfl) h
  intro e he es es' hP hstep
  have hne : e.1 ≠ fieldStem group ++ f := fun heq => hunset (heq ▸ List.mem_map_of_mem he)
  rcases takeVariable_other hf hne hstep with hsame | ⟨htable, -⟩
  · rw [hsame]
    exact hP
  · exact .inr htable

/-- A field whose variable is set has its value, or holds what was put below it. -/
theorem ofFields_set (hf : pieces f.toList = [f.toList]) (hn : (env.map Prod.fst).Nodup) {s : String}
    (hset : Fields.get? env (fieldStem group ++ f) = some s) (h : ofFields env group fields = .ok on) :
    ∃ d, fieldValue group ((Fields.get? fields f).getD false) s = .ok d ∧
      (Fields.get? on f = some d ∨ IsTable (Fields.get? on f)) := by
  obtain ⟨before, after, rfl⟩ := List.append_of_mem (Fields.mem_of_get? hset)
  rw [ofFields, List.foldlM_append] at h
  cases hbefore : before.foldlM (takeVariable group fields) [] with
  | error e =>
    rw [hbefore] at h
    cases h
  | ok es =>
    rw [hbefore] at h
    change List.foldlM _ es _ = _ at h
    rw [List.foldlM_cons] at h
    cases hown : takeVariable group fields es (fieldStem group ++ f, s) with
    | error e =>
      rw [hown] at h
      cases h
    | ok es' =>
      rw [hown] at h
      obtain ⟨d, hd, hget⟩ := takeVariable_own hf hown
      refine ⟨d, hd, ?_⟩
      refine foldlM_takeVariable (P := fun es => Fields.get? es f = some d ∨ IsTable (Fields.get? es f)) ?_ (.inl hget) h
      intro e he es es' hP hstep
      have hne : e.1 ≠ fieldStem group ++ f := by
        intro heq
        rw [List.map_append, List.map_cons] at hn
        have hnot := (List.nodup_cons.1 (List.nodup_append.1 hn).2.1).1
        exact hnot (List.mem_map.2 ⟨e, he, heq⟩)
      rcases takeVariable_other hf hne hstep with hsame | ⟨htable, -⟩
      · rw [hsame]
        exact hP
      · exact .inr htable

theorem nodup_keys_ofFields (h : ofFields env group fields = .ok on) : (on.map Prod.fst).Nodup := by
  have hnil : (([] : List (String × Document)).map Prod.fst).Nodup := List.nodup_nil
  refine foldlM_takeVariable (P := fun es => (es.map Prod.fst).Nodup) ?_ hnil h
  intro e he es es' hP hstep
  rcases takeVariable_eq_ok hstep with ⟨rfl, -⟩ | ⟨cs, above, name, d, -, -, -, rfl⟩
  · exact hP
  · exact nodup_keys_put hP name d above

/-- Variables in lower case give fields in lower case. -/
theorem lowered_of_mem_ofFields (hlow : ∀ e ∈ env, lowered e.1 = e.1) (h : ofFields env group fields = .ok on) :
    ∀ k ∈ on.map Prod.fst, lowered k = k := by
  have hnil : ∀ k ∈ ([] : List (String × Document)).map Prod.fst, lowered k = k := fun k hk => absurd hk List.not_mem_nil
  refine foldlM_takeVariable (P := fun es => ∀ k ∈ es.map Prod.fst, lowered k = k) ?_ hnil h
  intro e he es es' hP hstep k hk
  rcases takeVariable_eq_ok hstep with ⟨rfl, -⟩ | ⟨cs, above, name, d, hcs, hnames, -, rfl⟩
  · exact hP k hk
  · rcases mem_keys_put hk with hhead | hk
    · rw [hnames, List.head?_map] at hhead
      obtain ⟨p, hp, rfl⟩ := Option.map_eq_some_iff.1 hhead
      rw [lowered_eq_self_iff, String.toList_ofList]
      intro c hc
      have hmem : c ∈ e.1.toList := by
        rw [hcs]
        exact List.mem_append_right _ (mem_pieces (List.mem_of_mem_head? hp) hc)
      exact lowered_eq_self_iff.1 (hlow e he) c hmem
    · exact hP k hk

/-! ## A whole section -/

/-- An entry under the name of a field in its usual case. -/
def usual (fields : List (String × Bool)) (e : String × Document) : String × Document :=
  if Fields.has fields (lowered e.1) then (lowered e.1, e.2) else e

theorem usual_self (hf : lowered f = f) (d : Document) : usual fields (f, d) = (f, d) := by
  simp [usual, hf]

/-- Only an entry that is spelt otherwise could come to the name of a field. -/
theorem usual_ne {e : String × Document} (hne : e.1 ≠ f) (hspelt : lowered e.1 = f → e.1 = f) :
    (usual fields e).1 ≠ f := by
  unfold usual
  split
  · exact fun heq => hne (hspelt heq)
  · exact hne

/-- A field that has its usual spelling only is found as it is behind any other entries. -/
theorem get?_update_usual (hf : lowered f = f) (hn : (es.map Prod.fst).Nodup)
    (hspelt : ∀ k ∈ es.map Prod.fst, lowered k = f → k = f) (ts : List (String × Document)) :
    Fields.get? (Fields.update ts (es.map (usual fields))) f = (Fields.get? es f).or (Fields.get? ts f) := by
  induction es generalizing ts with
  | nil => rfl
  | cons e r ih =>
    obtain ⟨k, d⟩ := e
    obtain ⟨hnot, hr⟩ := List.nodup_cons.1 hn
    have hspelt' : ∀ k ∈ r.map Prod.fst, lowered k = f → k = f := fun k hk => hspelt k (List.mem_cons_of_mem _ hk)
    rw [List.map_cons]
    show Fields.get? (Fields.update (Fields.set ts (usual fields (k, d)).1 (usual fields (k, d)).2) (r.map (usual fields))) f = _
    rw [ih hr hspelt']
    by_cases hk : k = f
    · subst hk
      have hnone : Fields.get? r k = none := Fields.get?_eq_none_iff.2 hnot
      rw [usual_self hf, hnone, Fields.get?_set_self]
      simp [Fields.get?]
    · have hother : (usual fields (k, d)).1 ≠ f := usual_ne hk (hspelt k List.mem_cons_self)
      have hhead : Fields.get? ((k, d) :: r) f = Fields.get? r f := by simp [Fields.get?, hk]
      rw [Fields.get?_set_of_ne _ _ (Ne.symm hother), hhead]

/-- So it is found as it is when all names are put into their usual case. -/
theorem get?_canonical (hf : lowered f = f) (hn : (es.map Prod.fst).Nodup)
    (hspelt : ∀ k ∈ es.map Prod.fst, lowered k = f → k = f) : Fields.get? (canonical fields es) f = Fields.get? es f :=
  (get?_update_usual hf hn hspelt []).trans (Option.or_none ..)

/-- A table that is laid over a place leaves a table there. -/
theorem isTable_overlay (whole : Option Document) (t : List (String × Document)) :
    IsTable (some ((whole.map fun w => w.overlay (.table t)).getD (.table t))) := by
  cases whole with
  | none => exact ⟨t, rfl⟩
  | some w => cases w <;> exact ⟨_, rfl⟩

/-- The names in a table that is spelt in JSON differ from each other. -/
theorem nodup_keys_ofJson? {s : String} (h : Document.ofJson? s = some (.table es)) : (es.map Prod.fst).Nodup := by
  unfold Document.ofJson? at h
  obtain ⟨⟨d, r⟩, hread, hend⟩ := Option.bind_eq_some_iff.1 h
  simp only at hend
  split at hend
  · cases hend
    exact Json.nodup_keys_readValue hread
  · cases hend

/-- What variables say about a field of a section: what the field's own variable or one below it says, and else what the
section's variable says, where that holds a table that has no other spelling of the field. -/
theorem ofGroup_field {x : Option Document} (hf : lowered f = f) (hlow : ∀ e ∈ env, lowered e.1 = e.1)
    (hplain : ∀ j, Fields.get? env (stem ++ group) = some j → ∃ es, Document.ofJson? j = some (.table es) ∧
      ∀ k ∈ es.map Prod.fst, lowered k = f → k = f)
    (h : ofGroup env group fields = .ok x) :
    let whole := ((Fields.get? env (stem ++ group)).bind Document.ofJson?).bind fun d => d.get? f
    ∃ on, ofFields env group fields = .ok on ∧
      (x.bind fun d => d.get? f) = match Fields.get? on f with
        | some d => some ((whole.map fun w => w.overlay d).getD d)
        | none => whole := by
  have hspelt {on : List (String × Document)} (hon : ofFields env group fields = .ok on) :
      ∀ k ∈ on.map Prod.fst, lowered k = f → k = f :=
    fun k hk heq => (lowered_of_mem_ofFields hlow hon k hk).symm.trans heq
  unfold ofGroup at h
  cases hwhole : Fields.get? env (stem ++ group) with
  | none =>
    rw [hwhole] at h
    obtain ⟨on, hon, hx⟩ := Action.map_eq_ok h
    refine ⟨on, hon, ?_⟩
    have hfield : (x.bind fun d => d.get? f) = Fields.get? on f := by
      rw [← hx]
      cases on with
      | nil => rfl
      | cons e r => exact get?_canonical hf (nodup_keys_ofFields hon) (hspelt hon)
    rw [hfield]
    cases Fields.get? on f <;> rfl
  | some j =>
    obtain ⟨es, hes, hplain⟩ := hplain j hwhole
    simp only [hwhole, hes] at h
    obtain ⟨on, hon, rfl⟩ := Action.map_eq_ok h
    refine ⟨on, hon, ?_⟩
    have hnodup : ((Document.overlayAll es on).map Prod.fst).Nodup :=
      Document.nodup_keys_overlayAll (nodup_keys_ofJson? hes) on
    have hall : ∀ k ∈ (Document.overlayAll es on).map Prod.fst, lowered k = f → k = f := by
      intro k hk
      rcases Document.mem_keys_overlayAll.1 hk with hk | hk
      · exact hplain k hk
      · exact hspelt hon k hk
    simp only [Option.bind_some, hes]
    exact (get?_canonical hf hnodup hall).trans (Document.get?_overlayAll (nodup_keys_ofFields hon) es f)

/-- The names in what variables say about a section differ from each other. -/
theorem nodup_keys_ofGroup {x : Document} (h : ofGroup env group fields = .ok (some x)) :
    (x.entries.map Prod.fst).Nodup := by
  unfold ofGroup at h
  split at h
  · obtain ⟨on, -, hx⟩ := Action.map_eq_ok h
    split at hx
    · cases hx
    · cases hx
      exact Fields.nodup_keys_ofList _
  · split at h
    · cases h
    · obtain ⟨on, -, hx⟩ := Action.map_eq_ok h
      cases hx
      exact Fields.nodup_keys_ofList _
    · cases h
    · next hnot _ _ =>
      cases h
      cases x with
      | table es => exact absurd rfl (hnot es)
      | _ => exact List.nodup_nil

/-! ## The whole environment -/

/-- Settings one after the other, each with what is said about it. -/
def Said (env : Environment) : List (String × Setting) → List (Option (String × Document)) → Prop :=
  List.Forall₂ fun s y => ∃ x, ofSetting env s.1 s.2 = .ok x ∧ y = x.map fun d => (s.1, d)

variable {ss : List (String × Setting)} {ys : List (Option (String × Document))}

theorem said_of_mapM (h : (ss.mapM fun s => (ofSetting env s.1 s.2).map fun d => d.map fun d => (s.1, d)) = .ok ys) :
    Said env ss ys := by
  induction ss generalizing ys with
  | nil =>
    cases h
    exact .nil
  | cons s r ih =>
    rw [List.mapM_cons] at h
    cases hs : ofSetting env s.1 s.2 with
    | error e =>
      rw [hs] at h
      cases h
    | ok x =>
      cases hr : r.mapM fun s => (ofSetting env s.1 s.2).map fun d => d.map fun d => (s.1, d) with
      | error e =>
        rw [hs, hr] at h
        cases h
      | ok zs =>
        rw [hs, hr] at h
        cases h
        exact .cons ⟨x, hs, rfl⟩ (ih hr)

/-- What is said is said about settings. -/
theorem Said.keys_sublist (h : Said env ss ys) : ((ys.filterMap id).map Prod.fst).Sublist (ss.map Prod.fst) := by
  induction h with
  | nil => exact List.Sublist.slnil
  | @cons s y r zs hs _ ih =>
    obtain ⟨x, -, rfl⟩ := hs
    cases x with
    | none => exact ih.cons _
    | some d => exact ih.cons_cons _

/-- Under the name of a setting there is what was said about it. -/
theorem Said.get? (h : Said env ss ys) (hn : (ss.map Prod.fst).Nodup) {k : String} {st : Setting} (hk : (k, st) ∈ ss) :
    ∃ x, ofSetting env k st = .ok x ∧ Fields.get? (ys.filterMap id) k = x := by
  induction h with
  | nil => cases hk
  | @cons s y r zs hs hr ih =>
    obtain ⟨hnot, hn⟩ := List.nodup_cons.1 hn
    obtain ⟨x, hx, rfl⟩ := hs
    rcases List.mem_cons.1 hk with rfl | hk
    · refine ⟨x, hx, ?_⟩
      cases x with
      | none =>
        have hrest : k ∉ (zs.filterMap id).map Prod.fst := fun hmem => hnot ((Said.keys_sublist hr).subset hmem)
        exact Fields.get?_eq_none_iff.2 hrest
      | some d => simp [Fields.get?]
    · obtain ⟨x', hx', hget⟩ := ih hn hk
      refine ⟨x', hx', ?_⟩
      have hne : s.1 ≠ k := fun heq => hnot (heq ▸ List.mem_map_of_mem hk)
      rw [← hget]
      cases x with
      | none => rfl
      | some d => simp [Fields.get?, hne]

theorem ofEnvironment_eq_ok {d : Document} (h : ofEnvironment env = .ok d) :
    ∃ ys, Said (loweredAll env) schema ys ∧ d = .table (ys.filterMap id) := by
  unfold ofEnvironment at h
  cases hys : schema.mapM fun s => (ofSetting (loweredAll env) s.1 s.2).map fun d => d.map fun d => (s.1, d) with
  | error e =>
    rw [hys] at h
    cases h
  | ok ys =>
    rw [hys] at h
    cases h
    exact ⟨ys, said_of_mapM hys, rfl⟩

theorem nodup_schema : (schema.map Prod.fst).Nodup := by decide

/-- The names that the environment gives differ from each other, in each section as well. -/
theorem distinct_ofEnvironment {d : Document} (h : ofEnvironment env = .ok d) : d.Distinct where
  names := by
    obtain ⟨ys, hys, rfl⟩ := ofEnvironment_eq_ok h
    exact hys.keys_sublist.nodup nodup_schema
  groups := by
    obtain ⟨ys, hys, rfl⟩ := ofEnvironment_eq_ok h
    intro g hg x hx
    obtain ⟨fields, hmem⟩ : ∃ fields, (g, Setting.group fields) ∈ schema := by
      rcases List.mem_pair.1 hg with rfl | rfl
      · exact ⟨_, List.mem_of_getElem? (i := 4) rfl⟩
      · exact ⟨_, List.mem_of_getElem? (i := 5) rfl⟩
    obtain ⟨x', hx', hget⟩ := hys.get? nodup_schema hmem
    obtain rfl : x' = some x := hget.symm.trans hx
    exact nodup_keys_ofGroup hx'

end Layer

/-! ## Leaves -/

namespace Leaf

/-- The name of the variable of a leaf, in lower case. -/
def variableName (l : Leaf) : String :=
  match l.group? with
  | none => Layer.stem ++ l.name
  | some g => Layer.fieldStem g ++ l.name

/-- What the value of the variable of a leaf stands for: a list is spelt in JSON, all else is taken as it is. -/
def ofVariable (l : Leaf) (s : String) : Except Failure Document :=
  match l with
  | excluded => Layer.fieldValue "types" true s
  | _ => .ok (.text s)

/-- What the variable of the whole section says about a leaf. -/
def ofWhole (l : Leaf) (env : Environment) : Option Document :=
  match l.group? with
  | none => none
  | some g => ((Fields.get? (Layer.loweredAll env) (Layer.stem ++ g)).bind Document.ofJson?).bind fun d => d.get? l.name

/-- The variable of the whole section, if it is set, holds a table that has no other spelling of the leaf. -/
def Plain (l : Leaf) (env : Environment) : Prop :=
  ∀ g j, l.group? = some g → Fields.get? (Layer.loweredAll env) (Layer.stem ++ g) = some j →
    ∃ es, Document.ofJson? j = some (.table es) ∧ ∀ k ∈ es.map Prod.fst, Layer.lowered k = l.name → k = l.name

variable {l : Leaf}

theorem plain_mem_schema (h : l.group? = none) : (l.name, Layer.Setting.plain) ∈ Layer.schema := by
  cases l <;> cases h
  · exact List.mem_of_getElem? (i := 1) rfl
  · exact List.mem_of_getElem? (i := 2) rfl
  · exact List.mem_of_getElem? (i := 3) rfl

theorem group_mem_schema {g : String} (h : l.group? = some g) :
    ∃ fields, (g, Layer.Setting.group fields) ∈ Layer.schema ∧
      ∀ s, Layer.fieldValue g ((Fields.get? fields l.name).getD false) s = l.ofVariable s := by
  cases l <;> cases h
  · exact ⟨_, List.mem_of_getElem? (i := 4) rfl, fun s => rfl⟩
  · exact ⟨_, List.mem_of_getElem? (i := 4) rfl, fun s => rfl⟩
  · exact ⟨_, List.mem_of_getElem? (i := 5) rfl, fun s => rfl⟩

theorem pieces_name (l : Leaf) : Layer.pieces l.name.toList = [l.name.toList] := by
  cases l <;> decide

theorem lowered_name (l : Leaf) : Layer.lowered l.name = l.name := by
  cases l <;> decide

/-- A leaf of a valid source is no table. -/
theorem not_isTable_given {d : Document} (hd : d.Valid) (l : Leaf) : ¬ Layer.IsTable (l.given d) := by
  rintro ⟨t, ht⟩
  obtain ⟨v, hv⟩ := hd.leaves l _ ht
  exact not_table hv t rfl

section

variable {env : Environment} {d : Document} (h : Layer.ofEnvironment env = .ok d)
include h

/-- A setting outside the sections has nothing but its own variable. -/
theorem given_of_plain (hgroup : l.group? = none) :
    match Fields.get? (Layer.loweredAll env) l.variableName with
    | some s => ∃ x, l.ofVariable s = .ok x ∧ l.given d = some x
    | none => l.given d = l.ofWhole env := by
  obtain ⟨ys, hys, rfl⟩ := Layer.ofEnvironment_eq_ok h
  obtain ⟨x, hx, hget⟩ := hys.get? Layer.nodup_schema (plain_mem_schema hgroup)
  have hgiven : l.given (.table (ys.filterMap id)) = x := by
    rw [given, hgroup]
    exact hget
  have hname : l.variableName = Layer.stem ++ l.name := by
    rw [variableName, hgroup]
  rw [hgiven, hname]
  cases hx
  cases Fields.get? (Layer.loweredAll env) (Layer.stem ++ l.name) with
  | none => rw [ofWhole, hgroup]; rfl
  | some s =>
    refine ⟨.text s, ?_, rfl⟩
    cases l <;> cases hgroup <;> rfl

/-- What the environment says about a field of a section is what the variables of fields say, laid over what the variable of
the whole section holds. -/
theorem given_of_fields {g : String} (hgroup : l.group? = some g) (hplain : l.Plain env) :
    ∃ fields on, (∀ s, Layer.fieldValue g ((Fields.get? fields l.name).getD false) s = l.ofVariable s) ∧
      Layer.ofFields (Layer.loweredAll env) g fields = .ok on ∧
      l.given d = match Fields.get? on l.name with
        | some x => some (((l.ofWhole env).map fun low => low.overlay x).getD x)
        | none => l.ofWhole env := by
  obtain ⟨ys, hys, rfl⟩ := Layer.ofEnvironment_eq_ok h
  obtain ⟨fields, hmem, hvalue⟩ := group_mem_schema hgroup
  obtain ⟨x, hx, hget⟩ := hys.get? Layer.nodup_schema hmem
  obtain ⟨on, hon, hfield⟩ := Layer.ofGroup_field (lowered_name l)
    (fun e he => Layer.lowered_of_mem_loweredAll he) (fun j hj => hplain g j hgroup hj) hx
  have hgiven : l.given (.table (ys.filterMap id)) = x.bind fun t => t.get? l.name := by
    rw [given, hgroup, ← hget]
    rfl
  have hwhole : l.ofWhole env = ((Fields.get? (Layer.loweredAll env) (Layer.stem ++ g)).bind Document.ofJson?).bind
      fun d => d.get? l.name := by
    rw [ofWhole, hgroup]
  exact ⟨fields, on, hvalue, hon, by rw [hgiven, hwhole, hfield]⟩

end

/-- **What the environment says about a leaf is the value of its own variable, and else what the variable of the section
holds under its name.** -/
theorem given_environment {env : Environment} {d : Document} (h : Layer.ofEnvironment env = .ok d) (hd : d.Valid)
    (l : Leaf) (hplain : l.Plain env) :
    match Fields.get? (Layer.loweredAll env) l.variableName with
    | some s => ∃ x, l.ofVariable s = .ok x ∧ l.given d = some x
    | none => l.given d = l.ofWhole env := by
  have hnot := not_isTable_given hd l
  cases hgroup : l.group? with
  | none => exact given_of_plain h hgroup
  | some g =>
    obtain ⟨fields, on, hvalue, hon, hgiven⟩ := given_of_fields h hgroup hplain
    have hname : l.variableName = Layer.fieldStem g ++ l.name := by
      rw [variableName, hgroup]
    rw [hgiven] at hnot ⊢
    rw [hname]
    -- a variable of a part of the field would make a table of it
    cases hown : Fields.get? (Layer.loweredAll env) (Layer.fieldStem g ++ l.name) with
    | none =>
      rcases Layer.ofFields_unset (pieces_name l) (Fields.get?_eq_none_iff.1 hown) hon with hnone | ⟨t, ht⟩
      · rw [hnone]
      · rw [ht] at hnot
        exact absurd (Layer.isTable_overlay _ t) hnot
    | some s =>
      obtain ⟨x, hx, hget | ⟨t, ht⟩⟩ := Layer.ofFields_set (pieces_name l) (Layer.nodup_loweredAll env) hown hon
      · refine ⟨x, (hvalue s).symm.trans hx, ?_⟩
        rw [hget] at hnot ⊢
        have hflat : ∀ t, x ≠ .table t := by
          rintro t rfl
          exact hnot (Layer.isTable_overlay _ t)
        cases l.ofWhole env with
        | none => rfl
        | some low => exact congrArg some (Document.overlay_of_not_table hflat low)
      · rw [ht] at hnot
        exact absurd (Layer.isTable_overlay _ t) hnot

end Leaf

end Lineage
