/-!
# Fields — tables that keep their order

A table is a list of named values in which a name is looked up from the front. Setting a name that is there keeps its
place, setting a new one puts it last; so a table remembers the order in which its names first came.
`Fields.get?_set_self` and `Fields.get?_set_of_ne` say what a set changes, `Fields.filter_set` what is seen of it when some
names are hidden, `Fields.keys_set` what becomes of the order; `Fields.update_update` says that overwriting is associative.
-/

set_option autoImplicit false

namespace Lineage.Fields

variable {α : Type}

/-- The value under a key. -/
def get? (fs : List (String × α)) (key : String) : Option α := (fs.find? (·.1 = key)).map (·.2)

/-- The table with a value under a key: a key keeps its place, a new key goes last. -/
def set (fs : List (String × α)) (key : String) (v : α) : List (String × α) :=
  match fs with
  | [] => [(key, v)]
  | (k, w) :: r => if k = key then (k, v) :: r else (k, w) :: set r key v

/-- The table without a key. -/
def erase (fs : List (String × α)) (key : String) : List (String × α) := fs.filter (·.1 ≠ key)

/-- Whether the table has a key. -/
def has (fs : List (String × α)) (key : String) : Bool := fs.any (·.1 = key)

/-- The first table overwritten by the entries of the second, in their order. -/
def update (fs gs : List (String × α)) : List (String × α) := gs.foldl (fun t e => set t e.1 e.2) fs

/-- The table of a list of entries in which a key may be repeated: the first place, the last value. -/
def ofList (es : List (String × α)) : List (String × α) := update [] es

theorem get?_set_self (fs : List (String × α)) (k : String) (v : α) :
    get? (set fs k v) k = some v := by
  induction fs with
  | nil => simp [set, get?]
  | cons e r ih =>
    obtain ⟨k', w⟩ := e
    by_cases h : k' = k
    · simp [set, get?, h]
    · simpa [set, get?, h] using ih

theorem get?_set_of_ne (fs : List (String × α)) {k j : String} (v : α) (h : j ≠ k) :
    get? (set fs k v) j = get? fs j := by
  induction fs with
  | nil => simp [set, get?, Ne.symm h]
  | cons e r ih =>
    obtain ⟨k', w⟩ := e
    by_cases hk : k' = k
    · subst hk
      simp [set, get?, Ne.symm h]
    · by_cases hj : k' = j
      · subst hj
        simp [set, get?, h]
      · simpa [set, get?, hk, hj] using ih

theorem mem_of_get? {fs : List (String × α)} {k : String} {v : α} (h : get? fs k = some v) : (k, v) ∈ fs := by
  obtain ⟨e, he, rfl⟩ := Option.map_eq_some_iff.1 h
  have hk : e.1 = k := by simpa using List.find?_some he
  exact hk ▸ List.mem_of_find?_eq_some he

theorem get?_eq_none_iff {fs : List (String × α)} {k : String} : get? fs k = none ↔ k ∉ fs.map Prod.fst := by
  constructor
  · intro h hk
    obtain ⟨e, he, rfl⟩ := List.mem_map.1 hk
    have hnone := List.find?_eq_none.1 (Option.map_eq_none_iff.1 h) e he
    simp at hnone
  · intro h
    cases hk : get? fs k with
    | none => rfl
    | some v => exact absurd (List.mem_map.2 ⟨(k, v), mem_of_get? hk, rfl⟩) h

theorem get?_erase_of_ne (fs : List (String × α)) {k j : String} (h : j ≠ k) : get? (erase fs k) j = get? fs j := by
  induction fs with
  | nil => rfl
  | cons e r ih =>
    obtain ⟨k', w⟩ := e
    by_cases hk : k' = k
    · subst hk
      simpa [erase, get?, Ne.symm h] using ih
    · by_cases hj : k' = j
      · subst hj
        simp [erase, get?, h]
      · simpa [erase, get?, hk, hj] using ih

/-- Where some names are hidden, setting a name that is seen is seen as it is, and setting a hidden one is not seen. -/
theorem filter_set (p : String → Bool) (fs : List (String × α)) (k : String) (v : α) :
    (set fs k v).filter (fun e => p e.1) =
      if p k then set (fs.filter fun e => p e.1) k v else fs.filter fun e => p e.1 := by
  induction fs with
  | nil => cases hp : p k <;> simp [set, hp]
  | cons e r ih =>
    obtain ⟨k', w⟩ := e
    by_cases hk : k' = k
    · subst hk
      cases hp : p k' <;> simp [set, hp]
    · cases hp : p k' <;> cases hq : p k <;> simp [set, hk, hp, hq, ih]

theorem filter_erase (p : String → Bool) (fs : List (String × α)) (k : String) :
    (erase fs k).filter (fun e => p e.1) = erase (fs.filter fun e => p e.1) k := by
  unfold erase
  rw [List.filter_filter, List.filter_filter]
  congr 1
  funext e
  exact Bool.and_comm _ _

theorem filter_update (p : String → Bool) (fs gs : List (String × α)) :
    (update fs gs).filter (fun e => p e.1) = update (fs.filter fun e => p e.1) (gs.filter fun e => p e.1) := by
  unfold update
  induction gs generalizing fs with
  | nil => rfl
  | cons e r ih =>
    rw [List.foldl_cons, ih, filter_set, List.filter_cons]
    cases p e.1 <;> rfl

/-! ## What all entries have in common -/

theorem forall_mem_set {P : String × α → Prop} {fs : List (String × α)} {k : String} {v : α} (h : ∀ e ∈ fs, P e)
    (hk : P (k, v)) : ∀ e ∈ set fs k v, P e := by
  induction fs with
  | nil =>
    intro e he
    cases List.mem_singleton.1 he
    exact hk
  | cons e' r ih =>
    obtain ⟨k', w⟩ := e'
    have hr : ∀ e ∈ r, P e := fun e he => h e (List.mem_cons_of_mem _ he)
    intro e he
    by_cases hkk : k' = k
    · rw [set, if_pos hkk] at he
      rcases List.mem_cons.1 he with rfl | he
      · exact hkk ▸ hk
      · exact hr e he
    · rw [set, if_neg hkk] at he
      rcases List.mem_cons.1 he with rfl | he
      · exact h _ List.mem_cons_self
      · exact ih hr e he

theorem forall_mem_update {P : String × α → Prop} {fs gs : List (String × α)} (h : ∀ e ∈ fs, P e)
    (hg : ∀ e ∈ gs, P e) : ∀ e ∈ update fs gs, P e := by
  unfold update
  induction gs generalizing fs with
  | nil => exact h
  | cons e r ih =>
    exact ih (forall_mem_set h (hg e List.mem_cons_self)) fun e' he' => hg e' (List.mem_cons_of_mem _ he')

theorem mem_keys_set {fs : List (String × α)} {j k : String} {v : α} :
    j ∈ (set fs k v).map Prod.fst ↔ j = k ∨ j ∈ fs.map Prod.fst := by
  induction fs with
  | nil => simp [set]
  | cons e r ih =>
    obtain ⟨k', w⟩ := e
    by_cases hkk : k' = k
    · subst hkk
      simp [set]
    · rw [set, if_neg hkk, List.map_cons, List.map_cons, List.mem_cons, List.mem_cons, ih]
      exact or_left_comm

theorem mem_keys_update {fs gs : List (String × α)} {j : String} :
    j ∈ (update fs gs).map Prod.fst ↔ j ∈ fs.map Prod.fst ∨ j ∈ gs.map Prod.fst := by
  unfold update
  induction gs generalizing fs with
  | nil => simp
  | cons e r ih =>
    rw [List.foldl_cons, ih, mem_keys_set, List.map_cons, List.mem_cons, or_assoc, or_left_comm]

theorem has_iff {fs : List (String × α)} {k : String} : has fs k = true ↔ k ∈ fs.map Prod.fst := by
  simp only [has, List.any_eq_true, decide_eq_true_eq, List.mem_map]

/-! ## The order of the keys -/

theorem keys_set (fs : List (String × α)) (k : String) (v : α) :
    (set fs k v).map Prod.fst = if has fs k then fs.map Prod.fst else fs.map Prod.fst ++ [k] := by
  induction fs with
  | nil => rfl
  | cons e r ih =>
    obtain ⟨k', w⟩ := e
    by_cases hk : k' = k
    · simp [set, has, hk]
    · have hhas : has ((k', w) :: r) k = has r k := by simp [has, hk]
      rw [set, if_neg hk, List.map_cons, ih, hhas]
      split <;> rfl

theorem nodup_keys_set {fs : List (String × α)} (h : (fs.map Prod.fst).Nodup) (k : String) (v : α) :
    ((set fs k v).map Prod.fst).Nodup := by
  rw [keys_set]
  split
  · exact h
  · next hk =>
    refine List.nodup_append.2 ⟨h, List.nodup_cons.2 ⟨List.not_mem_nil, List.nodup_nil⟩, fun a ha b hb heq => ?_⟩
    rw [List.mem_singleton.1 hb] at heq
    exact hk (has_iff.2 (heq ▸ ha))

theorem nodup_keys_update {fs : List (String × α)} (h : (fs.map Prod.fst).Nodup) (gs : List (String × α)) :
    ((update fs gs).map Prod.fst).Nodup := by
  unfold update
  induction gs generalizing fs with
  | nil => exact h
  | cons e r ih => exact ih (nodup_keys_set h e.1 e.2)

/-- The keys of a table differ from each other. -/
theorem nodup_keys_ofList (es : List (String × α)) : ((ofList es).map Prod.fst).Nodup :=
  have hnil : (([] : List (String × α)).map Prod.fst).Nodup := List.nodup_nil
  nodup_keys_update hnil es

/-- A table that is overwritten under its own keys only keeps their order. -/
theorem keys_update_of_has {fs gs : List (String × α)} (h : ∀ e ∈ gs, has fs e.1 = true) :
    (update fs gs).map Prod.fst = fs.map Prod.fst := by
  unfold update
  induction gs generalizing fs with
  | nil => rfl
  | cons e r ih =>
    have hkeys : (set fs e.1 e.2).map Prod.fst = fs.map Prod.fst := by
      rw [keys_set, if_pos (h e List.mem_cons_self)]
    rw [List.foldl_cons, ih, hkeys]
    intro e' he'
    rw [has_iff, hkeys, ← has_iff]
    exact h e' (List.mem_cons_of_mem _ he')

/-- What is overwritten by a table ends with a key of that table, unless it has all these keys already. -/
theorem last_key_update (fs gs : List (String × α)) :
    (∀ e ∈ gs, has fs e.1 = true) ∨ ∃ k ∈ gs.map Prod.fst, ((update fs gs).map Prod.fst).getLast? = some k := by
  unfold update
  induction gs generalizing fs with
  | nil => exact .inl fun e he => nomatch he
  | cons e r ih =>
    rw [List.foldl_cons, List.map_cons]
    rcases ih (set fs e.1 e.2) with hall | ⟨k, hk, hlast⟩
    · have hkeys := keys_update_of_has hall
      unfold update at hkeys
      rw [hkeys, keys_set]
      by_cases he : has fs e.1 = true
      · refine .inl fun e' he' => ?_
        rcases List.mem_cons.1 he' with rfl | he'
        · exact he
        · have hset := has_iff.1 (hall e' he')
          rw [keys_set, if_pos he] at hset
          exact has_iff.2 hset
      · rw [if_neg he, List.getLast?_concat]
        exact .inr ⟨e.1, List.mem_cons_self, rfl⟩
    · exact .inr ⟨k, List.mem_cons_of_mem _ hk, hlast⟩

/-! ## One change after the other -/

theorem set_set (fs : List (String × α)) (k : String) (v w : α) : set (set fs k v) k w = set fs k w := by
  induction fs with
  | nil => simp [set]
  | cons e r ih =>
    obtain ⟨k', x⟩ := e
    by_cases hk : k' = k
    · simp [set, hk]
    · simpa [set, hk] using ih

/-- A key that is there may be set before another one as well as after it. -/
theorem set_comm {fs : List (String × α)} {j k : String} (hk : has fs k = true) (h : j ≠ k) (v w : α) :
    set (set fs j v) k w = set (set fs k w) j v := by
  induction fs with
  | nil => cases hk
  | cons e r ih =>
    obtain ⟨k', x⟩ := e
    by_cases hkk : k' = k
    · subst hkk
      simp [set, Ne.symm h]
    · have hr : has r k = true := by simpa [has, hkk] using hk
      by_cases hj : k' = j
      · subst hj
        simp [set, hkk]
      · simpa [set, hkk, hj] using ih hr

theorem update_set_of_not_mem {fs gs : List (String × α)} {k : String} (hk : has fs k = true) (h : k ∉ gs.map Prod.fst)
    (v : α) : update (set fs k v) gs = set (update fs gs) k v := by
  unfold update
  induction gs generalizing fs with
  | nil => rfl
  | cons e r ih =>
    have hne : e.1 ≠ k := fun heq => h (heq ▸ List.mem_cons_self)
    have hset : has (set fs e.1 e.2) k = true := has_iff.2 (mem_keys_set.2 (.inr (has_iff.1 hk)))
    rw [List.foldl_cons, List.foldl_cons, ← set_comm hk hne, ih hset fun hr => h (List.mem_cons_of_mem _ hr)]

/-- To be overwritten by a table in which a key was set is to be overwritten by the table, and the key set. -/
theorem update_set {gs : List (String × α)} (hg : (gs.map Prod.fst).Nodup) (fs : List (String × α)) (k : String) (v : α) :
    update fs (set gs k v) = set (update fs gs) k v := by
  induction gs generalizing fs with
  | nil => rfl
  | cons e r ih =>
    obtain ⟨k', x⟩ := e
    obtain ⟨hnot, hr⟩ := List.nodup_cons.1 hg
    by_cases hk : k' = k
    · subst hk
      have hset : has (set fs k' x) k' = true := has_iff.2 (mem_keys_set.2 (.inl rfl))
      rw [set, if_pos rfl]
      show update (set fs k' v) r = set (update (set fs k' x) r) k' v
      rw [← update_set_of_not_mem hset hnot, set_set]
    · rw [set, if_neg hk]
      exact ih hr _

/-- To be overwritten by a table that was overwritten is to be overwritten twice. -/
theorem update_update {gs : List (String × α)} (hg : (gs.map Prod.fst).Nodup) (fs hs : List (String × α)) :
    update fs (update gs hs) = update (update fs gs) hs := by
  unfold update
  induction hs generalizing gs with
  | nil => rfl
  | cons e r ih =>
    rw [List.foldl_cons, List.foldl_cons, ih (nodup_keys_set hg e.1 e.2)]
    exact congrArg (fun t => r.foldl _ t) (update_set hg fs e.1 e.2)

/-- It does not matter whether entries are first made into a table. -/
theorem update_ofList (fs es : List (String × α)) : update fs (ofList es) = update fs es :=
  have hnil : (([] : List (String × α)).map Prod.fst).Nodup := List.nodup_nil
  update_update hnil fs es

theorem update_append_of_has {fs gs : List (String × α)} (h : ∀ e ∈ gs, has fs e.1 = true) (more : List (String × α)) :
    update (fs ++ more) gs = update fs gs ++ more := by
  have hset {fs : List (String × α)} {k : String} (hk : has fs k = true) (v : α) :
      set (fs ++ more) k v = set fs k v ++ more := by
    induction fs with
    | nil => cases hk
    | cons e r ih =>
      obtain ⟨k', w⟩ := e
      by_cases hkk : k' = k
      · simp [set, hkk]
      · have hr : has r k = true := by simpa [has, hkk] using hk
        simpa [set, hkk] using ih hr
  unfold update
  induction gs generalizing fs with
  | nil => rfl
  | cons e r ih =>
    have hkeep : ∀ e' ∈ r, has (set fs e.1 e.2) e'.1 = true := fun e' he' =>
      has_iff.2 (mem_keys_set.2 (.inr (has_iff.1 (h e' (List.mem_cons_of_mem _ he')))))
    rw [List.foldl_cons, List.foldl_cons, hset (h e List.mem_cons_self), ih hkeep]

end Lineage.Fields
