import Lineage.Fields
import Mathlib

/-!
# Tables — ordered tables laid over each other

A table that is overwritten by another is seen through wherever the other has nothing (`get?_update`); its keys keep their
places, and new ones come last, in their order (`keys_update`). So a table made of entries in a row has each key at its first
place (`keys_ofList`) and with its last value (`get?_ofList`).
-/

set_option autoImplicit false

namespace Lineage.Fields

variable {α : Type}

/-- A table without repeated keys is seen through wherever it has nothing. -/
theorem get?_update {gs : List (String × α)} (hg : (gs.map Prod.fst).Nodup) (fs : List (String × α)) (k : String) :
    get? (update fs gs) k = (get? gs k).or (get? fs k) := by
  unfold update
  induction gs generalizing fs with
  | nil => rfl
  | cons e r ih =>
    obtain ⟨hnot, hr⟩ := List.nodup_cons.1 hg
    rw [List.foldl_cons, ih hr]
    by_cases hk : e.1 = k
    · subst hk
      have hnone : get? r e.1 = none := get?_eq_none_iff.2 hnot
      have hhead : get? (e :: r) e.1 = some e.2 := by simp [get?]
      rw [hnone, hhead, Option.none_or, get?_set_self, Option.some_or]
    · have hhead : get? (e :: r) k = get? r k := by simp [get?, hk]
      rw [hhead, get?_set_of_ne _ _ (Ne.symm hk)]

/-- Keys that are new come last, in their order. -/
theorem keys_update {fs : List (String × α)} {ks : List String} (h : fs.map Prod.fst = ks.eraseDups)
    (gs : List (String × α)) : (update fs gs).map Prod.fst = (ks ++ gs.map Prod.fst).eraseDups := by
  unfold update
  induction gs generalizing fs ks with
  | nil => rw [List.map_nil, List.append_nil]; exact h
  | cons e r ih =>
    have hset : (set fs e.1 e.2).map Prod.fst = (ks ++ [e.1]).eraseDups := by
      rw [keys_set, List.eraseDups_append, ← h]
      by_cases hk : e.1 ∈ ks
      · rw [if_pos (has_iff.2 (h ▸ List.mem_eraseDups.2 hk))]
        simp [List.removeAll, hk]
      · rw [if_neg fun hhas => hk (List.mem_eraseDups.1 (h ▸ has_iff.1 hhas))]
        simp [List.removeAll, hk, List.eraseDups_cons]
    rw [List.foldl_cons, ih hset, List.map_cons, List.append_assoc, List.singleton_append]

theorem get?_filter (p : String → Bool) (fs : List (String × α)) (k : String) :
    get? (fs.filter fun e => p e.1) k = if p k then get? fs k else none := by
  induction fs with
  | nil => simp [get?]
  | cons e r ih =>
    cases hp : p e.1 with
    | false =>
      have hdrop : (e :: r).filter (fun e => p e.1) = r.filter fun e => p e.1 := List.filter_cons_of_neg (by simp [hp])
      rw [hdrop, ih]
      by_cases hk : e.1 = k
      · rw [← hk, hp, if_neg Bool.false_ne_true, if_neg Bool.false_ne_true]
      · have htail : get? (e :: r) k = get? r k := by simp [get?, hk]
        rw [htail]
    | true =>
      have hkeep : (e :: r).filter (fun e => p e.1) = e :: r.filter fun e => p e.1 := List.filter_cons_of_pos hp
      rw [hkeep]
      by_cases hk : e.1 = k
      · have hhead (ts : List (String × α)) : get? (e :: ts) k = some e.2 := by simp [get?, hk]
        rw [hhead, hhead, ← hk, hp, if_pos rfl]
      · have htail (ts : List (String × α)) : get? (e :: ts) k = get? ts k := by simp [get?, hk]
        rw [htail, htail, ih]

/-- What is set under a key that is taken out again makes no difference. -/
theorem erase_set (fs : List (String × α)) (j k : String) (v : α) :
    erase (set fs j v) k = if j = k then erase fs k else set (erase fs k) j v := by
  refine (filter_set (fun n => decide (n ≠ k)) fs j v).trans ?_
  by_cases hj : j = k
  · rw [if_pos hj, if_neg (by simp [hj])]
    rfl
  · rw [if_neg hj, if_pos (decide_eq_true hj)]
    rfl

theorem nodup_keys_filter {fs : List (String × α)} (h : (fs.map Prod.fst).Nodup) (p : String × α → Bool) :
    ((fs.filter p).map Prod.fst).Nodup :=
  h.sublist (List.filter_sublist.map _)

/-- Entries under new keys are added as they are. -/
theorem update_of_disjoint {fs gs : List (String × α)} (hg : (gs.map Prod.fst).Nodup)
    (h : ∀ e ∈ gs, e.1 ∉ fs.map Prod.fst) : update fs gs = fs ++ gs := by
  have hset {ts : List (String × α)} {k : String} (hk : k ∉ ts.map Prod.fst) (v : α) : set ts k v = ts ++ [(k, v)] := by
    induction ts with
    | nil => rfl
    | cons e r ih =>
      rw [List.map_cons, List.mem_cons, not_or] at hk
      rw [set, if_neg (Ne.symm hk.1), ih hk.2, List.cons_append]
  unfold update
  induction gs generalizing fs with
  | nil => rw [List.foldl_nil, List.append_nil]
  | cons e r ih =>
    obtain ⟨hnot, hr⟩ := List.nodup_cons.1 hg
    rw [List.foldl_cons, hset (h e List.mem_cons_self), ih hr, List.append_assoc, List.singleton_append]
    intro e' he' hmem
    rw [List.map_append, List.mem_append] at hmem
    rcases hmem with hmem | hmem
    · exact h e' (List.mem_cons_of_mem _ he') hmem
    · exact hnot (List.mem_singleton.1 hmem ▸ List.mem_map_of_mem he')

/-! ## Tables made of entries in a row -/

/-- The keys of a table stand in the order in which they occur first. -/
theorem keys_ofList (es : List (String × α)) : (ofList es).map Prod.fst = (es.map Prod.fst).eraseDups := by
  have hnil : ([] : List (String × α)).map Prod.fst = ([] : List String).eraseDups := rfl
  exact keys_update hnil es

/-- Entries with keys that differ from each other are a table. -/
theorem ofList_of_nodup {es : List (String × α)} (h : (es.map Prod.fst).Nodup) : ofList es = es :=
  update_of_disjoint h fun _ _ => List.not_mem_nil

/-- A key has the value of its last entry. -/
theorem get?_ofList {before after : List (String × α)} {k : String} {v : α} (hafter : ∀ e ∈ after, e.1 ≠ k) :
    get? (ofList (before ++ (k, v) :: after)) k = some v := by
  have hkeep {fs : List (String × α)} (hfs : get? fs k = some v) : get? (update fs after) k = some v := by
    unfold update
    induction after generalizing fs with
    | nil => exact hfs
    | cons e after ih =>
      rw [List.foldl_cons]
      refine ih (fun e' he' => hafter e' (List.mem_cons_of_mem _ he')) ?_
      rwa [get?_set_of_ne _ _ (hafter e List.mem_cons_self).symm]
  have hsplit : ofList (before ++ (k, v) :: after) = update (set (ofList before) k v) after := by
    rw [ofList, update, List.foldl_append]
    rfl
  rw [hsplit]
  exact hkeep (get?_set_self _ _ _)

end Lineage.Fields
