import Lineage.Proofs.Separation.Abreast

/-!
# Looking — what is read of two worlds

What a client sees of matched things without running anything: how they are called, whether they can be called, how
functions are bound, and what shared cells hold. In worlds that look alike it is alike. For the names alone less is enough
than for the whole (`Named`): a function that was made for a class that is not there yet has a name already.

Reading through cells takes as many steps as there are cells, so the two worlds take different numbers of them. No path is
longer than there are cells, so neither runs out (`Together.readCells`).
-/

set_option autoImplicit false

namespace Lineage

/-- Two worlds that call matched things by the same names. -/
structure Named (s : Matching) (w w' : World) : Prop where
  inst : ∀ {i j}, s .inst i j → Option.Rel (ClassLike s) ((w.classOf? i).bind w.class?) ((w'.classOf? j).bind w'.class?)
  function : ∀ {i j}, s .function i j →
    (w.behaviours[i]?).map Behaviour.binding = (w'.behaviours[j]?).map Behaviour.binding

variable {c : Client} {s t : Matching} {w w' : World} {v v' : Value}

namespace Together

theorem classOf? (h : Together c s w w') {i j : Nat} (hij : s .inst i j) :
    ∃ a b x y, w.classOf? i = some a ∧ w'.classOf? j = some b ∧ s .cls a b ∧ w.class? a = some x ∧ w'.class? b = some y ∧
      ClassLike s x y := by
  obtain ⟨r, r', hr, hr', hrr⟩ := h.inst hij
  obtain ⟨x, y, hx, hy, hxy⟩ := h.cls hrr.cls
  exact ⟨r.cls, r'.cls, x, y, congrArg (Option.map _) hr, congrArg (Option.map _) hr', hrr.cls, hx, hy, hxy⟩

theorem named (h : Together c s w w') : Named s w w' where
  inst hij := by
    obtain ⟨a, b, x, y, ha, hb, -, hx, hy, hxy⟩ := h.classOf? hij
    rw [ha, hb, Option.bind_some, Option.bind_some, hx, hy]
    exact .some hxy
  function hij := by
    obtain ⟨x, y, hx, hy, hxy⟩ := h.function hij
    rw [hx, hy]
    exact congrArg some hxy.binding_eq

end Together

namespace Named

theorem className_eq (h : Named s w w') (hv : Like s v v') : Access.className w v = Access.className w' v' := by
  cases hv with
  | inst hij =>
    unfold Access.className
    dsimp only
    obtain ⟨hc, hc'⟩ | ⟨x, y, hc, hc', hxy⟩ := rel_cases (h.inst hij)
    · rw [hc, hc']
      rfl
    · rw [hc, hc']
      exact hxy.label
  | function hij =>
    unfold Access.className
    dsimp only
    rw [h.function hij]
  | set frozen _ => cases frozen <;> rfl
  | shared k _ => cases k <;> rfl
  | _ => rfl

theorem classRepr_eq (h : Named s w w') (hv : Like s v v') : Access.classRepr w v = Access.classRepr w' v' := by
  have hname := h.className_eq hv
  cases hv with
  | inst hij =>
    unfold Access.classRepr
    dsimp only
    obtain ⟨hc, hc'⟩ | ⟨x, y, hc, hc', hxy⟩ := rel_cases (h.inst hij)
    · rw [hc, hc']
    · rw [hc, hc', Option.elim_some, Option.elim_some, hxy.typeName_eq]
  | _ =>
    unfold Access.classRepr
    dsimp only
    rw [hname]

theorem isCallable_eq (h : Named s w w') (hv : Like s v v') : Access.isCallable w v = Access.isCallable w' v' := by
  cases hv with
  | inst hij =>
    unfold Access.isCallable
    dsimp only
    obtain ⟨hc, hc'⟩ | ⟨x, y, hc, hc', hxy⟩ := rel_cases (h.inst hij)
    · rw [hc, hc']
    · rw [hc, hc', Option.elim_some, Option.elim_some, hxy.body.has_eq]
  | function hij =>
    unfold Access.isCallable
    dsimp only
    rw [h.function hij]
  | _ => rfl

/-- A function is bound alike. -/
theorem bind (h : Named s w w') {r r' : Value} (hr : Like s r r') {i j : Nat} (hij : s .cls i j) (hv : Like s v v') :
    Like s (Access.bind w r i v) (Access.bind w' r' j v') := by
  cases hv with
  | function hf =>
    unfold Access.bind
    dsimp only
    rw [h.function hf]
    split
    · exact .method hr hf
    · exact .method (.cls hij) hf
    · exact .function hf
  | _ => constructor <;> assumption

end Named

/-! ## Cells -/

/-- A path that comes to no cell twice is no longer than there are cells. -/
theorem length_le_of_nodup {n : Nat} {path : List Nat} (h : path.Nodup) (hlt : ∀ i ∈ path, i < n) : path.length ≤ n := by
  have hsub : path ⊆ List.range n := fun i hi => List.mem_range.2 (hlt i hi)
  simpa using (h.subperm hsub).length_le

namespace Together

variable (h : Together c s w w')
include h

/-- Matched cells are there. -/
theorem lt_length_cells {path path' : List Nat} (hpath : List.Forall₂ (s .cell) path path') :
    (∀ i ∈ path, i < w.cells.length) ∧ ∀ j ∈ path', j < w'.cells.length := by
  induction hpath with
  | nil => exact ⟨fun _ hi => (nomatch hi), fun _ hj => nomatch hj⟩
  | cons hij _ ih =>
    obtain ⟨x, y, hx, hy, -⟩ := h.cell hij
    exact ⟨List.forall_mem_cons.2 ⟨(List.getElem?_eq_some_iff.1 hx).1, ih.1⟩,
      List.forall_mem_cons.2 ⟨(List.getElem?_eq_some_iff.1 hy).1, ih.2⟩⟩

/-- A cell is on a path when the matched cell is on the matched path. -/
theorem contains_eq {path path' : List Nat} (hpath : List.Forall₂ (s .cell) path path') {i j : Nat} (hij : s .cell i j) :
    path.contains i = path'.contains j := by
  induction hpath with
  | nil => rfl
  | cons hab _ ih =>
    rw [List.contains_cons, List.contains_cons, ih, Bool.beq_eq_decide_eq, Bool.beq_eq_decide_eq]
    exact congrArg (· || _) (decide_eq_decide.2 (h.oneToOne hij hab))

/-- What two paths of cells have read is alike while fuel is left; it is, as long as there are cells that are not on the path. -/
theorem readCells {path path' : List Nat} (hpath : List.Forall₂ (s .cell) path path') (hnodup : path.Nodup)
    (hnodup' : path'.Nodup) {fuel fuel' : Nat} (hfuel : w.cells.length < fuel + path.length)
    (hfuel' : w'.cells.length < fuel' + path'.length) (hv : Like s v v') :
    Like s (World.readCells w.cells fuel path v) (World.readCells w'.cells fuel' path' v') := by
  induction fuel generalizing fuel' path path' v v' with
  | zero =>
    have hshort := length_le_of_nodup hnodup (h.lt_length_cells hpath).1
    omega
  | succ fuel ih =>
    cases fuel' with
    | zero =>
      have hshort := length_le_of_nodup hnodup' (h.lt_length_cells hpath).2
      omega
    | succ fuel' =>
      unfold World.readCells
      refine hv.mapShared fun {k i j} hij => ?_
      have hmem : path.contains i = path'.contains j := h.contains_eq hpath hij
      rw [hmem]
      split
      · exact .shared k hij
      next hnot =>
        have hnot' : i ∉ path := by rwa [← hmem, List.contains_iff_mem] at hnot
        have hnot'' : j ∉ path' := by rwa [List.contains_iff_mem] at hnot
        have ih {v v' : Value} (hv : Like s v v') : Like s (World.readCells w.cells fuel (i :: path) v)
            (World.readCells w'.cells fuel' (j :: path') v') :=
          ih (.cons hij hpath) (List.nodup_cons.2 ⟨hnot', hnodup⟩) (List.nodup_cons.2 ⟨hnot'', hnodup'⟩)
            (by rw [List.length_cons]; omega) (by rw [List.length_cons]; omega) hv
        obtain ⟨x, y, hx, hy, hxy⟩ := h.cell hij
        rw [hx, hy]
        cases hxy with
        | list hxs => exact .list (hxs.map ih)
        | dict hes => exact .dict (hes.map fun hk hv => ⟨ih hk, ih hv⟩)

/-- **What is read of alike values is alike.** -/
theorem read (hv : Like s v v') : Like s (w.read v) (w'.read v') :=
  h.readCells .nil List.nodup_nil List.nodup_nil (by simp) (by simp) hv

end Together

end Lineage
