import Mathlib
import Lineage.Literal
import Lineage.Proofs.Data
import Lineage.Proofs.Escapes

/-!
# Literals — what texts stand for

A text stands for a value that a literal can spell (`Literal.spellable_of_read`): data whose points are code points and whose
bytes are bytes, with keys that can be keys and no key twice. So every text stands for data (`Literal.isData_of_read`). The
proof follows the grammar, one production at a time.
-/

set_option autoImplicit false

namespace Lineage

namespace Value

/-! ## Values that can be spelled -/

/-- Entries of a dictionary: every key can be one, and none is equal to an earlier one. -/
structure Keyed (es : List (Value × Value)) : Prop where
  hashable : ∀ e ∈ es, e.1.unhashable? = none
  distinct : es.Pairwise fun e f => e.1.equalInside f.1 = false

theorem keyed_nil : Keyed [] := ⟨fun _ he => absurd he List.not_mem_nil, .nil⟩

/-- The values that a literal can spell. -/
inductive Spellable : Value → Prop where
  | nil : Spellable .nil
  | bool (b : Bool) : Spellable (.bool b)
  | number (n : Number) : Spellable (.number n)
  | text {t : Text} (h : ∀ n ∈ t.points, n < 0x110000) : Spellable (.text t)
  | bytes {os : List Nat} (h : ∀ n ∈ os, n < 256) : Spellable (.bytes .fixed os)
  | specimen (s : Specimen) : Spellable (.specimen s)
  | tuple {xs : List Value} (h : ∀ x ∈ xs, Spellable x) : Spellable (.tuple xs)
  | list {xs : List Value} (h : ∀ x ∈ xs, Spellable x) : Spellable (.list xs)
  | set {xs : List Value} (h : ∀ x ∈ xs, Spellable x) : Spellable (.set false xs)
  | dict {es : List (Value × Value)} (hkeys : ∀ e ∈ es, Spellable e.1) (hvalues : ∀ e ∈ es, Spellable e.2)
      (hkeyed : Keyed es) : Spellable (.dict es)

/-- What can be spelled is data. -/
theorem Spellable.isData {v : Value} (h : v.Spellable) : v.IsData := by
  induction h with
  | nil | bool | number | text | bytes | specimen => trivial
  | tuple _ ih | list _ ih | set _ ih => exact allData_iff.2 ih
  | dict _ _ _ ihkeys ihvalues => exact entriesData_iff.2 fun e he => ⟨ihkeys e he, ihvalues e he⟩

theorem spellable_ofString (s : String) : (ofString s).Spellable := by
  refine .text fun n hn => ?_
  obtain ⟨c, -, rfl⟩ := List.mem_map.1 hn
  exact Literal.toNat_lt c

end Value

open Value

/-! ## What trees stand for -/

namespace Literal.Tree

/-- Trees in which only spellable values stand. -/
inductive Sound : Tree → Prop where
  | number (n : Number) : Sound (.number n)
  | data {v : Value} (h : v.Spellable) : Sound (.data v)
  | name (s : String) : Sound (.name s)
  | negated (t : Tree) : Sound (.negated t)
  | signed (t : Tree) : Sound (.signed t)
  | sum (left : Tree) (minus : Bool) (right : Tree) : Sound (.sum left minus right)
  | tuple {ts : List Tree} (h : ∀ t ∈ ts, Sound t) : Sound (.tuple ts)
  | list {ts : List Tree} (h : ∀ t ∈ ts, Sound t) : Sound (.list ts)
  | set {ts : List Tree} (h : ∀ t ∈ ts, Sound t) : Sound (.set ts)
  | dict {es : List (Tree × Tree)} (hkeys : ∀ e ∈ es, Sound e.1) (hvalues : ∀ e ∈ es, Sound e.2) : Sound (.dict es)
  | emptySet : Sound .emptySet

theorem bind_eq_ok {α β : Type} {x : Except Refusal α} {f : α → Except Refusal β} {y : β} (h : (x >>= f) = .ok y) :
    ∃ a, x = .ok a ∧ f a = .ok y := by
  cases x with
  | error e => cases h
  | ok a => exact ⟨a, rfl, h⟩

section

variable {P : Value → Prop}

theorem forall_mem_insertItem {xs : List Value} {x : Value} (hxs : ∀ y ∈ xs, P y) (hx : P x) :
    ∀ y ∈ insertItem xs x, P y := by
  unfold insertItem
  split
  · exact hxs
  · exact List.forall_mem_append.2 ⟨hxs, List.forall_mem_singleton.2 hx⟩

theorem forall_mem_insertEntry {es : List (Value × Value)} {k v : Value} (hes : ∀ e ∈ es, P e.1 ∧ P e.2) (hk : P k)
    (hv : P v) : ∀ e ∈ insertEntry es k v, P e.1 ∧ P e.2 := by
  unfold insertEntry
  split
  · intro e he
    obtain ⟨e', he', rfl⟩ := List.mem_map.1 he
    split
    · exact ⟨(hes e' he').1, hv⟩
    · exact hes e' he'
  · exact List.forall_mem_append.2 ⟨hes, List.forall_mem_singleton.2 ⟨hk, hv⟩⟩

theorem keyed_insertEntry {es : List (Value × Value)} {k v : Value} (hes : Keyed es) (hk : k.unhashable? = none) :
    Keyed (insertEntry es k v) := by
  unfold insertEntry
  split
  · have hkey (e : Value × Value) : (if e.1.equalInside k then (e.1, v) else e).1 = e.1 := by
      split <;> rfl
    refine ⟨fun e he => ?_, ?_⟩
    · obtain ⟨e', he', rfl⟩ := List.mem_map.1 he
      rw [hkey]
      exact hes.hashable e' he'
    · refine List.pairwise_map.2 (hes.distinct.imp fun h => ?_)
      rwa [hkey, hkey]
  · next hnew =>
    refine ⟨List.forall_mem_append.2 ⟨hes.hashable, List.forall_mem_singleton.2 hk⟩, ?_⟩
    refine List.pairwise_append.2 ⟨hes.distinct, List.pairwise_singleton _ _, fun e he f hf => ?_⟩
    rw [List.mem_singleton.1 hf]
    exact List.any_eq_false.1 (Bool.eq_false_iff.2 hnew) e he |> Bool.eq_false_iff.2

theorem forall_mem_values {ts : List Tree} (hts : ∀ t ∈ ts, ∀ v, value t = .ok v → P v) {xs : List Value}
    (h : values ts = .ok xs) : ∀ x ∈ xs, P x := by
  induction ts generalizing xs with
  | nil =>
    cases h
    exact fun _ hx => nomatch hx
  | cons t ts ih =>
    obtain ⟨ht, hts⟩ := List.forall_mem_cons.1 hts
    obtain ⟨x, hx, h⟩ := bind_eq_ok h
    obtain ⟨xs', hxs', h⟩ := bind_eq_ok h
    cases h
    exact List.forall_mem_cons.2 ⟨ht x hx, ih hts hxs'⟩

theorem forall_mem_setItems {ts : List Tree} (hts : ∀ t ∈ ts, ∀ v, value t = .ok v → P v) {sofar xs : List Value}
    (hsofar : ∀ x ∈ sofar, P x) (h : setItems sofar ts = .ok xs) : ∀ x ∈ xs, P x := by
  induction ts generalizing sofar with
  | nil =>
    cases h
    exact hsofar
  | cons t ts ih =>
    obtain ⟨ht, hts⟩ := List.forall_mem_cons.1 hts
    obtain ⟨x, hx, h⟩ := bind_eq_ok h
    obtain ⟨_, -, h⟩ := bind_eq_ok h
    exact ih hts (forall_mem_insertItem hsofar (ht x hx)) h

theorem forall_mem_dictEntries {es : List (Tree × Tree)} (hkeys : ∀ e ∈ es, ∀ v, value e.1 = .ok v → P v)
    (hvalues : ∀ e ∈ es, ∀ v, value e.2 = .ok v → P v) {sofar fs : List (Value × Value)} (hsofar : ∀ e ∈ sofar, P e.1 ∧ P e.2)
    (hkeyed : Keyed sofar) (h : dictEntries sofar es = .ok fs) : (∀ f ∈ fs, P f.1 ∧ P f.2) ∧ Keyed fs := by
  induction es generalizing sofar with
  | nil =>
    cases h
    exact ⟨hsofar, hkeyed⟩
  | cons e es ih =>
    obtain ⟨hkey, hkeys⟩ := List.forall_mem_cons.1 hkeys
    obtain ⟨hvalue, hvalues⟩ := List.forall_mem_cons.1 hvalues
    obtain ⟨k, hk, h⟩ := bind_eq_ok h
    obtain ⟨v, hv, h⟩ := bind_eq_ok h
    obtain ⟨_, hcheck, h⟩ := bind_eq_ok h
    have hhashable : k.unhashable? = none := by
      unfold checkKey at hcheck
      split at hcheck
      · cases hcheck
      · assumption
    exact ih hkeys hvalues (forall_mem_insertEntry hsofar (hkey k hk) (hvalue v hv)) (keyed_insertEntry hkeyed hhashable) h

end

/-- The value of a sound tree is spellable. -/
theorem spellable_of_value {t : Tree} (ht : t.Sound) : ∀ v, value t = .ok v → v.Spellable := by
  induction ht with
  | number n =>
    rintro v ⟨⟩
    exact .number n
  | data h =>
    rintro v ⟨⟩
    exact h
  | name s => exact fun v h => nomatch h
  | signed t | negated t =>
    intro v h
    unfold value at h
    split at h
    · cases h
      exact .number _
    · cases h
  | sum a minus b =>
    intro v h
    unfold value at h
    split at h
    · cases h
      exact .number _
    · cases h
    · cases h
  | tuple _ ih =>
    intro v h
    obtain ⟨xs, hxs, rfl⟩ := Action.map_eq_ok h
    exact .tuple (forall_mem_values ih hxs)
  | list _ ih =>
    intro v h
    obtain ⟨xs, hxs, rfl⟩ := Action.map_eq_ok h
    exact .list (forall_mem_values ih hxs)
  | set _ ih =>
    intro v h
    obtain ⟨xs, hxs, rfl⟩ := Action.map_eq_ok h
    exact .set (forall_mem_setItems ih (fun _ hx => absurd hx List.not_mem_nil) hxs)
  | dict _ _ ihkeys ihvalues =>
    intro v h
    obtain ⟨fs, hfs, rfl⟩ := Action.map_eq_ok h
    obtain ⟨hfs, hkeyed⟩ := forall_mem_dictEntries ihkeys ihvalues (fun _ he => absurd he List.not_mem_nil) keyed_nil hfs
    exact .dict (fun f hf => (hfs f hf).1) (fun f hf => (hfs f hf).2) hkeyed
  | emptySet =>
    rintro v ⟨⟩
    exact .set fun _ hx => nomatch hx

/-! ## The grammar builds sound trees -/

/-- Words that are all in range. -/
abbrev Clean (ts : List Token) : Prop := ∀ t ∈ ts, t.InRange

theorem Clean.tail {t : Token} {ts : List Token} (h : Clean (t :: ts)) : Clean ts := fun u hu => h u (List.mem_cons_of_mem t hu)

/-- Whatever is read off the words has a property, and the words behind it are in range. -/
def Yields {α : Type} (P : α → Prop) (o : Option (α × List Token)) : Prop := ∀ x r, o = some (x, r) → P x ∧ Clean r

section

variable {α β : Type} {P : α → Prop} {Q : β → Prop}

theorem Yields.bind {o : Option (α × List Token)} {f : α × List Token → Option (β × List Token)} (ho : Yields P o)
    (hf : ∀ x r, P x → Clean r → Yields Q (f (x, r))) : Yields Q (o.bind f) := by
  intro y r h
  obtain ⟨⟨x, r'⟩, hx, hy⟩ := Option.bind_eq_some_iff.1 h
  obtain ⟨hP, hr⟩ := ho x r' hx
  exact hf x r' hP hr y r hy

theorem Yields.map {o : Option (α × List Token)} {f : α × List Token → β × List Token} (ho : Yields P o)
    (hf : ∀ x r, P x → Clean r → Q (f (x, r)).1 ∧ Clean (f (x, r)).2) : Yields Q (o.map f) := by
  intro y r h
  obtain ⟨⟨x, r'⟩, hx, hy⟩ := Option.map_eq_some_iff.1 h
  obtain ⟨hP, hr⟩ := ho x r' hx
  have hQ := hf x r' hP hr
  rwa [hy] at hQ

theorem Yields.some {x : α} {r : List Token} (hx : P x) (hr : Clean r) : Yields P (some (x, r)) := by
  intro y r' h
  cases h
  exact ⟨hx, hr⟩

theorem Yields.none : Yields P Option.none := fun _ _ h => nomatch h

end

theorem sound_quotedRun {v : Value} (hv : v.Spellable) {ts : List Token} (hts : Clean ts) : Yields Sound (quotedRun v ts) := by
  fun_induction quotedRun v ts with
  | case1 t r u ih =>
    cases hv with
    | text hu => exact ih (.text (List.forall_mem_append.2 ⟨hu, hts _ List.mem_cons_self⟩)) hts.tail
  | case2 => exact Yields.none
  | case3 t r f u ih =>
    cases hv with
    | bytes hu => exact ih (.bytes (List.forall_mem_append.2 ⟨hu, hts _ List.mem_cons_self⟩)) hts.tail
  | case4 => exact Yields.none
  | case5 => exact Yields.some (.data hv) hts

theorem sound_constant (s : String) : (constant s).Sound := by
  unfold constant
  split_ifs
  · exact .data .nil
  · exact .data (.bool true)
  · exact .data (.bool false)
  · exact .name s

theorem sound_called {t : Tree} {r : List Token} (ht : t.Sound) (hr : Clean r) :
    (called (t, r)).1.Sound ∧ Clean (called (t, r)).2 := by
  unfold called
  split
  · next heq =>
    cases heq
    exact ⟨.emptySet, hr.tail.tail⟩
  · exact ⟨ht, hr⟩

/-- A sequence of sound trees. -/
abbrev AllSound (ts : List Tree) : Prop := ∀ t ∈ ts, Sound t

/-- Entries of sound trees. -/
abbrev EntriesSound (es : List (Tree × Tree)) : Prop := ∀ e ∈ es, Sound e.1 ∧ Sound e.2

theorem EntriesSound.dict {es : List (Tree × Tree)} (h : EntriesSound es) : Sound (.dict es) :=
  .dict (fun e he => (h e he).1) (fun e he => (h e he).2)

theorem allSound_nil : AllSound [] := fun _ ht => absurd ht List.not_mem_nil

theorem entriesSound_nil : EntriesSound [] := fun _ he => absurd he List.not_mem_nil

/-- What each production of the grammar builds with a certain fuel. -/
structure Sounds (fuel : Nat) : Prop where
  expression : ∀ ts, Clean ts → Yields Sound (expression fuel ts)
  terms : ∀ left ts, left.Sound → Clean ts → Yields Sound (terms fuel left ts)
  operand : ∀ ts, Clean ts → Yields Sound (operand fuel ts)
  atom : ∀ ts, Clean ts → Yields Sound (atom fuel ts)
  items : ∀ close ts, Clean ts → Yields AllSound (items fuel close ts)
  itemsFrom : ∀ close ts, Clean ts → Yields AllSound (itemsFrom fuel close ts)
  entries : ∀ ts, Clean ts → Yields EntriesSound (entries fuel ts)

section

variable {fuel : Nat} (h : Sounds fuel) {ts : List Token} (hts : Clean ts)
include h hts

theorem Sounds.succ_expression : Yields Sound (Tree.expression (fuel + 1) ts) := by
  rw [Tree.expression]
  exact (h.operand ts hts).bind fun t r ht hr => h.terms t r ht hr

theorem Sounds.succ_terms (left : Tree) (hleft : left.Sound) : Yields Sound (Tree.terms (fuel + 1) left ts) := by
  unfold Tree.terms
  split
  · exact (h.operand _ hts.tail).bind fun t r _ hr => h.terms _ r (.sum _ _ _) hr
  · exact (h.operand _ hts.tail).bind fun t r _ hr => h.terms _ r (.sum _ _ _) hr
  · exact Yields.some hleft hts

theorem Sounds.succ_operand : Yields Sound (Tree.operand (fuel + 1) ts) := by
  unfold Tree.operand
  split
  · exact (h.operand _ hts.tail).map fun t r _ hr => ⟨.signed t, hr⟩
  · exact (h.operand _ hts.tail).map fun t r _ hr => ⟨.negated t, hr⟩
  · exact (h.atom _ hts).map fun t r ht hr => sound_called ht hr

theorem Sounds.succ_items (close : Char) : Yields AllSound (Tree.items (fuel + 1) close ts) := by
  unfold Tree.items
  split
  · split
    · exact Yields.some allSound_nil hts.tail
    · exact h.itemsFrom close _ hts
  · exact h.itemsFrom close _ hts

theorem Sounds.succ_itemsFrom (close : Char) : Yields AllSound (Tree.itemsFrom (fuel + 1) close ts) := by
  rw [Tree.itemsFrom]
  refine (h.expression ts hts).bind fun t r ht hr => ?_
  dsimp only
  split
  · exact (h.items close _ hr.tail).bind fun ts r hts hr => Yields.some (List.forall_mem_cons.2 ⟨ht, hts⟩) hr
  · split
    · exact Yields.some (List.forall_mem_singleton.2 ht) hr.tail
    · exact Yields.none
  · exact Yields.none

/-- An entry behind its key, and those behind it. -/
theorem Sounds.entry {k : Tree} (hk : k.Sound) : Yields EntriesSound
    ((Tree.expression fuel ts).bind fun p => (Tree.entries fuel p.2).bind fun q => some ((k, p.1) :: q.1, q.2)) :=
  (h.expression ts hts).bind fun _ r hv hr => (h.entries r hr).bind fun _ _ hes hr =>
    Yields.some (List.forall_mem_cons.2 ⟨⟨hk, hv⟩, hes⟩) hr

theorem Sounds.succ_entries : Yields EntriesSound (Tree.entries (fuel + 1) ts) := by
  unfold Tree.entries
  split
  · exact Yields.some entriesSound_nil hts.tail
  · exact Yields.some entriesSound_nil hts.tail.tail
  · refine (h.expression _ hts.tail).bind fun k r hk hr => ?_
    dsimp only
    split
    · exact h.entry hr.tail hk
    · exact Yields.none
  · exact Yields.none

theorem Sounds.succ_atom : Yields Sound (Tree.atom (fuel + 1) ts) := by
  unfold Tree.atom
  split
  · exact Yields.some (.number _) hts.tail
  · exact sound_quotedRun (.text (hts _ List.mem_cons_self)) hts.tail
  · exact sound_quotedRun (.bytes (hts _ List.mem_cons_self)) hts.tail
  · exact Yields.some (.data (.specimen _)) hts.tail
  · exact Yields.some (sound_constant _) hts.tail
  · exact Yields.some (.tuple allSound_nil) hts.tail.tail
  · refine (h.expression _ hts.tail).bind fun t r ht hr => ?_
    dsimp only
    split
    · exact Yields.some ht hr.tail
    · exact (h.items _ _ hr.tail).bind fun ts r hts hr => Yields.some (.tuple (List.forall_mem_cons.2 ⟨ht, hts⟩)) hr
    · exact Yields.none
  · exact (h.items _ _ hts.tail).bind fun ts r hts hr => Yields.some (.list hts) hr
  · exact Yields.some entriesSound_nil.dict hts.tail.tail
  · refine (h.expression _ hts.tail).bind fun t r ht hr => ?_
    dsimp only
    split
    · exact Yields.some (.set (List.forall_mem_singleton.2 ht)) hr.tail
    · exact (h.items _ _ hr.tail).bind fun ts r hts hr => Yields.some (.set (List.forall_mem_cons.2 ⟨ht, hts⟩)) hr
    · exact (h.expression _ hr.tail).bind fun _ r hv hr => (h.entries r hr).bind fun _ _ hes hr =>
        Yields.some (EntriesSound.dict (List.forall_mem_cons.2 ⟨⟨ht, hv⟩, hes⟩)) hr
    · exact Yields.none
  · exact Yields.none

end

/-- **The grammar builds sound trees,** whatever the fuel. -/
theorem sounds (fuel : Nat) : Sounds fuel := by
  induction fuel with
  | zero =>
    exact ⟨fun _ _ => Yields.none, fun _ _ _ _ => Yields.none, fun _ _ => Yields.none, fun _ _ => Yields.none,
      fun _ _ _ => Yields.none, fun _ _ _ => Yields.none, fun _ _ => Yields.none⟩
  | succ fuel ih =>
    exact ⟨fun _ hts => ih.succ_expression hts, fun left _ hleft hts => ih.succ_terms hts left hleft,
      fun _ hts => ih.succ_operand hts, fun _ hts => ih.succ_atom hts, fun close _ hts => ih.succ_items hts close,
      fun close _ hts => ih.succ_itemsFrom hts close, fun _ hts => ih.succ_entries hts⟩

theorem allSound_bareItems (fuel : Nat) {ts : List Token} (hts : Clean ts) : Yields AllSound (bareItems fuel ts) := by
  induction fuel generalizing ts with
  | zero => exact Yields.none
  | succ fuel ih =>
    unfold bareItems
    split
    · exact Yields.some allSound_nil hts
    · exact Yields.some allSound_nil hts
    · refine ((sounds fuel).expression _ hts).bind fun t r ht hr => ?_
      dsimp only
      split
      · exact (ih hr.tail).bind fun ts r hts hr => Yields.some (List.forall_mem_cons.2 ⟨ht, hts⟩) hr
      · exact Yields.some (List.forall_mem_singleton.2 ht) hr

theorem sound_ofTokens? {ts : List Token} (hts : Clean ts) {t : Tree} (h : ofTokens? ts = some t) : t.Sound := by
  have hend {t' : Tree} {ends : Bool} (ht' : t'.Sound) (h : (if ends then some t' else none) = some t) : t.Sound := by
    split at h
    · cases h
      exact ht'
    · cases h
  unfold ofTokens? at h
  obtain ⟨⟨u, r⟩, hu, h⟩ := Option.bind_eq_some_iff.1 h
  obtain ⟨hsound, hr⟩ := (sounds _).expression ts hts u r hu
  dsimp only at h
  split at h
  · obtain ⟨⟨u', r'⟩, hu', h⟩ := Option.bind_eq_some_iff.1 h
    obtain ⟨p, hp, heq⟩ := Option.map_eq_some_iff.1 hu'
    cases heq
    have hus := (allSound_bareItems _ hr.tail p.1 p.2 hp).1
    exact hend (.tuple (List.forall_mem_cons.2 ⟨hsound, hus⟩)) h
  · exact hend hsound h

end Literal.Tree

/-- **What a text stands for can be spelled.** -/
theorem Literal.spellable_of_read {s : String} {v : Value} (h : Literal.read s = .ok v) : v.Spellable := by
  unfold Literal.read at h
  split at h
  · cases h
    exact spellable_ofString s
  · next t ht =>
    obtain ⟨ts, hscan, hts⟩ := Option.bind_eq_some_iff.1 ht
    split at h
    · next hv =>
      cases h
      exact Tree.spellable_of_value (Tree.sound_ofTokens? (inRange_of_scan hscan) hts) _ hv
    · cases h
      exact spellable_ofString s
    · cases h

/-- **Every text stands for data.** -/
theorem Literal.isData_of_read {s : String} {v : Value} (h : Literal.read s = .ok v) : v.IsData := (spellable_of_read h).isData

end Lineage
