import Lineage.Settings
import Mathlib

/-!
# Precedence — which source a setting is taken from

A source of settings says something or nothing about each of their leaves: the three switches for the output, the two
fields of the section for types and the field of the section for plugins. `Leaf` names them.

**One document laid over another says about a leaf what it says itself, and else what the lower one says** (`given_overlay`),
however the leaf lies in a section of which the upper document gives another part. A document whose sections are
tables and whose leaves are valid makes settings, each leaf of which is the one that is given or has its default
(`ofEntries_of_valid`).
-/

set_option autoImplicit false

namespace Lineage

/-! ## Tables laid over each other -/

namespace Document

/-- Only a table is merged with what lies below it. -/
theorem overlay_of_not_table {d : Document} (h : ∀ es, d ≠ table es) (low : Document) : low.overlay d = d := by
  cases d with
  | table es => exact absurd rfl (h es)
  | _ => rfl

/-- What lies on top counts under each of its keys, and what lies below under all others. -/
theorem get?_overlayAll {hs : List (String × Document)} (h : (hs.map Prod.fst).Nodup) (ls : List (String × Document))
    (k : String) :
    Fields.get? (overlayAll ls hs) k = match Fields.get? hs k with
      | some d => some (((Fields.get? ls k).map fun l => l.overlay d).getD d)
      | none => Fields.get? ls k := by
  induction hs generalizing ls with
  | nil => rfl
  | cons e r ih =>
    obtain ⟨k', d⟩ := e
    obtain ⟨hnot, hr⟩ := List.nodup_cons.1 h
    rw [overlayAll, ih hr]
    by_cases hk : k' = k
    · subst hk
      have hnone : Fields.get? r k' = none := Fields.get?_eq_none_iff.2 hnot
      rw [hnone, Fields.get?_set_self]
      cases hl : Fields.get? ls k' <;> simp [Fields.get?]
    · have hhead : Fields.get? ((k', d) :: r) k = Fields.get? r k := by simp [Fields.get?, hk]
      rw [hhead, Fields.get?_set_of_ne _ _ (Ne.symm hk)]

theorem mem_keys_overlayAll {ls hs : List (String × Document)} {k : String} :
    k ∈ (overlayAll ls hs).map Prod.fst ↔ k ∈ ls.map Prod.fst ∨ k ∈ hs.map Prod.fst := by
  induction hs generalizing ls with
  | nil => simp [overlayAll]
  | cons e r ih =>
    rw [overlayAll, ih, Fields.mem_keys_set, List.map_cons, List.mem_cons, or_assoc, or_left_comm]

theorem nodup_keys_overlayAll {ls : List (String × Document)} (h : (ls.map Prod.fst).Nodup)
    (hs : List (String × Document)) : ((overlayAll ls hs).map Prod.fst).Nodup := by
  induction hs generalizing ls with
  | nil => exact h
  | cons e r ih =>
    rw [overlayAll]
    exact ih (Fields.nodup_keys_set h _ _)

end Document

/-! ## Leaves -/

/-- The settings that can be given one by one. -/
inductive Leaf where
  | jsonOutput
  | verbose
  | logJson
  | delimiter
  | excluded
  | autoload

namespace Leaf

/-- What a leaf holds. -/
@[reducible] def Value : Leaf → Type
  | jsonOutput | verbose | logJson | autoload => Bool
  | delimiter => String
  | excluded => List String

/-- The section that a leaf is a field of. -/
def group? : Leaf → Option String
  | jsonOutput | verbose | logJson => none
  | delimiter | excluded => some "types"
  | autoload => some "plugins"

/-- The name of a leaf. -/
def name : Leaf → String
  | jsonOutput => "json_output"
  | verbose => "verbose"
  | logJson => "log_json"
  | delimiter => "union_delimiter"
  | excluded => "excluded_fields"
  | autoload => "autoload"

/-- How a document is read as a leaf. -/
def check : (l : Leaf) → Document → Checked l.Value
  | jsonOutput | verbose | logJson | autoload => Validation.bool
  | delimiter => TypeSection.delimiterOf
  | excluded => Validation.texts

/-- A leaf when nothing is said. -/
def standard : (l : Leaf) → l.Value
  | jsonOutput | verbose | logJson | autoload => false
  | delimiter => Union.defaultDelimiter
  | excluded => defaultExcluded

/-- A leaf of settings. -/
def of : (l : Leaf) → Settings → l.Value
  | jsonOutput, s => s.jsonOutput
  | verbose, s => s.verbose
  | logJson, s => s.logJson
  | delimiter, s => s.types.delimiter
  | excluded, s => s.types.excluded
  | autoload, s => s.plugins.autoload

/-- What a document says about a leaf. -/
def given (l : Leaf) (d : Document) : Option Document :=
  match l.group? with
  | none => d.get? l.name
  | some g => (d.get? g).bind fun t => t.get? l.name

/-- The leaf is read from what is given, or has its default. -/
def Follows (l : Leaf) (x : Option Document) (v : l.Value) : Prop :=
  match x with
  | some d => l.check d = .ok v
  | none => v = l.standard

/-- No table is read as a leaf. -/
theorem not_table {l : Leaf} {d : Document} {v : l.Value} (h : l.check d = .ok v) (es : List (String × Document)) :
    d ≠ .table es := by
  rintro rfl
  cases l <;> cases h

end Leaf

/-! ## Sources -/

/-- The names of the sections. -/
def Settings.groups : List String := ["types", "plugins"]

/-- What a source of settings may give: known settings, sections that are tables, and leaves that are valid. -/
structure Document.Valid (d : Document) : Prop where
  table : ∃ es, d = .table es
  known : ∀ k ∈ d.entries.map Prod.fst, k ∈ Settings.names
  groups : ∀ g ∈ Settings.groups, ∀ x, d.get? g = some x → ∃ es, x = .table es
  leaves : ∀ (l : Leaf) x, l.given d = some x → ∃ v, l.check x = .ok v

/-- The names in a source and in its sections differ from each other. -/
structure Document.Distinct (d : Document) : Prop where
  names : (d.entries.map Prod.fst).Nodup
  groups : ∀ g ∈ Settings.groups, ∀ x, d.get? g = some x → (x.entries.map Prod.fst).Nodup

namespace Leaf

variable {l : Leaf}

theorem group_mem {g : String} (h : l.group? = some g) : g ∈ Settings.groups := by
  cases l <;> cases h <;> decide

/-- Among the entries of a table, a leaf that lies on top counts, and else what lies below. -/
theorem get?_overlay {ls hs : List (String × Document)} (h : (hs.map Prod.fst).Nodup)
    (hleaf : ∀ x, Fields.get? hs l.name = some x → ∃ v, l.check x = .ok v) :
    Fields.get? (Document.overlayAll ls hs) l.name = (Fields.get? hs l.name).or (Fields.get? ls l.name) := by
  rw [Document.get?_overlayAll h]
  cases hx : Fields.get? hs l.name with
  | none => rfl
  | some d =>
    obtain ⟨v, hv⟩ := hleaf d hx
    cases hl : Fields.get? ls l.name with
    | none => rfl
    | some low =>
      have hover : low.overlay d = d := Document.overlay_of_not_table (not_table hv) low
      simp [hover]

end Leaf

namespace Document

variable {low high : Document}

theorem Valid.get?_overlay (hlow : low.Valid) (hhigh : high.Valid) (hd : high.Distinct) (k : String) :
    (low.overlay high).get? k = match high.get? k with
      | some x => some (((low.get? k).map fun l => l.overlay x).getD x)
      | none => low.get? k := by
  have hnames := hd.names
  obtain ⟨ls, rfl⟩ := hlow.table
  obtain ⟨hs, rfl⟩ := hhigh.table
  exact get?_overlayAll hnames ls k

/-- What is laid over each other has under the name of a section what lies on top, merged with what lies below. -/
theorem Valid.get?_group (hlow : low.Valid) (hhigh : high.Valid) (hd : high.Distinct) {g : String}
    (hg : g ∈ Settings.groups) :
    (low.overlay high).get? g = match high.get? g, low.get? g with
      | some (.table hs), some (.table ls) => some (.table (overlayAll ls hs))
      | some x, _ => some x
      | none, x => x := by
  rw [hlow.get?_overlay hhigh hd]
  cases hx : high.get? g with
  | none => rfl
  | some x =>
    obtain ⟨hs, rfl⟩ := hhigh.groups g hg x hx
    cases hy : low.get? g with
    | none => rfl
    | some y =>
      obtain ⟨ls, rfl⟩ := hlow.groups g hg y hy
      rfl

/-- **One document laid over another says about a leaf what it says itself, and else what the lower one says.** -/
theorem Valid.given_overlay (hlow : low.Valid) (hhigh : high.Valid) (hd : high.Distinct) (l : Leaf) :
    l.given (low.overlay high) = (l.given high).or (l.given low) := by
  have hleaf := hhigh.leaves l
  cases hgroup : l.group? with
  | none =>
    obtain ⟨ls, rfl⟩ := hlow.table
    obtain ⟨hs, rfl⟩ := hhigh.table
    simp only [Leaf.given, hgroup] at hleaf ⊢
    exact Leaf.get?_overlay hd.names hleaf
  | some g =>
    have hg : g ∈ Settings.groups := Leaf.group_mem hgroup
    simp only [Leaf.given, hgroup] at hleaf ⊢
    rw [hlow.get?_group hhigh hd hg]
    cases hx : high.get? g with
    | none => rfl
    | some x =>
      obtain ⟨hs, rfl⟩ := hhigh.groups g hg x hx
      cases hy : low.get? g with
      | none => simp
      | some y =>
        obtain ⟨ls, rfl⟩ := hlow.groups g hg y hy
        have hinner : ∀ x, Fields.get? hs l.name = some x → ∃ v, l.check x = .ok v := by
          intro x hget
          apply hleaf
          rw [hx]
          exact hget
        exact Leaf.get?_overlay (hd.groups g hg _ hx) hinner

theorem Valid.overlay (hlow : low.Valid) (hhigh : high.Valid) (hd : high.Distinct) : (low.overlay high).Valid where
  table := by
    obtain ⟨ls, rfl⟩ := hlow.table
    obtain ⟨hs, rfl⟩ := hhigh.table
    exact ⟨_, overlay_table ls hs⟩
  known := by
    obtain ⟨ls, rfl⟩ := hlow.table
    obtain ⟨hs, rfl⟩ := hhigh.table
    intro k hk
    rw [overlay_table] at hk
    rcases mem_keys_overlayAll.1 hk with hk | hk
    · exact hlow.known k hk
    · exact hhigh.known k hk
  groups := by
    intro g hg x hx
    rw [hlow.get?_group hhigh hd hg] at hx
    split at hx
    · exact ⟨_, (Option.some.inj hx).symm⟩
    · next hhx _ => exact hhigh.groups g hg x (hx ▸ hhx)
    · next => exact hlow.groups g hg x hx
  leaves := by
    intro l x hx
    rw [hlow.given_overlay hhigh hd] at hx
    rcases Option.or_eq_some_iff.1 hx with hx | ⟨-, hx⟩
    · exact hhigh.leaves l x hx
    · exact hlow.leaves l x hx

theorem Distinct.overlay (hlow : low.Valid) (hhigh : high.Valid) (hl : low.Distinct) (hd : high.Distinct) :
    (low.overlay high).Distinct where
  names := by
    have hnames := hl.names
    obtain ⟨ls, rfl⟩ := hlow.table
    obtain ⟨hs, rfl⟩ := hhigh.table
    exact nodup_keys_overlayAll hnames hs
  groups := by
    intro g hg x hx
    rw [hlow.get?_group hhigh hd hg] at hx
    split at hx
    · next hlx =>
      cases hx
      exact nodup_keys_overlayAll (hl.groups g hg _ hlx) _
    · next hhx _ => exact hd.groups g hg x (hx ▸ hhx)
    · next => exact hl.groups g hg x hx

end Document

/-! ## From a document to settings -/

namespace Validation

variable {α : Type} {es : List (String × Document)} {key : String} {check : Document → Checked α} {absent : α}

theorem optional_of_some {d : Document} {v : α} (h : Fields.get? es key = some d) (hv : check d = .ok v) :
    optional es key check absent = .ok v := by
  simp only [optional, h, hv, Checked.under]

theorem optional_of_none (h : Fields.get? es key = none) : optional es key check absent = .ok absent := by
  simp only [optional, h]

end Validation

namespace Leaf

variable {l : Leaf}

/-- A leaf that is read from what a table has under its name is what the check of that field gives. -/
theorem Follows.optional {es : List (String × Document)} {v : l.Value} (h : l.Follows (Fields.get? es l.name) v) :
    Validation.optional es l.name l.check l.standard = .ok v := by
  cases hx : Fields.get? es l.name with
  | none =>
    rw [hx] at h
    rw [Validation.optional_of_none hx, h]
  | some d =>
    rw [hx] at h
    exact Validation.optional_of_some hx h

/-- Every leaf of a valid source can be read. -/
theorem exists_follows {d : Document} (h : d.Valid) (l : Leaf) : ∃ v, l.Follows (l.given d) v := by
  cases hx : l.given d with
  | none => exact ⟨l.standard, rfl⟩
  | some x => exact h.leaves l x hx

end Leaf

namespace Settings

section

variable {d : Document} (h : d.Valid)
include h

theorem extras_of_valid : extras d.entries = [] := by
  rw [extras, List.map_eq_nil_iff, List.filter_eq_nil_iff]
  intro e he
  have hknown := h.known e.1 (List.mem_map_of_mem he)
  simpa using hknown

/-- The section for types is made of its two leaves, whether it is given or not. -/
theorem types_of_valid {delimiter : Leaf.delimiter.Value} (hdelimiter : Leaf.delimiter.Follows (Leaf.delimiter.given d) delimiter)
    {excluded : Leaf.excluded.Value} (hexcluded : Leaf.excluded.Follows (Leaf.excluded.given d) excluded) :
    Validation.optional d.entries "types" TypeSection.ofDocument .standard = .ok ⟨delimiter, excluded⟩ := by
  simp only [Leaf.given, Leaf.group?] at hdelimiter hexcluded
  cases hx : d.get? "types" with
  | none =>
    rw [hx] at hdelimiter hexcluded
    rw [Validation.optional_of_none hx, hdelimiter, hexcluded]
    rfl
  | some x =>
    obtain ⟨es, rfl⟩ := h.groups "types" (by decide) x hx
    rw [hx] at hdelimiter hexcluded
    apply Validation.optional_of_some hx
    exact Checked.both_ok_iff.2 ⟨_, _, hdelimiter.optional, hexcluded.optional, rfl⟩

/-- The section for plugins is made of its leaf, whether it is given or not. -/
theorem plugins_of_valid {autoload : Leaf.autoload.Value} (hautoload : Leaf.autoload.Follows (Leaf.autoload.given d) autoload) :
    Validation.optional d.entries "plugins" PluginSection.ofDocument .standard = .ok ⟨autoload⟩ := by
  simp only [Leaf.given, Leaf.group?] at hautoload
  cases hx : d.get? "plugins" with
  | none =>
    rw [hx] at hautoload
    rw [Validation.optional_of_none hx, hautoload]
    rfl
  | some x =>
    obtain ⟨es, rfl⟩ := h.groups "plugins" (by decide) x hx
    rw [hx] at hautoload
    apply Validation.optional_of_some hx
    have hfield := hautoload.optional
    exact congrArg (fun r => r.map PluginSection.mk) hfield

end

/-- The path is read if it is a text or nothing. -/
theorem exists_configPath (root : String) {d : Document}
    (hpath : ∀ x, d.get? "config_path" = some x → x = .null ∨ ∃ p, x = .text p) :
    ∃ p, Validation.optional d.entries "config_path" (Validation.nullable (pathText root)) none = .ok p := by
  cases hx : d.get? "config_path" with
  | none => exact ⟨none, Validation.optional_of_none hx⟩
  | some x =>
    rcases hpath x hx with rfl | ⟨p, rfl⟩
    · exact ⟨none, Validation.optional_of_some hx rfl⟩
    · exact ⟨_, Validation.optional_of_some hx rfl⟩

/-- A valid source makes settings, and each leaf of them is the one that is given or has its default. -/
theorem ofEntries_of_valid (root : String) {d : Document} (h : d.Valid)
    (hpath : ∀ x, d.get? "config_path" = some x → x = .null ∨ ∃ p, x = .text p) :
    ∃ s, ofEntries root d.entries = .ok s ∧ ∀ l : Leaf, l.Follows (l.given d) (l.of s) := by
  choose v hv using Leaf.exists_follows h
  obtain ⟨p, hp⟩ := exists_configPath root hpath
  have htypes := types_of_valid h (hv .delimiter) (hv .excluded)
  have hplugins := plugins_of_valid h (hv .autoload)
  have hjson := (hv .jsonOutput).optional
  have hverbose := (hv .verbose).optional
  have hlog := (hv .logJson).optional
  simp only [Leaf.name, Leaf.check, Leaf.standard] at hjson hverbose hlog
  refine ⟨⟨p, v .jsonOutput, v .verbose, v .logJson, ⟨v .delimiter, v .excluded⟩, ⟨v .autoload⟩⟩, ?_, fun l => ?_⟩
  · rw [ofEntries, extras_of_valid h]
    simp only [known, hp, hjson, hverbose, hlog, htypes, hplugins]
    rfl
  · cases l <;> exact hv _

end Settings

end Lineage
