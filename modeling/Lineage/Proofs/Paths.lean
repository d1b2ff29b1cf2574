import Lineage.FileTree
import Mathlib

/-!
# Paths — what their texts keep and where they lead

A path keeps its text when the text is read again (`Path.text_ofText_text`), wherever the root lies, as long as its names are
names that a text can hold (`Path.Plain`); every path that is read from a text is of that kind (`Path.plain_ofText`).

A path from the root without steps up leads to the file with just these names, if there is one (`FileTree.read?_root`): the
folders on the way to a file are always there. And where a path leads by its names alone no step up is left
(`FileTree.plain_resolve`).
-/

set_option autoImplicit false

namespace Lineage

namespace Path

/-- A name that is kept by the text of a path: it says something and holds no slash. -/
structure PlainName (n : String) : Prop where
  ne_empty : n ≠ ""
  ne_dot : n ≠ "."
  slash : '/' ∉ n.toList

/-- A path whose names are all kept by its text. -/
def Plain (p : Path) : Prop := ∀ n ∈ p.names, PlainName n

/-! ## The pieces of a text -/

theorem pieces_eq_splitOn (cs : List Char) : pieces cs = cs.splitOn '/' := by
  induction cs with
  | nil => rfl
  | cons c r ih =>
    rw [List.splitOn_cons_eq_if_modifyHead, ← ih, pieces]
    cases hr : pieces r with
    | nil => exact absurd (ih.symm.trans hr) (List.splitOn_ne_nil '/' r)
    | cons p ps => by_cases hc : c = '/' <;> simp [hc]

theorem pieces_append_cons (a b : List Char) : pieces (a ++ '/' :: b) = pieces a ++ pieces b := by
  simp only [pieces_eq_splitOn]
  exact List.splitOn_append_cons_self a b

/-- What stands in a piece stands in the text and is no slash. -/
theorem mem_of_mem_pieces {cs p : List Char} (h : p ∈ pieces cs) {c : Char} (hc : c ∈ p) : c ∈ cs ∧ c ≠ '/' := by
  induction cs generalizing p with
  | nil =>
    rw [List.mem_singleton.1 h] at hc
    cases hc
  | cons d r ih =>
    have hlater {q : List Char} (hq : q ∈ pieces r) (hc : c ∈ q) : c ∈ d :: r ∧ c ≠ '/' :=
      (ih hq hc).imp_left (List.mem_cons_of_mem d)
    rw [pieces] at h
    cases hr : pieces r with
    | nil => exact absurd ((pieces_eq_splitOn r).symm.trans hr) (List.splitOn_ne_nil '/' r)
    | cons q qs =>
      simp only [hr] at h
      split_ifs at h with hd
      · rcases List.mem_cons.1 h with rfl | h
        · cases hc
        · exact hlater (hr ▸ h) hc
      · rcases List.mem_cons.1 h with rfl | h
        · rcases List.mem_cons.1 hc with rfl | hc
          · exact ⟨List.mem_cons_self, hd⟩
          · exact hlater (hr ▸ List.mem_cons_self) hc
        · exact hlater (hr ▸ List.mem_cons_of_mem q h) hc

theorem plainName_of_mem_namesOf {cs : List Char} {n : String} (h : n ∈ namesOf cs) : PlainName n := by
  obtain ⟨hpiece, hsaid⟩ := List.mem_filter.1 h
  obtain ⟨p, hp, rfl⟩ := List.mem_map.1 hpiece
  obtain ⟨hempty, hdot⟩ := Bool.and_eq_true_iff.1 hsaid
  refine ⟨of_decide_eq_true hempty, of_decide_eq_true hdot, fun hc => ?_⟩
  rw [String.toList_ofList] at hc
  exact (mem_of_mem_pieces hp hc).2 rfl

/-- A path that is read from a text is kept by its text. -/
theorem plain_ofText (root s : String) : (ofText root s).Plain := by
  unfold ofText
  intro n hn
  dsimp only at hn
  split_ifs at hn <;> exact plainName_of_mem_namesOf hn

/-- The names of a path that is read from a text are made of what stands in the text. -/
theorem mem_of_mem_names {root s n : String} (hn : n ∈ (ofText root s).names) {c : Char} (hc : c ∈ n.toList) :
    c ∈ s.toList := by
  have hnames {cs : List Char} (hn : n ∈ namesOf cs) : c ∈ cs := by
    obtain ⟨p, hp, rfl⟩ := List.mem_map.1 (List.mem_filter.1 hn).1
    rw [String.toList_ofList] at hc
    exact (mem_of_mem_pieces hp hc).1
  unfold ofText at hn
  dsimp only at hn
  split_ifs at hn
  · exact List.mem_of_mem_drop (hnames hn)
  · exact hnames hn
  · exact hnames hn

/-- A text without empty pieces and dots between its slashes. -/
def Neat (cs : List Char) : Prop := ∀ p ∈ pieces cs, p ≠ [] ∧ p ≠ ['.']

theorem Neat.behind {a b : List Char} (h : Neat (a ++ '/' :: b)) : Neat b :=
  fun p hp => h p (pieces_append_cons a b ▸ List.mem_append_right _ hp)

/-- A neat text starts with no slash. -/
theorem Neat.ne_slash {b : List Char} (h : Neat ('/' :: b)) : False :=
  (h [] (pieces_append_cons [] b ▸ List.mem_cons_self)).1 rfl

/-- The names of a neat text are all its pieces, so that they make it up again. -/
theorem Neat.intercalate_namesOf {cs : List Char} (h : Neat cs) :
    namesOf cs ≠ [] ∧ String.intercalate "/" (namesOf cs) = String.ofList cs := by
  have hall : namesOf cs = (pieces cs).map String.ofList := by
    refine List.filter_eq_self.2 fun n hn => ?_
    obtain ⟨p, hp, rfl⟩ := List.mem_map.1 hn
    have hempty : String.ofList p ≠ "" := fun heq => (h p hp).1 (String.ofList_injective heq)
    have hdot : String.ofList p ≠ "." := fun heq => (h p hp).2 (String.ofList_injective heq)
    simp [hempty, hdot]
  constructor
  · rw [hall, pieces_eq_splitOn]
    exact mt List.map_eq_nil_iff.1 (List.splitOn_ne_nil _ _)
  · have hsame : (pieces cs).map (String.toList ∘ String.ofList) = pieces cs :=
      List.map_id'' (fun _ => String.toList_ofList) _
    rw [← String.toList_inj, String.toList_intercalate, hall, List.map_map, hsame, pieces_eq_splitOn]
    exact (List.intercalate_splitOn '/').trans String.toList_ofList.symm

/-- Plain names in a row make a neat text. -/
theorem neat_intercalate {names : List String} (hne : names ≠ []) (h : ∀ n ∈ names, PlainName n) :
    Neat (String.intercalate "/" names).toList := by
  have hpieces : pieces (String.intercalate "/" names).toList = names.map String.toList := by
    rw [String.toList_intercalate, pieces_eq_splitOn]
    exact List.splitOn_intercalate '/' (List.forall_mem_map.2 fun n hn => (h n hn).slash) (mt List.map_eq_nil_iff.1 hne)
  intro p hp
  obtain ⟨n, hn, rfl⟩ := List.mem_map.1 (hpieces ▸ hp)
  exact ⟨fun heq => (h n hn).ne_empty (String.toList_inj.1 heq), fun heq => (h n hn).ne_dot (String.toList_inj.1 heq)⟩

/-! ## Texts that are read again -/

/-- What follows a slash: nothing, or what is neat by itself. -/
def Behind (b : List Char) : Prop := b = [] ∨ Neat b

theorem intercalate_namesOf {b : List Char} (h : Behind b) : String.intercalate "/" (namesOf b) = String.ofList b := by
  rcases h with rfl | h
  · decide
  · exact h.intercalate_namesOf.2

/-- A text that spells the root, or what lies below it. -/
def Within (root s : String) : Prop := s = root ∧ root ≠ "" ∨ ∃ b, s.toList = root.toList ++ '/' :: b

/-- The ways in which a text is read: as the root, behind the root, from the outermost folder, or from the working folder. -/
theorem ofText_cases (root s : String) :
    (s = root ∧ root ≠ "" ∧ ofText root s = ⟨.root, []⟩) ∨
    (∃ b, s.toList = root.toList ++ '/' :: b ∧ ofText root s = ⟨.root, namesOf b⟩) ∨
    ¬ Within root s ∧ ((∃ b, s.toList = '/' :: b ∧ ofText root s = ⟨.outside, namesOf b⟩) ∨
      s.toList.head? ≠ some '/' ∧ ofText root s = ⟨.here, namesOf s.toList⟩) := by
  have hnames (b : List Char) : namesOf ('/' :: b) = namesOf b := by
    have hpieces : pieces ('/' :: b) = [] :: pieces b := pieces_append_cons [] b
    rw [namesOf, hpieces]
    rfl
  have hwithin (h : Within root s) : (root.toList.isPrefixOf s.toList &&
      ((s.toList.drop root.length).isEmpty && root ≠ "" || (s.toList.drop root.length).head? = some '/')) = true := by
    rcases h with ⟨rfl, hne⟩ | ⟨b, hb⟩
    · simp [hne, ← String.length_toList]
    · simp [hb, ← String.length_toList]
  unfold ofText
  dsimp only
  split_ifs with hin hout
  · obtain ⟨hstart, hnext⟩ := Bool.and_eq_true_iff.1 hin
    obtain ⟨b, hb⟩ := List.isPrefixOf_iff_prefix.1 hstart
    have hdrop : s.toList.drop root.length = b := by
      rw [← hb, ← String.length_toList, List.drop_left]
    rw [hdrop] at hnext ⊢
    rcases Bool.or_eq_true_iff.1 hnext with hend | hslash
    · obtain ⟨hnil, hne⟩ := Bool.and_eq_true_iff.1 hend
      obtain rfl := List.isEmpty_iff.1 hnil
      have hsame : root = s := String.toList_inj.1 ((List.append_nil _).symm.trans hb)
      exact .inl ⟨hsame.symm, of_decide_eq_true hne, congrArg _ (by decide)⟩
    · obtain ⟨c, rfl⟩ := List.head?_eq_some_iff.1 (of_decide_eq_true hslash)
      exact .inr (.inl ⟨c, hb.symm, congrArg _ (hnames c)⟩)
  · obtain ⟨b, hb⟩ := List.head?_eq_some_iff.1 hout
    exact .inr (.inr ⟨mt hwithin hin, .inl ⟨b, hb, congrArg _ (hb ▸ hnames b)⟩⟩)
  · exact .inr (.inr ⟨mt hwithin hin, .inr ⟨hout, rfl⟩⟩)

/-- A text that is neat behind the start that it is read from keeps its wording. -/
theorem text_ofText {root s : String} (hroot : ∀ b, s.toList = root.toList ++ '/' :: b → Neat b ∨ b = [] ∧ root = "")
    (houtside : ¬ Within root s → ∀ b, s.toList = '/' :: b → Behind b)
    (hhere : ¬ Within root s → s.toList.head? ≠ some '/' → Neat s.toList ∨ s = ".") : (ofText root s).text root = s := by
  rcases ofText_cases root s with ⟨hs, hne, hread⟩ | ⟨b, hs, hread⟩ | ⟨hnot, ⟨b, hs, hread⟩ | ⟨hhead, hread⟩⟩
  · rw [hread, hs]
    simp [text, hne]
  · rcases hroot b hs with h | ⟨rfl, rfl⟩
    · have htext : (⟨.root, namesOf b⟩ : Path).text root = root ++ "/" ++ String.ofList b := by
        simp [text, h.intercalate_namesOf]
      rw [hread, htext, ← String.toList_inj, hs]
      simp
    · have hnone : namesOf [] = [] := by decide
      rw [hread, hnone, ← String.toList_inj, hs]
      rfl
  · have htext : (⟨.outside, namesOf b⟩ : Path).text root = "/" ++ String.ofList b :=
      congrArg ("/" ++ ·) (intercalate_namesOf (houtside hnot b hs))
    rw [hread, htext, ← String.toList_inj, hs]
    simp
  · rcases hhere hnot hhead with h | rfl
    · simp [hread, text, h.intercalate_namesOf, String.ofList_toList]
    · have hnone : namesOf ".".toList = [] := by decide
      rw [hread, hnone]
      rfl

/-- The text of a path is the root, lies behind it or behind a slash, or is neat or a single dot. -/
theorem text_cases {p : Path} (hp : p.Plain) (root : String) :
    (p.text root = root ∧ root ≠ "") ∨
    (∃ b, (p.text root).toList = root.toList ++ '/' :: b ∧ (Neat b ∨ b = [] ∧ root = "")) ∨
    (∃ b, (p.text root).toList = '/' :: b ∧ Behind b) ∨ Neat (p.text root).toList ∨ p.text root = "." := by
  obtain ⟨anchor, names⟩ := p
  have hneat (hne : names ≠ []) : Neat (String.intercalate "/" names).toList := neat_intercalate hne hp
  cases anchor with
  | here =>
    refine .inr (.inr (.inr ?_))
    by_cases hne : names = []
    · exact .inr (by simp [text, hne])
    · exact .inl (by simpa [text, hne] using hneat hne)
  | root =>
    by_cases hne : names = []
    · by_cases hroot : root = ""
      · exact .inr (.inl ⟨[], by simp [text, hne, hroot], .inr ⟨rfl, hroot⟩⟩)
      · exact .inl ⟨by simp [text, hne, hroot], hroot⟩
    · exact .inr (.inl ⟨_, by simp [text, hne], .inl (hneat hne)⟩)
  | outside =>
    refine .inr (.inr (.inl ⟨(String.intercalate "/" names).toList, by simp [text], ?_⟩))
    by_cases hne : names = []
    · exact .inl (by simp [hne])
    · exact .inr (hneat hne)

/-- A path keeps its text when that is read again. For some roots it may be read as another path with the same text. -/
theorem text_ofText_text {p : Path} (hp : p.Plain) (root : String) : (ofText root (p.text root)).text root = p.text root := by
  rcases text_cases hp root with ⟨hs, hne⟩ | ⟨c, hs, hc⟩ | ⟨c, hs, hc⟩ | hneat | hdot
  · apply text_ofText
    · intro b hb
      rw [hs] at hb
      simp at hb
    · exact fun hnot => absurd (.inl ⟨hs, hne⟩) hnot
    · exact fun hnot => absurd (.inl ⟨hs, hne⟩) hnot
  · apply text_ofText
    · intro b hb
      obtain rfl : c = b := by simpa using hs.symm.trans hb
      exact hc
    · exact fun hnot => absurd (.inr ⟨c, hs⟩) hnot
    · exact fun hnot => absurd (.inr ⟨c, hs⟩) hnot
  · apply text_ofText
    · intro b hb
      rw [hs] at hb
      cases hroot : root.toList with
      | nil =>
        obtain rfl : c = b := by simpa [hroot] using hb
        exact hc.symm.imp_right fun hnil => ⟨hnil, String.toList_eq_nil_iff.1 hroot⟩
      | cons d r =>
        obtain ⟨-, rfl⟩ := List.cons.inj (hroot ▸ hb)
        exact .inl ((hc.resolve_left (by simp)).behind)
    · intro _ b hb
      obtain rfl : c = b := List.tail_eq_of_cons_eq (hs.symm.trans hb)
      exact hc
    · exact fun _ hhead => absurd (hs ▸ rfl) hhead
  · apply text_ofText
    · exact fun b hb => .inl (Neat.behind (hb ▸ hneat))
    · exact fun _ b hb => (Neat.ne_slash (hb ▸ hneat)).elim
    · exact fun _ _ => .inl hneat
  · have hslash : '/' ∉ (p.text root).toList := by
      rw [hdot]
      decide
    apply text_ofText
    · exact fun b hb => absurd (hb ▸ List.mem_append_right _ List.mem_cons_self) hslash
    · exact fun _ b hb => absurd (hb ▸ List.mem_cons_self) hslash
    · exact fun _ _ => .inr hdot

end Path

namespace FileTree

/-! ## Places in the tree -/

variable {t : FileTree}

/-- The octets of the file whose way from the root has these names. -/
def held (t : FileTree) (l : List String) : Option (List Nat) := (t.files.find? (·.1 = l)).map (·.2)

/-- The folders on the way to a file are there. -/
theorem isFolder_of_held {l m : List String} {octets : List Nat} (h : t.held (l ++ m) = some octets) (hm : m ≠ []) :
    t.isFolder l = true := by
  obtain ⟨f, hf, -⟩ := Option.map_eq_some_iff.1 h
  have hway : f.1 = l ++ m := by simpa using List.find?_some hf
  have hprefix : l.isPrefixOf f.1.dropLast = true := by
    rw [hway, List.dropLast_append_of_ne_nil hm]
    exact List.isPrefixOf_iff_prefix.2 (List.prefix_append _ _)
  have hsome : (t.files.any fun f => l.isPrefixOf f.1.dropLast) = true :=
    List.any_eq_true.2 ⟨f, List.mem_of_find?_eq_some hf, hprefix⟩
  rw [isFolder, hsome, Bool.or_true]

/-- Names without steps up lead further in, if they lead anywhere, and always to a file that is there. -/
theorem walk_plain (at_ : List String) {l : List String} (hl : ".." ∉ l) :
    (t.walk at_ l = none ∧ t.held (at_ ++ l) = none) ∨ t.walk at_ l = some (at_ ++ l) := by
  induction l generalizing at_ with
  | nil => exact .inr (congrArg some (List.append_nil at_).symm)
  | cons n r ih =>
    obtain ⟨hn, hr⟩ := not_or.1 (mt List.mem_cons.2 hl)
    rw [walk, if_neg (Ne.symm hn)]
    by_cases hfolder : t.isFolder at_ = true
    · rw [hfolder]
      simpa using ih (at_ ++ [n]) hr
    · refine .inl ⟨by simp [hfolder], Option.eq_none_iff_forall_ne_some.2 fun octets hheld => hfolder ?_⟩
      exact isFolder_of_held hheld (List.cons_ne_nil n r)

/-- A path from the root without steps up leads to the file with its names. -/
theorem read?_root {l : List String} (hl : ".." ∉ l) : t.read? ⟨.root, l⟩ = t.held l := by
  rw [read?, locate, start?, Option.bind_some]
  rcases walk_plain (t := t) [] hl with ⟨hnone, hheld⟩ | hsome
  · rw [hnone]
    exact hheld.symm
  · rw [hsome]
    rfl

/-- Where a path leads by its names alone no step up is left. -/
theorem follow_mem {P : String → Prop} {at_ names l : List String} (h : follow at_ names = some l) (hat : ∀ n ∈ at_, P n)
    (hnames : ∀ n ∈ names, n ≠ ".." → P n) : ∀ n ∈ l, P n := by
  induction names generalizing at_ with
  | nil =>
    obtain rfl := Option.some.inj h
    exact hat
  | cons n r ih =>
    rw [follow] at h
    have hr := fun m hm => hnames m (List.mem_cons_of_mem n hm)
    split_ifs at h with hn hempty
    · exact ih h (fun m hm => hat m (List.dropLast_subset _ hm)) hr
    · refine ih h (fun m hm => ?_) hr
      rcases List.mem_append.1 hm with hm | hm
      · exact hat m hm
      · exact List.mem_singleton.1 hm ▸ hnames n List.mem_cons_self hn

/-- The names on the way to the working folder are plain and without steps up. -/
def Settled (t : FileTree) : Prop := ∀ n ∈ t.here, Path.PlainName n ∧ n ≠ ".."

theorem plain_resolve (ht : t.Settled) {p : Path} (hp : p.Plain) {l : List String} (h : t.resolve p = some l) :
    ∀ n ∈ l, Path.PlainName n ∧ n ≠ ".." := by
  obtain ⟨s, hs, hl⟩ := Option.bind_eq_some_iff.1 h
  refine follow_mem hl ?_ fun n hn hne => ⟨hp n hn, hne⟩
  cases hp : p.anchor <;> rw [start?, hp] at hs <;> cases hs
  · exact ht
  · exact fun _ hn => absurd hn List.not_mem_nil

/-! ## A place and all above it -/

theorem mem_upwards {l d : List String} : d ∈ upwards l ↔ d <+: l := by
  rw [upwards, List.mem_map]
  constructor
  · rintro ⟨i, -, rfl⟩
    exact List.take_prefix _ _
  · intro h
    have hlength := h.length_le
    refine ⟨l.length - d.length, List.mem_range.2 (by omega), ?_⟩
    rw [Nat.sub_sub_self hlength]
    exact (List.prefix_iff_eq_take.1 h).symm

/-- The first place upwards of a kind is the longest one. -/
theorem find?_upwards {l d : List String} {q : List String → Bool} (h : (upwards l).find? q = some d) :
    d <+: l ∧ q d = true ∧ ∀ d', d' <+: l → d.length < d'.length → q d' = false := by
  refine ⟨mem_upwards.1 (List.mem_of_find?_eq_some h), List.find?_some h, fun d' hd' hlt => ?_⟩
  obtain ⟨-, i, hi, hd, hbefore⟩ := List.find?_eq_some_iff_getElem.1 h
  have hplace (j : Nat) (hj : j < (upwards l).length) : (upwards l)[j] = l.take (l.length - j) := by
    simp [upwards]
  have hcount : (upwards l).length = l.length + 1 := by simp [upwards]
  have hle := hd'.length_le
  rw [hplace] at hd
  have hlength : d.length = l.length - i := by
    rw [← hd, List.length_take]
    omega
  have hfound := hbefore (l.length - d'.length) (by omega)
  rw [hplace, Nat.sub_sub_self hle, ← List.prefix_iff_eq_take.1 hd'] at hfound
  simpa using hfound

end FileTree

end Lineage
