import Mathlib

/-!
# Stretches — where the front of a text stops

A text is often cut where its characters stop being of one kind. The cut is known from what is before it and from the one character
behind it.
-/

set_option autoImplicit false

namespace Lineage.Text

variable {p : Char → Bool} {a b s cs : List Char}

theorem takeWhile_append_of_stop (ha : ∀ c ∈ a, p c = true) (hb : ∀ c ∈ b.head?, p c = false) : (a ++ b).takeWhile p = a := by
  rw [List.takeWhile_append_of_pos ha]
  cases b with
  | nil => simp
  | cons c r => simp [hb c rfl]

theorem dropWhile_append_of_stop (ha : ∀ c ∈ a, p c = true) (hb : ∀ c ∈ b.head?, p c = false) : (a ++ b).dropWhile p = b := by
  rw [List.dropWhile_append_of_pos ha]
  cases b with
  | nil => simp
  | cons c r => simp [hb c rfl]

/-- What is left starts with a character that stops the front. -/
theorem head?_dropWhile_eq (cs : List Char) : ∀ c ∈ (cs.dropWhile p).head?, p c = false := by
  intro c hc
  have hnot := List.head?_dropWhile_not p cs
  rw [Option.mem_def.1 hc] at hnot
  exact hnot

theorem drop_length_takeWhile (p : Char → Bool) (cs : List Char) : cs.drop (cs.takeWhile p).length = cs.dropWhile p := by
  induction cs with
  | nil => rfl
  | cons c r ih => cases hc : p c <;> simp [hc, ih]

/-- A front of a text that ends with another kind of character is still there when the end of the text is dropped. -/
theorem prefix_rdropWhile (h : s <+: cs) (hlast : ∀ c ∈ s.getLast?, p c = false) : s <+: cs.rdropWhile p := by
  obtain ⟨r, rfl⟩ := h
  induction r using List.reverseRecOn with
  | nil =>
    have hself : s.rdropWhile p = s := List.rdropWhile_eq_self_iff.2 fun hne => by
      simp [hlast _ (List.getLast?_eq_some_getLast hne)]
    rw [List.append_nil, hself]
  | append_singleton r c ih =>
    rw [← List.append_assoc, List.rdropWhile_concat]
    split
    · exact ih
    · exact ⟨r ++ [c], by rw [List.append_assoc]⟩

end Lineage.Text
