import Lineage.Failure

/-!
# Union — type expressions with alternatives

A type expression is one or more names joined by a delimiter. Splitting is permissive: a leading or doubled delimiter
gives an empty alternative, a trailing one is ignored. `alternatives` reads the names from left to right.

The work is done on characters (`cutAt`, `pieces`), where the laws are stated: a cut gives back the text
(`cutAt_eq_some`), and the pieces of a text joined by the delimiter are the text, or the text less one
trailing delimiter.
-/

set_option autoImplicit false

namespace Lineage.Union

/-- The delimiter between alternatives unless another is chosen. -/
def defaultDelimiter : String := "|"

/-- The text before and after the first occurrence of the delimiter. -/
def cutAt (delimiter : List Char) : List Char → Option (List Char × List Char)
  | [] => if delimiter = [] then some ([], []) else none
  | c :: r =>
    if delimiter.isPrefixOf (c :: r) then some ([], (c :: r).drop delimiter.length)
    else (cutAt delimiter r).map fun p => (c :: p.1, p.2)

/-- A cut neither adds nor loses anything. -/
theorem cutAt_eq_some {d s a b : List Char} (h : cutAt d s = some (a, b)) : s = a ++ d ++ b := by
  induction s generalizing a b with
  | nil =>
    unfold cutAt at h
    split at h <;> simp_all
  | cons c r ih =>
    unfold cutAt at h
    split at h
    next hp =>
      obtain ⟨t, ht⟩ := List.isPrefixOf_iff_prefix.1 hp
      simp only [Option.some.injEq, Prod.mk.injEq] at h
      obtain ⟨rfl, rfl⟩ := h
      rw [← ht]
      simp
    next =>
      obtain ⟨p, hp, he⟩ := Option.map_eq_some_iff.1 h
      obtain ⟨x, y⟩ := p
      simp only [Prod.mk.injEq] at he
      obtain ⟨rfl, rfl⟩ := he
      simp [ih hp]

/-- What stands after a cut is shorter than the text, unless the delimiter is empty. -/
theorem length_cutAt_lt {d s a b : List Char} (hd : d ≠ []) (h : cutAt d s = some (a, b)) :
    b.length < s.length := by
  have hs := congrArg List.length (cutAt_eq_some h)
  have : 0 < d.length := List.length_pos_iff.2 hd
  simp only [List.length_append] at hs
  omega

/-- The text up to the first delimiter, and the text after it; all of the text and nothing when there is none. -/
def splitChars (delimiter s : List Char) : List Char × List Char :=
  (cutAt delimiter s).getD (s, [])

theorem length_splitChars_lt {d s : List Char} (hd : d ≠ []) (hs : (splitChars d s).2 ≠ []) :
    (splitChars d s).2.length < s.length := by
  unfold splitChars at hs ⊢
  cases h : cutAt d s with
  | none => simp [h] at hs
  | some p => exact length_cutAt_lt hd (by simpa using h)

/-- The alternatives of a text, as characters. Reading stops as soon as nothing remains. -/
def pieces (delimiter : List Char) (hd : delimiter ≠ []) (s : List Char) : List (List Char) :=
  let p := splitChars delimiter s
  if _h : p.2 = [] then [p.1] else p.1 :: pieces delimiter hd p.2
termination_by s.length
decreasing_by exact length_splitChars_lt hd (by assumption)

/-- The text up to the first delimiter and the text after it. -/
def splitFirst (text delimiter : String) : String × String :=
  let p := splitChars delimiter.toList text.toList
  (String.ofList p.1, String.ofList p.2)

/-- The alternatives of an expression from left to right; the empty delimiter separates nothing. -/
def alternatives (delimiter expression : String) : List String :=
  if hd : delimiter.toList = [] then [expression]
  else (pieces delimiter.toList hd expression.toList).map String.ofList

/-- The same split for a caller who may give the empty delimiter, which is refused. -/
def split (text delimiter : String) : Except Failure (String × String) :=
  if delimiter = "" then .error .emptySeparator else .ok (splitFirst text delimiter)

/-- The alternatives for a caller who may give the empty delimiter, which is refused. -/
def enumerate (delimiter expression : String) : Except Failure (List String) :=
  if delimiter = "" then .error .emptySeparator else .ok (alternatives delimiter expression)

end Lineage.Union
