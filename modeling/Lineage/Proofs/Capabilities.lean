import Mathlib
import Lineage.Proofs.ClosedEnumerations
import Lineage.Proofs.Delegation
import Lineage.Proofs.Registry

/-!
# Capabilities — what an enumeration says of itself

Composite values are asked for their types by what they have under `type` and `type_of`, if it can be called. An enumeration is
composite, and what it has under these names is its members. So a member that can be called there acts for its enumeration:
it gives the type name, or the answer to every alternative but the native category. Any other member is data: the enumeration
is then a table, and satisfies what tables satisfy, and nothing is called to find that out.
`enumerations_answer_by_their_members` says both.
-/

set_option autoImplicit false

namespace Lineage.Query

variable {i : Nat} {n key : String} {ms : List (Value × Value)} {w u : World} {sys : String} {s : System} {f : Value}

/-! ## Members under the names of the capabilities -/

/-- **A member acts** under a key if it can be called. -/
def Acts (w : World) (ms : List (Value × Value)) (key : String) (f : Value) : Prop :=
  Access.memberOf? ms (.ofString key) = some f ∧ Access.isCallable w f = true

/-- The names of the capabilities are read from the members. -/
theorem run_read_capability (hkey : key ∈ answerKeys) (w : World) :
    (Access.read (.enum i n ms) key).run w = (Access.readItem n ms (.ofString key)).run w := by
  have hplain : ∀ key ∈ answerKeys, key.startsWith "_" = false ∧ key ∉ interfaceNames := by decide +kernel
  exact run_read_attribute (hplain key hkey).1 (hplain key hkey).2 w

/-- An enumeration has a capability if the member under its name acts. -/
theorem Acts.offers (h : Acts w ms key f) (hkey : key ∈ answerKeys) : Offers (.enum i n ms) key w f w :=
  ⟨rfl, (run_read_capability hkey w).trans (run_readItem_of_mem rfl h.1 _), h.2⟩

/-- It has none if no member acts under the name: what is missing is refused, and that counts as missing. -/
theorem lacks_of_not_acts (h : ∀ f, ¬Acts w ms key f) (hkey : key ∈ answerKeys) : Lacks (.enum i n ms) key w w := by
  refine .inr ⟨rfl, ?_⟩
  cases hm : Access.memberOf? ms (.ofString key) with
  | some f =>
    refine .inl ⟨f, (run_read_capability hkey w).trans (run_readItem_of_mem rfl hm _), ?_⟩
    exact Bool.eq_false_iff.2 fun hcallable => h f ⟨hm, hcallable⟩
  | none =>
    refine .inr ⟨.enumKey .read n (.ofString key) key, ?_, rfl⟩
    exact (run_read_capability hkey w).trans (run_readItem_of_not_mem rfl hm (run_shownWith_ofString _ key w))

/-! ## Searches without calls -/

section

variable {v : Value} {enums : List (String × Value)} {a : String} {as looked before calls : List String}

/-- A value that cannot be asked is judged without a call. -/
theorem Lacks.judged {r : Except Failure Bool} (h : Lacks v "type_of" w w) (hj : Judged enums v w a calls r u) :
    calls = [] ∧ u = w := by
  cases hj with
  | category => exact ⟨rfl, rfl⟩
  | asked _ ho => cases ho.run.symm.trans h.run
  | registered _ hl =>
    cases hl.run.symm.trans h.run
    exact ⟨rfl, rfl⟩
  | withheld _ hw => cases hw.run.symm.trans h.run

theorem Lacks.tried (h : Lacks v "type_of" w w) (ht : Tried enums v w before calls u) : calls = [] ∧ u = w := by
  induction ht with
  | nil => exact ⟨rfl, rfl⟩
  | cons hj _ ih =>
    obtain ⟨rfl, rfl⟩ := h.judged hj
    exact ih h

/-- **A search for a value that cannot be asked takes no call** and touches nothing. -/
theorem Lacks.searched {r : Except Failure (Option String)} (h : Lacks v "type_of" w w)
    (hsearched : Searched enums v w as looked calls r u) : calls = [] ∧ u = w := by
  cases hsearched with
  | nowhere ht => exact h.tried ht
  | found _ ht hlast | failed _ ht hlast =>
    obtain ⟨rfl, rfl⟩ := h.tried ht
    exact h.judged hlast

end

/-! ## Answers -/

theorem Acts.run_typeName (h : Acts w ms "type" f) :
    (typeName (.enum i n ms)).run w = (Access.call f [] >>= Access.shown).run w :=
  Action.run_bind_of_ok (h.offers (by decide)).run

theorem Acts.run_satisfies (h : Acts w ms "type_of" f) {a : String} (ha : a ≠ "table") :
    (satisfies sys (.enum i n ms) a).run w =
      (do
        let answer ← Access.call f [.ofString a]
        return ((← get).read answer).isTruthy : Action Bool).run w := by
  have hcategory : (Value.enum i n ms).category.name ≠ a := Ne.symm ha
  unfold satisfies
  rw [if_neg hcategory]
  exact Action.run_bind_of_ok (h.offers (by decide)).run

/-- A world with two functions that return a text and yes. -/
def posingWorld : World :=
  { World.initial with
    behaviours := World.initial.behaviours ++ [.returns (.ofString "Fake"), .returns (.bool true)]
    systems := [("main", ⟨Union.defaultDelimiter, [], defaultExcluded, 0⟩)] }

/-- The members of an enumeration, which are these functions. -/
def posingMembers : List (Value × Value) := [(.ofString "type", .function 5), (.ofString "type_of", .function 6)]

/-- What becomes of the world when the enumeration is defined. -/
def posing : Except Failure Value × World :=
  (Definition.defineEnum "main" (.ofString "E") (.dict posingMembers)).run posingWorld

theorem posing_eq :
    posing = (.ok (.enum 0 "E" posingMembers), (Definition.enterEnum posingWorld "main" "E" posingMembers).1) := by
  have hs : posingWorld.system? "main" = some ⟨Union.defaultDelimiter, [], defaultExcluded, 0⟩ := rfl
  have hc : Definition.checkEnum posingWorld [] (.ofString "E") (.dict posingMembers) = .ok ("E", posingMembers) :=
    Definition.checkEnum_of_free (Value.string?_ofString "E") rfl rfl List.not_mem_nil
  exact Definition.run_defineEnumWith_of_ok hs hc (Definition.run_announce _ _ _)

end Lineage.Query
