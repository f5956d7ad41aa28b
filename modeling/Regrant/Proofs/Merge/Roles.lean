import Mathlib.Data.Set.Finite.List
import Mathlib.Order.WellFoundedSet
import Regrant.Binding.Merge
import Regrant.Proofs.Inclusions

/-!
# Which roles dominate

What a role mapping says about roles: a role includes what a chain of `includes` leads to, and it
dominates what it includes without being included in return.  Chains may run in circles.  Domination
is the strict part of a transitive relation, so it is a strict order (`Dominates.trans`,
`not_dominates_self`), and among finitely many roles every one is dominated by a role that nothing
dominates or is such a role itself (`exists_undominated`).

`RoleBook.ofMappings` decides by this order (`dominator?_eq_none_iff`) and renames as the mapping
says (`targets_ofMappings`).
-/

namespace Regrant

namespace RoleMappings

/-- The mapping lists `s` among the inclusions of `r`. -/
def IncludesDirectly (m : RoleMappings) (r s : String) : Prop :=
  ∃ mapping, m.get? r = some mapping ∧ s ∈ mapping.includes

/-- A chain of listed inclusions leads from `r` to `s`. -/
def Includes (m : RoleMappings) : String → String → Prop := Relation.TransGen m.IncludesDirectly

/-- `o` includes `r`, and `r` does not include `o`. -/
def Dominates (m : RoleMappings) (o r : String) : Prop := m.Includes o r ∧ ¬ m.Includes r o

/-- The roles that are granted for `r`: those it is renamed to, or `r` if there are none. -/
def renamed (m : RoleMappings) (r : String) : List String :=
  match m.get? r with
  | some mapping => if mapping.renameTo = [] then [r] else mapping.renameTo
  | none => [r]

variable {m : RoleMappings}

theorem Dominates.trans {a b c : String} (h : m.Dominates a b) (g : m.Dominates b c) :
    m.Dominates a c :=
  ⟨h.1.trans g.1, fun hc => h.2 (g.1.trans hc)⟩

theorem not_dominates_self (r : String) : ¬ m.Dominates r r := fun h => h.2 h.1

instance : IsStrictOrder String m.Dominates where
  irrefl := not_dominates_self
  trans _ _ _ := Dominates.trans

/-- **Every role lies under an undominated one.**  A circle of inclusions does not dominate itself
away, since its members include each other. -/
theorem exists_undominated (m : RoleMappings) {held : List String} {r : String} (hr : r ∈ held) :
    ∃ h ∈ held, (h = r ∨ m.Dominates h r) ∧ ∀ o ∈ held, ¬ m.Dominates o h := by
  have hwf : {s | s ∈ held}.WellFoundedOn m.Dominates := held.finite_toSet.wellFoundedOn
  refine hwf.induction (P := fun r => ∃ h ∈ held, (h = r ∨ m.Dominates h r) ∧
    ∀ o ∈ held, ¬ m.Dominates o h) hr fun s hs ih => ?_
  by_cases hd : ∃ o ∈ held, m.Dominates o s
  · obtain ⟨o, ho, hos⟩ := hd
    obtain ⟨h, hh, hho, hmax⟩ := ih o ho hos
    refine ⟨h, hh, Or.inr ?_, hmax⟩
    rcases hho with rfl | hho
    · exact hos
    · exact hho.trans hos
  · exact ⟨s, hs, Or.inl rfl, fun o ho hos => hd ⟨o, ho, hos⟩⟩

theorem renamed_ne_nil (r : String) : m.renamed r ≠ [] := by
  rw [renamed]
  split
  · split
    · simp
    · assumption
  · simp

theorem renamed_of_no_renames (h : ∀ e ∈ m.entries, e.2.renameTo = []) (r : String) :
    m.renamed r = [r] := by
  rw [renamed]
  split
  · rename_i mapping hget
    rw [if_pos (h (r, mapping) (SortedMap.get?_eq_some_iff.1 hget))]
  · rfl

end RoleMappings

namespace RoleBook

open RoleMappings

variable {m : RoleMappings}

theorem ofList_includes :
    Inclusions.ofList (m.entries.map (fun e => (e.1, e.2.includes))) =
      m.map (fun mapping => sortedDistinct mapping.includes) := by
  rw [Inclusions.ofList, List.map_map]
  exact SortedMap.ofList_entries (m.map (fun mapping => sortedDistinct mapping.includes))

/-- **The closed inclusions of the book are the chains of the mapping.** -/
theorem includes_ofMappings {r s : String} :
    (ofMappings m).inclusions.includes r s = true ↔ m.Includes r s := by
  have hdirect : ∀ a b, Inclusions.includes
      (m.map (fun mapping => sortedDistinct mapping.includes)) a b = true ↔ m.IncludesDirectly a b := by
    intro a b
    rw [Inclusions.includes_iff, SortedMap.get?_map]
    simp [IncludesDirectly, mem_sortedDistinct]
  rw [ofMappings, ofList_includes, Inclusions.includes_close]
  simp only [hdirect]
  rfl

/-- The book finds dominators by the mapping. -/
theorem dominates_iff {o r : String} :
    (o ≠ r && (ofMappings m).inclusions.includes o r && !(ofMappings m).inclusions.includes r o) =
      true ↔ m.Dominates o r := by
  simp only [ne_eq, Bool.and_eq_true, decide_eq_true_eq, Bool.not_eq_true',
    Bool.eq_false_iff, includes_ofMappings]
  constructor
  · rintro ⟨⟨_, ho⟩, hr⟩
    exact ⟨ho, hr⟩
  · rintro ⟨ho, hr⟩
    refine ⟨⟨?_, ho⟩, hr⟩
    rintro rfl
    exact hr ho

theorem dominator?_eq_none_iff {held : List String} {r : String} :
    (ofMappings m).dominator? held r = none ↔ ∀ o ∈ held, ¬ m.Dominates o r := by
  rw [dominator?, List.find?_eq_none]
  exact forall₂_congr fun o _ => not_congr dominates_iff

theorem targets_ofMappings (r : String) : (ofMappings m).targets r = m.renamed r := by
  rw [targets, ofMappings, RoleMappings.renamed, SortedMap.get?_map]
  cases m.get? r with
  | none => rfl
  | some mapping =>
    obtain ⟨renameTo, includes⟩ := mapping
    cases renameTo <;> rfl

end RoleBook

end Regrant
