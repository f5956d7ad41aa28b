import Mathlib.Logic.Relation
import Regrant.Inclusions
import Regrant.Proofs.SortedMap

/-!
# The closure of inclusions

`Inclusions.close` leads every route through one role after the other.  `includes_close` says that
this is the transitive closure: a role includes another in the closure exactly when a chain of
direct inclusions leads from the one to the other.  Chains may run in circles, and a role on a
circle includes itself.

The proof is by the roles that routes may pass.  Once a role has been passed (`includes_along_trans`)
two routes that meet there are one route, and later roles keep it so.
-/

namespace Regrant

namespace Inclusions

theorem includes_iff {i : Inclusions} {r s : String} :
    i.includes r s = true ↔ ∃ included, i.get? r = some included ∧ s ∈ included := by
  rw [includes]
  cases i.get? r <;> simp

theorem mem_keys_of_includes {i : Inclusions} {r s : String} (h : i.includes r s = true) :
    r ∈ i.keys := by
  obtain ⟨included, hget, _⟩ := includes_iff.1 h
  exact SortedMap.mem_keys_iff.2 ⟨included, hget⟩

/-- Through a pivot go the old routes and those that the pivot joins. -/
theorem includes_through {pivot : String} {i : Inclusions} {r s : String} :
    (i.through pivot).includes r s = true ↔
      i.includes r s = true ∨ i.includes r pivot = true ∧ i.includes pivot s = true := by
  have hpivot : s ∈ (i.get? pivot).getD [] ↔ i.includes pivot s = true := by
    rw [includes, List.contains_iff_mem]
  rw [includes_iff, includes_iff, includes_iff (s := pivot), ← hpivot, through]
  simp only [SortedMap.get?_map, Option.map_eq_some_iff]
  constructor
  · rintro ⟨_, ⟨included, hget, rfl⟩, hs⟩
    by_cases hp : pivot ∈ included
    · rw [if_pos (List.contains_iff_mem.2 hp), mem_sortedDistinct, List.mem_append] at hs
      rcases hs with hs | hs
      · exact Or.inl ⟨included, hget, hs⟩
      · exact Or.inr ⟨⟨included, hget, hp⟩, hs⟩
    · rw [if_neg (fun hc => hp (List.contains_iff_mem.1 hc))] at hs
      exact Or.inl ⟨included, hget, hs⟩
  · rintro (⟨included, hget, hs⟩ | ⟨⟨included, hget, hp⟩, hs⟩)
    · refine ⟨_, ⟨included, hget, rfl⟩, ?_⟩
      split
      · exact mem_sortedDistinct.2 (List.mem_append_left _ hs)
      · exact hs
    · refine ⟨_, ⟨included, hget, rfl⟩, ?_⟩
      rw [if_pos (List.contains_iff_mem.2 hp)]
      exact mem_sortedDistinct.2 (List.mem_append_right _ hs)

/-! ### Routes along some roles -/

/-- The inclusions with every route through the listed roles. -/
def along (pivots : List String) (i : Inclusions) : Inclusions :=
  pivots.foldl (fun i pivot => i.through pivot) i

theorem along_concat (pivots : List String) (pivot : String) (i : Inclusions) :
    i.along (pivots ++ [pivot]) = (i.along pivots).through pivot := by
  rw [along, List.foldl_append]
  rfl

theorem includes_along {pivots : List String} {i : Inclusions} {r s : String}
    (h : i.includes r s = true) : (i.along pivots).includes r s = true := by
  induction pivots using List.reverseRecOn with
  | nil => exact h
  | append_singleton pivots pivot ih =>
    rw [along_concat, includes_through]
    exact Or.inl ih

/-- Every route is a chain of inclusions. -/
theorem transGen_of_includes_along {pivots : List String} {i : Inclusions} {r s : String}
    (h : (i.along pivots).includes r s = true) :
    Relation.TransGen (fun a b => i.includes a b = true) r s := by
  induction pivots using List.reverseRecOn generalizing r s with
  | nil => exact .single h
  | append_singleton pivots pivot ih =>
    rw [along_concat, includes_through] at h
    rcases h with h | ⟨hr, hs⟩
    · exact ih h
    · exact (ih hr).trans (ih hs)

/-- Routes that meet in a listed role are joined. -/
theorem includes_along_trans {pivots : List String} {i : Inclusions} {r m s : String}
    (hm : m ∈ pivots) (hr : (i.along pivots).includes r m = true)
    (hs : (i.along pivots).includes m s = true) : (i.along pivots).includes r s = true := by
  induction pivots using List.reverseRecOn generalizing r m s with
  | nil => exact absurd hm List.not_mem_nil
  | append_singleton pivots pivot ih =>
    rw [along_concat, includes_through] at hr hs ⊢
    rcases List.mem_append.1 hm with hm | hm
    · rcases hr with hr | ⟨hr, hpm⟩
      · rcases hs with hs | ⟨hmp, hs⟩
        · exact Or.inl (ih hm hr hs)
        · exact Or.inr ⟨ih hm hr hmp, hs⟩
      · rcases hs with hs | ⟨_, hs⟩
        · exact Or.inr ⟨hr, ih hm hpm hs⟩
        · exact Or.inr ⟨hr, hs⟩
    · -- the meeting point is the last pivot, where either half alone may already end
      obtain rfl := List.mem_singleton.1 hm
      exact Or.inr ⟨hr.elim id And.left, hs.elim id And.right⟩

/-- **The closure is the transitive closure.** -/
theorem includes_close {direct : Inclusions} {r s : String} :
    direct.close.includes r s = true ↔
      Relation.TransGen (fun a b => direct.includes a b = true) r s := by
  show (direct.along direct.keys).includes r s = true ↔ _
  constructor
  · exact transGen_of_includes_along
  · intro h
    induction h with
    | single h => exact includes_along h
    | tail _ h ih => exact includes_along_trans (mem_keys_of_includes h) ih (includes_along h)

end Inclusions

end Regrant
