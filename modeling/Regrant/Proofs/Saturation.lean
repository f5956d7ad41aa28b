import Mathlib.Data.Finset.Card
import Regrant.Proofs.Inclusions

/-!
# Closing by passes

Inclusions can also be closed naively: go over the roles again and again, let each include
what its included roles include at that time, and stop after a pass that added nothing.  A role sees
what the roles before it have become in the same pass, so a pass mixes old inclusions and new ones.

* `Pass.includes_widen`: what one role of a pass adds; `Pass.changed_widen`: when it adds nothing.
* `saturates_close`: the passes come to an end, with `Inclusions.close`.  Each pass but the last adds
  a pair of the closure, and there are only so many of these.
* `close_exact`: **the closure is the transitive closure on the same roles**, however it is reached.
-/

namespace Regrant

namespace Inclusions

/-! ### Sets of inclusions -/

/-- The roles that a role includes are listed as a set: in order and without repeats. -/
def Ordered (i : Inclusions) : Prop :=
  ∀ r included, i.get? r = some included → Ascending included

theorem ordered_ofList (l : List (String × List String)) : (ofList l).Ordered := by
  intro r included h
  have hmem := SortedMap.mem_of_mem_ofList (SortedMap.get?_eq_some_iff.1 h)
  obtain ⟨e, -, he⟩ := List.mem_map.1 hmem
  cases he
  exact ascending_sortedDistinct _

theorem exists_get?_of_includes {i : Inclusions} {r : String} (h : r ∈ i.keys) :
    ∃ included, i.get? r = some included ∧ ∀ s, s ∈ included ↔ i.includes r s = true := by
  obtain ⟨included, hget⟩ := SortedMap.mem_keys_iff.1 h
  refine ⟨included, hget, fun s => ?_⟩
  rw [includes_iff]
  constructor
  · intro hs
    exact ⟨included, hget, hs⟩
  · rintro ⟨included', hget', hs⟩
    rw [hget] at hget'
    cases hget'
    exact hs

/-- **Sets of inclusions are determined by the roles and by what they include.** -/
theorem ext_includes {i j : Inclusions} (hi : i.Ordered) (hj : j.Ordered) (hkeys : i.keys = j.keys)
    (h : ∀ r s, i.includes r s = true ↔ j.includes r s = true) : i = j := by
  apply SortedMap.ext_get?
  intro r
  by_cases hr : r ∈ i.keys
  · obtain ⟨included, hget, hmem⟩ := exists_get?_of_includes hr
    obtain ⟨included', hget', hmem'⟩ := exists_get?_of_includes (hkeys ▸ hr)
    have heq : included = included' := by
      refine (hi r _ hget).ext (hj r _ hget') fun s => ?_
      rw [hmem, hmem', h]
    rw [hget, hget', heq]
  · have hnone : ∀ k : Inclusions, r ∉ k.keys → k.get? r = none := by
      intro k hk
      exact Option.eq_none_iff_forall_ne_some.2 fun a ha => hk (SortedMap.mem_keys_iff.2 ⟨a, ha⟩)
    rw [hnone i hr, hnone j (hkeys ▸ hr)]

/-! ### The closure of a set -/

theorem keys_through (pivot : String) (i : Inclusions) : (i.through pivot).keys = i.keys := by
  simp [through, SortedMap.keys, SortedMap.map, Function.comp_def]

theorem ordered_through {i : Inclusions} (h : i.Ordered) (pivot : String) :
    (i.through pivot).Ordered := by
  intro r included hget
  rw [through, SortedMap.get?_map] at hget
  obtain ⟨old, hold, rfl⟩ := Option.map_eq_some_iff.1 hget
  split
  · exact ascending_sortedDistinct _
  · exact h r old hold

theorem keys_close (direct : Inclusions) : direct.close.keys = direct.keys := by
  have hrun : ∀ (pivots : List String) (i : Inclusions), (i.along pivots).keys = i.keys := by
    intro pivots i
    induction pivots using List.reverseRecOn with
    | nil => rfl
    | append_singleton pivots pivot ih => rw [along_concat, keys_through, ih]
  exact hrun direct.keys direct

theorem ordered_close {direct : Inclusions} (h : direct.Ordered) : direct.close.Ordered := by
  have hrun : ∀ pivots : List String, (direct.along pivots).Ordered := by
    intro pivots
    induction pivots using List.reverseRecOn with
    | nil => exact h
    | append_singleton pivots pivot ih =>
      rw [along_concat]
      exact ordered_through ih pivot
  exact hrun direct.keys

/-- What is closed already stays as it is. -/
theorem close_eq_self {i : Inclusions} (hi : i.Ordered)
    (htrans : ∀ r m s, i.includes r m = true → i.includes m s = true → i.includes r s = true) :
    i.close = i := by
  refine ext_includes (ordered_close hi) hi (keys_close i) fun r s => ?_
  rw [includes_close]
  constructor
  · intro h
    induction h with
    | single h => exact h
    | tail _ h ih => exact htrans _ _ _ ih h
  · intro h
    exact .single h

/-- More inclusions have a larger closure. -/
theorem includes_close_mono {i j : Inclusions}
    (hle : ∀ r s, i.includes r s = true → j.includes r s = true) {r s : String}
    (h : i.close.includes r s = true) : j.close.includes r s = true := by
  rw [includes_close] at h ⊢
  exact h.lift id hle

/-- A chain of chains is a chain. -/
theorem includes_close_trans {i : Inclusions} {r m s : String} (hm : i.close.includes r m = true)
    (hs : i.close.includes m s = true) : i.close.includes r s = true := by
  rw [includes_close] at hm hs ⊢
  exact hm.trans hs

/-- Inclusions between a relation and its closure have the same closure. -/
theorem close_eq_close {i j : Inclusions} (hi : i.Ordered) (hj : j.Ordered)
    (hkeys : j.keys = i.keys) (hle : ∀ r s, i.includes r s = true → j.includes r s = true)
    (hge : ∀ r s, j.includes r s = true → i.close.includes r s = true) : j.close = i.close := by
  refine ext_includes (ordered_close hj) (ordered_close hi) ?_ fun r s => ?_
  · rw [keys_close, keys_close, hkeys]
  · refine ⟨fun h => ?_, includes_close_mono hle⟩
    rw [includes_close] at h
    induction h with
    | single h => exact hge _ _ h
    | tail _ h ih => exact includes_close_trans ih (hge _ _ h)

/-! ### Passes -/

/-- A pass under way: the inclusions that it has come to, and whether it has added any. -/
structure Pass where
  inclusions : Inclusions
  changed : Bool

/-- What the included roles of a role include and the role itself does not. -/
def lacking (i : Inclusions) (included : List String) : List String :=
  (included.flatMap fun inner => (i.get? inner).getD []).filter fun s => !included.contains s

namespace Pass

/-- One role of a pass. -/
def widen (p : Pass) (role : String) : Pass :=
  match p.inclusions.get? role with
  | none => p
  | some included =>
    if p.inclusions.lacking included = [] then p
    else
      ⟨p.inclusions.insert role (sortedDistinct (included ++ p.inclusions.lacking included)), true⟩

end Pass

/-- A pass over all roles in order. -/
def pass (i : Inclusions) : Pass := i.keys.foldl Pass.widen ⟨i, false⟩

/-- Passes until one has added nothing. -/
inductive Saturates : Inclusions → Inclusions → Prop
  | done {i : Inclusions} : i.pass.changed = false → Saturates i i.pass.inclusions
  | again {i closed : Inclusions} :
      i.pass.changed = true → Saturates i.pass.inclusions closed → Saturates i closed

theorem mem_lacking {i : Inclusions} {included : List String} {s : String} :
    s ∈ i.lacking included ↔ (∃ m ∈ included, i.includes m s = true) ∧ s ∉ included := by
  have hmem : ∀ m, s ∈ (i.get? m).getD [] ↔ i.includes m s = true := by
    intro m
    rw [includes, List.contains_iff_mem]
  rw [lacking, List.mem_filter, List.mem_flatMap]
  simp only [hmem, Bool.not_eq_true', ← Bool.not_eq_true, List.contains_iff_mem]

namespace Pass

variable {p : Pass} {role : String}

/-- A role of a pass comes to include what its included roles include, and nothing else is added. -/
theorem includes_widen {r s : String} :
    (p.widen role).inclusions.includes r s = true ↔ p.inclusions.includes r s = true ∨
      r = role ∧ ∃ m, p.inclusions.includes role m = true ∧ p.inclusions.includes m s = true := by
  rw [widen]
  cases hget : p.inclusions.get? role with
  | none =>
    have hnone : ∀ m, p.inclusions.includes role m = false := by
      intro m
      rw [includes, hget]
      rfl
    simp [hnone]
  | some included =>
    have hrole : ∀ m, p.inclusions.includes role m = true ↔ m ∈ included := by
      intro m
      rw [includes_iff, hget]
      simp
    simp only [hrole]
    split
    · rename_i hnil
      -- nothing is lacking, so the role includes already what it could come to include
      constructor
      · exact Or.inl
      · rintro (h | ⟨rfl, m, hm, hs⟩)
        · exact h
        · rw [hrole]
          by_contra hn
          have hmem := mem_lacking.2 ⟨⟨m, hm, hs⟩, hn⟩
          rw [hnil] at hmem
          exact List.not_mem_nil hmem
    · rw [includes_iff, SortedMap.insert, SortedMap.get?_alter]
      by_cases hr : r = role
      · subst hr
        rw [if_pos rfl, hrole]
        simp only [Option.some.injEq, exists_eq_left', mem_sortedDistinct, List.mem_append,
          mem_lacking]
        by_cases hs : s ∈ included
        · simp [hs]
        · simp [hs]
      · rw [if_neg hr, ← includes_iff]
        simp [hr]

/-- A role adds nothing exactly if it includes already what its included roles include. -/
theorem changed_widen :
    (p.widen role).changed = false ↔ p.changed = false ∧
      ∀ m s, p.inclusions.includes role m = true → p.inclusions.includes m s = true →
        p.inclusions.includes role s = true := by
  rw [widen]
  cases hget : p.inclusions.get? role with
  | none =>
    have hnone : ∀ m, p.inclusions.includes role m = false := by
      intro m
      rw [includes, hget]
      rfl
    simp [hnone]
  | some included =>
    have hrole : ∀ m, p.inclusions.includes role m = true ↔ m ∈ included := by
      intro m
      rw [includes_iff, hget]
      simp
    have hlacking : p.inclusions.lacking included = [] ↔
        ∀ m s, m ∈ included → p.inclusions.includes m s = true → s ∈ included := by
      rw [List.eq_nil_iff_forall_not_mem]
      constructor
      · intro h m s hm hs
        by_contra hn
        exact h s (mem_lacking.2 ⟨⟨m, hm, hs⟩, hn⟩)
      · intro h s hs
        obtain ⟨⟨m, hm, hms⟩, hn⟩ := mem_lacking.1 hs
        exact hn (h m s hm hms)
    simp only [hrole, ← hlacking]
    split
    · rename_i hnil
      simp [hnil]
    · rename_i hne
      simp [hne]

theorem widen_eq_self (h : (p.widen role).changed = false) : p.widen role = p := by
  rw [widen] at h ⊢
  cases hget : p.inclusions.get? role with
  | none => rfl
  | some included =>
    rw [hget] at h
    simp only at h ⊢
    split at h
    · rename_i hnil
      rw [if_pos hnil]
    · cases h

theorem keys_widen : (p.widen role).inclusions.keys = p.inclusions.keys := by
  rw [widen]
  cases hget : p.inclusions.get? role with
  | none => rfl
  | some included =>
    simp only
    split
    · rfl
    · refine (SortedMap.ascending_keys _).ext (SortedMap.ascending_keys _) fun k => ?_
      rw [SortedMap.mem_keys_iff, SortedMap.mem_keys_iff, SortedMap.insert]
      simp only [SortedMap.get?_alter]
      by_cases hk : k = role
      · simp [hk, hget]
      · simp [hk]

theorem ordered_widen (h : p.inclusions.Ordered) : (p.widen role).inclusions.Ordered := by
  rw [widen]
  cases hget : p.inclusions.get? role with
  | none => exact h
  | some included =>
    simp only
    split
    · exact h
    · intro r listed hr
      rw [SortedMap.insert, SortedMap.get?_alter] at hr
      split at hr
      · cases hr
        exact ascending_sortedDistinct _
      · exact h r listed hr

/-! ### All roles of a pass -/

theorem changed_of_changed {roles : List String} (h : (roles.foldl widen p).changed = false) :
    p.changed = false := by
  induction roles generalizing p with
  | nil => exact h
  | cons role roles ih => exact (changed_widen.1 (ih h)).1

/-- A pass that adds nothing leaves the inclusions as they were, and finds each role closed. -/
theorem foldl_eq_self {roles : List String} (h : (roles.foldl widen p).changed = false) :
    roles.foldl widen p = p ∧ ∀ role ∈ roles, ∀ m s, p.inclusions.includes role m = true →
      p.inclusions.includes m s = true → p.inclusions.includes role s = true := by
  induction roles with
  | nil => exact ⟨rfl, fun role hrole => absurd hrole List.not_mem_nil⟩
  | cons role roles ih =>
    rw [List.foldl_cons] at h ⊢
    have hstep : (p.widen role).changed = false := changed_of_changed h
    rw [widen_eq_self hstep] at h ⊢
    obtain ⟨heq, hclosed⟩ := ih h
    refine ⟨heq, fun r hr => ?_⟩
    rcases List.mem_cons.1 hr with rfl | hr
    · exact (changed_widen.1 hstep).2
    · exact hclosed r hr

/-- What each role of a pass keeps, the pass keeps. -/
theorem foldl_induction {P : Inclusions → Prop} (hstep : ∀ (p : Pass) (role : String),
    P p.inclusions → P (p.widen role).inclusions) {roles : List String} (h : P p.inclusions) :
    P (roles.foldl widen p).inclusions := by
  induction roles generalizing p with
  | nil => exact h
  | cons role roles ih => exact ih (hstep p role h)

/-- A pass that changes anything adds a pair. -/
theorem exists_added {roles : List String} (h : (roles.foldl widen p).changed = true)
    (hp : p.changed = false) : ∃ r s, p.inclusions.includes r s = false ∧
      (roles.foldl widen p).inclusions.includes r s = true := by
  induction roles generalizing p with
  | nil =>
    rw [List.foldl_nil, hp] at h
    cases h
  | cons role roles ih =>
    rw [List.foldl_cons] at h ⊢
    by_cases hstep : (p.widen role).changed = false
    · rw [widen_eq_self hstep] at h ⊢
      exact ih h hp
    · rw [changed_widen] at hstep
      push Not at hstep
      obtain ⟨m, s, hm, hs, hn⟩ := hstep hp
      refine ⟨role, s, by simpa using hn, ?_⟩
      have hadded : (p.widen role).inclusions.includes role s = true :=
        includes_widen.2 (Or.inr ⟨rfl, m, hm, hs⟩)
      exact foldl_induction (P := fun i => i.includes role s = true)
        (fun _ _ h => includes_widen.2 (Or.inl h)) hadded

end Pass

variable {i : Inclusions}

theorem keys_pass (i : Inclusions) : i.pass.inclusions.keys = i.keys :=
  Pass.foldl_induction (P := fun j => j.keys = i.keys)
    (fun _ _ h => Pass.keys_widen.trans h) rfl

theorem ordered_pass (h : i.Ordered) : i.pass.inclusions.Ordered :=
  Pass.foldl_induction (fun _ _ => Pass.ordered_widen) h

theorem includes_pass {r s : String} (h : i.includes r s = true) :
    i.pass.inclusions.includes r s = true :=
  Pass.foldl_induction (P := fun j => j.includes r s = true)
    (fun _ _ h => Pass.includes_widen.2 (Or.inl h)) h

/-- A pass adds chains only. -/
theorem includes_close_of_pass {r s : String} (h : i.pass.inclusions.includes r s = true) :
    i.close.includes r s = true := by
  refine Pass.foldl_induction
    (P := fun j => ∀ r s, j.includes r s = true → i.close.includes r s = true)
    (fun p role ih r s hrs => ?_) (fun r s hrs => includes_close.2 (.single hrs)) r s h
  rcases Pass.includes_widen.1 hrs with hrs | ⟨rfl, m, hm, hs⟩
  · exact ih r s hrs
  · exact includes_close_trans (ih r m hm) (ih m s hs)

theorem close_pass (h : i.Ordered) : i.pass.inclusions.close = i.close :=
  close_eq_close h (ordered_pass h) (keys_pass i) (fun _ _ => includes_pass)
    (fun _ _ => includes_close_of_pass)

/-- The last pass has found the closure. -/
theorem close_of_unchanged (h : i.Ordered) (hpass : i.pass.changed = false) :
    i.pass.inclusions = i.close := by
  obtain ⟨heq, hclosed⟩ := Pass.foldl_eq_self hpass
  have hself : i.pass.inclusions = i := congrArg Pass.inclusions heq
  rw [hself]
  refine (close_eq_self h fun r m s hm hs => ?_).symm
  exact hclosed r (mem_keys_of_includes hm) m s hm hs

/-! ### The end of the passes -/

/-- The pairs of the closure that are not there yet. -/
def pending (i : Inclusions) : Finset (String × String) :=
  (i.close.entries.flatMap fun e => e.2.map (e.1, ·)).toFinset.filter
    fun e => i.includes e.1 e.2 = false

theorem mem_pending {e : String × String} :
    e ∈ i.pending ↔ i.close.includes e.1 e.2 = true ∧ i.includes e.1 e.2 = false := by
  rw [pending, Finset.mem_filter, List.mem_toFinset, List.mem_flatMap, includes_iff]
  refine and_congr_left' ?_
  constructor
  · rintro ⟨⟨r, included⟩, he, hm⟩
    obtain ⟨s, hs, rfl⟩ := List.mem_map.1 hm
    exact ⟨included, SortedMap.get?_eq_some_iff.2 he, hs⟩
  · rintro ⟨included, hget, hs⟩
    exact ⟨(e.1, included), SortedMap.get?_eq_some_iff.1 hget, List.mem_map.2 ⟨e.2, hs, rfl⟩⟩

/-- A pass that changes anything leaves fewer pairs to come. -/
theorem card_pending_pass_lt (h : i.Ordered) (hpass : i.pass.changed = true) :
    i.pass.inclusions.pending.card < i.pending.card := by
  obtain ⟨r, s, hbefore, hadded⟩ := Pass.exists_added hpass rfl
  have hafter : i.pass.inclusions.includes r s = true := hadded
  have hsubset : i.pass.inclusions.pending ⊆ i.pending := by
    intro e he
    rw [mem_pending, close_pass h] at he
    refine mem_pending.2 ⟨he.1, ?_⟩
    by_contra hn
    rw [Bool.not_eq_false] at hn
    rw [includes_pass hn] at he
    exact absurd he.2 (by decide)
  refine Finset.card_lt_card ⟨hsubset, fun hsup => ?_⟩
  have hpending : (r, s) ∈ i.pending := mem_pending.2 ⟨includes_close_of_pass hafter, hbefore⟩
  have hmem := hsup hpending
  have hmissing : i.pass.inclusions.includes r s = false := (mem_pending.1 hmem).2
  rw [hafter] at hmissing
  cases hmissing

/-- **The passes come to an end, with the closure.** -/
theorem saturates_close (h : i.Ordered) : Saturates i i.close := by
  induction hn : i.pending.card using Nat.strong_induction_on generalizing i with
  | _ n ih =>
    by_cases hpass : i.pass.changed = true
    · have hlt := card_pending_pass_lt h hpass
      have hrest := ih _ (hn ▸ hlt) (ordered_pass h) rfl
      rw [close_pass h] at hrest
      exact .again hpass hrest
    · rw [Bool.not_eq_true] at hpass
      rw [← close_of_unchanged h hpass]
      exact .done hpass

theorem Saturates.unique {closed closed' : Inclusions} (h : Saturates i closed)
    (h' : Saturates i closed') : closed = closed' := by
  induction h with
  | done hpass =>
    cases h' with
    | done => rfl
    | again hpass' => rw [hpass] at hpass'; cases hpass'
  | again hpass _ ih =>
    cases h' with
    | done hpass' => rw [hpass] at hpass'; cases hpass'
    | again _ h' => exact ih h'

/-- **The closure of inclusions.**  Passes over the roles end, with `close` and nothing else; it has
the roles of the relation and includes exactly what a chain of one or more inclusions leads to.  A
closed relation is its own closure, and a larger relation has a larger one. -/
theorem close_exact {direct : Inclusions} (h : direct.Ordered) :
    (∀ closed, Saturates direct closed ↔ closed = direct.close) ∧
    direct.close.keys = direct.keys ∧
    (∀ r s, direct.close.includes r s = true ↔
      Relation.TransGen (fun a b => direct.includes a b = true) r s) ∧
    direct.close.close = direct.close ∧
    ((∀ r m s, direct.includes r m = true → direct.includes m s = true →
      direct.includes r s = true) → direct.close = direct) ∧
    ∀ larger : Inclusions, (∀ r s, direct.includes r s = true → larger.includes r s = true) →
      ∀ r s, direct.close.includes r s = true → larger.close.includes r s = true := by
  refine ⟨fun closed => ⟨fun hs => hs.unique (saturates_close h), ?_⟩, keys_close direct,
    fun r s => includes_close, ?_, close_eq_self h, ?_⟩
  · rintro rfl
    exact saturates_close h
  · exact close_eq_self (ordered_close h) fun r m s => includes_close_trans
  · intro larger hle r s
    exact includes_close_mono hle

/-- A circle with a role that includes itself, and a role that includes nothing. -/
def circle : Inclusions := ofList [("a", ["b"]), ("b", ["d", "c"]), ("c", ["c", "a"])]

theorem close_exact_circle :
    circle.Ordered ∧ Saturates circle circle.close ∧ circle.close.includes "a" "a" = true ∧
      circle.close.includes "c" "d" = true ∧ circle.close.includes "d" "a" = false := by
  have hordered : circle.Ordered := ordered_ofList _
  obtain ⟨hpasses, hkeys, hchains, -⟩ := close_exact hordered
  have hab : circle.includes "a" "b" = true := by decide +kernel
  have hbc : circle.includes "b" "c" = true := by decide +kernel
  have hca : circle.includes "c" "a" = true := by decide +kernel
  have hbd : circle.includes "b" "d" = true := by decide +kernel
  refine ⟨hordered, (hpasses _).2 rfl, (hchains _ _).2 ?_, (hchains _ _).2 ?_, ?_⟩
  · exact .tail (.tail (.single hab) hbc) hca
  · exact .tail (.tail (.single hca) hab) hbd
  · by_contra hn
    have hd := mem_keys_of_includes (Bool.eq_true_of_not_eq_false hn)
    rw [hkeys] at hd
    exact absurd hd (by decide +kernel)

end Inclusions

end Regrant
