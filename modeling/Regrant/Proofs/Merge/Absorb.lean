import Regrant.Binding.Merge
import Regrant.Proofs.SortedMap

/-!
# What absorbing keeps

Bindings that become one keep the fields of the first and the records of all.  `together` says what
some provenances hold of a system when they are read one after the other, and `get?_of_absorbAll`
that one binding made of many holds just that, for the permissions as for the principals.  `unite`
makes one binding for each key (`mem_unite_iff`), by ascending keys (`map_unite`).
-/

namespace Regrant

/-! ### Records of one system -/

namespace Provenance

/-- What some provenances hold of a system, in order; none if none of them knows the system. -/
def together (ps : List Provenance) (system : String) : Option (List Json) :=
  match ps.filterMap (·.get? system) with
  | [] => none
  | records => some records.flatten

variable {s : String}

@[simp] theorem together_nil : together [] s = none := rfl

theorem together_cons (p : Provenance) (ps : List Provenance) :
    together (p :: ps) s = Option.merge (· ++ ·) (p.get? s) (together ps s) := by
  rw [together, together, List.filterMap_cons]
  cases p.get? s with
  | none => rw [Option.merge_none_left]
  | some r => cases ps.filterMap (·.get? s) <;> simp

@[simp] theorem together_singleton (p : Provenance) : together [p] s = p.get? s := by
  rw [together_cons, together_nil, Option.merge_none_right]

theorem together_append (ps qs : List Provenance) :
    together (ps ++ qs) s = Option.merge (· ++ ·) (together ps s) (together qs s) := by
  induction ps with
  | nil => rw [List.nil_append, together_nil, Option.merge_none_left]
  | cons p ps ih =>
    rw [List.cons_append, together_cons, together_cons, ih]
    cases p.get? s <;> cases together ps s <;> cases together qs s <;> simp

/-- Parts that hold the same hold the same together. -/
theorem together_flatMap_congr {α : Type} {l : List α} {f g : α → List Provenance}
    (h : ∀ a ∈ l, together (f a) s = together (g a) s) :
    together (l.flatMap f) s = together (l.flatMap g) s := by
  induction l with
  | nil => rfl
  | cons a l ih =>
    rw [List.flatMap_cons, List.flatMap_cons, together_append, together_append,
      h a List.mem_cons_self, ih (fun a ha => h a (List.mem_cons_of_mem _ ha))]

theorem getD_together (ps : List Provenance) :
    (together ps s).getD [] = ps.flatMap (fun p => (p.get? s).getD []) := by
  induction ps with
  | nil => rfl
  | cons p ps ih =>
    rw [together_cons, List.flatMap_cons, ← ih]
    cases p.get? s <;> cases together ps s <;> simp

/-- Provenances together know the systems that one of them knows. -/
theorem isSome_together_iff {ps : List Provenance} :
    (together ps s).isSome ↔ ∃ p ∈ ps, s ∈ p.keys := by
  induction ps with
  | nil => simp
  | cons p ps ih =>
    rw [together_cons, List.exists_mem_cons_iff, ← ih, SortedMap.mem_keys_iff,
      ← Option.isSome_iff_exists]
    cases p.get? s <;> cases together ps s <;> simp

theorem get?_extend (p : Provenance) (system : String) (records : List Json) :
    (p.extend system records).get? s =
      if s = system then some ((p.get? system).getD [] ++ records) else p.get? s :=
  SortedMap.get?_alter p system s _

/-- **Appending adds the records of each system after those that are there.** -/
theorem get?_append (p q : Provenance) :
    (p.append q).get? s = Option.merge (· ++ ·) (p.get? s) (q.get? s) := by
  obtain ⟨l, hl⟩ := q
  have hnodup : (l.map (·.1)).Nodup := (SortedMap.mk l hl).ascending_keys.nodup
  show (l.foldl (fun p e => p.extend e.1 e.2) p).get? s
    = Option.merge (· ++ ·) (p.get? s) (SortedMap.lookup s l)
  clear hl
  induction l generalizing p with
  | nil => rw [List.foldl_nil, SortedMap.lookup, Option.merge_none_right]
  | cons e l ih =>
    obtain ⟨hnot, hnodup⟩ := List.nodup_cons.1 hnodup
    rw [List.foldl_cons, ih _ hnodup, get?_extend, SortedMap.lookup_cons]
    by_cases h : s = e.1
    · have hrest : SortedMap.lookup s l = none := by
        rw [Option.eq_none_iff_forall_ne_some]
        intro a ha
        rw [SortedMap.lookup_eq_some_iff hnodup, h] at ha
        exact hnot (List.mem_map.2 ⟨(e.1, a), ha, rfl⟩)
      rw [if_pos h, if_pos h, hrest, Option.merge_none_right, ← h]
      cases p.get? s <;> simp
    · rw [if_neg h, if_neg h]

end Provenance

/-! ### Bindings made one -/

/-- A provenance of bindings that absorbing extends and another role leaves alone. -/
structure Accumulates (part : IamBinding → Provenance) : Prop where
  absorb : ∀ a b, part (a.absorb b) = (part a).append (part b)
  withRole : ∀ b role, part { b with role := role } = part b

theorem accumulates_permissions : Accumulates IamBinding.permissions :=
  ⟨fun _ _ => rfl, fun _ _ => rfl⟩

theorem accumulates_principals : Accumulates IamBinding.principals :=
  ⟨fun _ _ => rfl, fun _ _ => rfl⟩

namespace Merge

variable {l : List IamBinding} {b : IamBinding}

theorem absorbAll_eq_none_iff : absorbAll l = none ↔ l = [] := by
  cases l <;> simp [absorbAll]

/-- What absorbing leaves alone comes from one of the bindings. -/
theorem exists_kept_of_absorbAll (h : absorbAll l = some b) :
    ∃ c ∈ l, ∀ {γ : Type} (f : IamBinding → γ), (∀ a b, f (a.absorb b) = f a) → f b = f c := by
  cases l with
  | nil => cases h
  | cons c rest =>
    refine ⟨c, List.mem_cons_self, fun f hf => ?_⟩
    rw [← Option.some.inj h]
    clear h
    induction rest generalizing c with
    | nil => rfl
    | cons d rest ih => rw [List.foldl_cons, ih, hf]

/-- **One binding has the records of all.** -/
theorem get?_of_absorbAll {part : IamBinding → Provenance} (hp : Accumulates part)
    (h : absorbAll l = some b) (s : String) :
    (part b).get? s = Provenance.together (l.map part) s := by
  cases l with
  | nil => cases h
  | cons c rest =>
    rw [← Option.some.inj h]
    clear h
    induction rest generalizing c with
    | nil => simp
    | cons d rest ih =>
      rw [List.foldl_cons, ih, List.map_cons, List.map_cons, List.map_cons,
        Provenance.together_cons, Provenance.together_cons, Provenance.together_cons, hp.absorb,
        Provenance.get?_append]
      cases (part c).get? s <;> cases (part d).get? s <;>
        cases Provenance.together (rest.map part) s <;> simp

/-! ### Bindings united by key -/

section

variable {κ : Type} [Ord κ] [Std.TransOrd κ] [Std.LawfulEqOrd κ] [DecidableEq κ]
  {key : IamBinding → κ}

theorem unite_eq (key : IamBinding → κ) (l : List IamBinding) :
    unite key l = (sortedDistinct (l.map key)).filterMap
      (fun k => absorbAll (l.filter (fun b => key b = k))) := by
  rw [unite, values_groupBy, List.filterMap_map]
  rfl

omit [Ord κ] [Std.TransOrd κ] [Std.LawfulEqOrd κ] in
theorem key_of_absorbAll (hkey : ∀ a b, key (a.absorb b) = key a) {k : κ}
    (h : absorbAll (l.filter (fun b => key b = k)) = some b) : key b = k := by
  obtain ⟨c, hc, hkept⟩ := exists_kept_of_absorbAll h
  rw [hkept key hkey]
  exact of_decide_eq_true (List.mem_filter.1 hc).2

/-- A united binding is what all bindings with its key amount to. -/
theorem mem_unite_iff (hkey : ∀ a b, key (a.absorb b) = key a) :
    b ∈ unite key l ↔ absorbAll (l.filter (fun a => key a = key b)) = some b := by
  rw [unite_eq, List.mem_filterMap]
  constructor
  · rintro ⟨k, _, h⟩
    rw [key_of_absorbAll hkey h]
    exact h
  · intro h
    refine ⟨key b, mem_sortedDistinct.2 ?_, h⟩
    obtain ⟨c, hc, hkept⟩ := exists_kept_of_absorbAll h
    rw [hkept key hkey]
    exact List.mem_map_of_mem (List.mem_filter.1 hc).1

/-- There is one united binding for each key, and they come by ascending keys. -/
theorem map_unite (hkey : ∀ a b, key (a.absorb b) = key a) (l : List IamBinding) :
    (unite key l).map key = sortedDistinct (l.map key) := by
  rw [unite_eq, List.map_filterMap]
  have hsome : ∀ k ∈ sortedDistinct (l.map key),
      (absorbAll (l.filter (fun b => key b = k))).map key = some k := by
    intro k hk
    obtain ⟨c, hc, rfl⟩ := List.mem_map.1 (mem_sortedDistinct.1 hk)
    cases h : absorbAll (l.filter (fun b => key b = key c)) with
    | none =>
      rw [absorbAll_eq_none_iff, List.filter_eq_nil_iff] at h
      exact absurd (decide_eq_true rfl) (h c hc)
    | some b => rw [Option.map_some, key_of_absorbAll hkey h]
  rw [List.filterMap_congr hsome, List.filterMap_some]

theorem ascending_unite (hkey : ∀ a b, key (a.absorb b) = key a) (l : List IamBinding) :
    Ascending ((unite key l).map key) := by
  rw [map_unite hkey]
  exact ascending_sortedDistinct _

end

end Merge

end Regrant
