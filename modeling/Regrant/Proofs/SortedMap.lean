import Mathlib.Data.List.Induction
import Mathlib.Data.List.Nodup
import Regrant.SortedMap

/-!
# What maps in key order hold

A map in key order is determined by its view `get?` (`SortedMap.ext_get?`), and `get?` reads an
entry exactly when the map has it (`get?_eq_some_iff`).  On this rest the two uses of such maps that
merging makes: `groupBy` splits a list into the members with one key each, in list order
(`entries_groupBy`), and `sortedDistinct` lists the same members in ascending order without repeats
(`mem_sortedDistinct`, `ascending_sortedDistinct`).
-/

namespace Regrant

variable {κ α β : Type} [Ord κ]

/-- In strictly ascending order, hence without repeats. -/
def Ascending (l : List κ) : Prop := l.Pairwise (fun a b => compare a b = .lt)

theorem Ascending.sublist {l l' : List κ} (h : Ascending l') (hs : l.Sublist l') : Ascending l :=
  List.Pairwise.sublist hs h

theorem SortedMap.ascending_keys (m : SortedMap κ α) : Ascending m.keys := by
  rw [Ascending, SortedMap.keys, List.pairwise_map]
  exact m.sorted

@[simp] theorem SortedMap.get?_empty (k : κ) : (∅ : SortedMap κ α).get? k = none := rfl

theorem SortedMap.get?_map (m : SortedMap κ α) (f : α → β) (k : κ) :
    (m.map f).get? k = (m.get? k).map f := by
  obtain ⟨l, hl⟩ := m
  show lookup k (l.map fun e => (e.1, f e.2)) = (lookup k l).map f
  clear hl
  induction l with
  | nil => rfl
  | cons e l ih =>
    rw [List.map_cons, lookup, lookup, ih]
    split <;> rfl

/-! ### Ascending lists -/

variable [Std.TransOrd κ]

namespace Ascending

theorem ne_of_lt {a b : κ} (h : compare a b = .lt) : a ≠ b := by
  rintro rfl
  rw [show compare a a = .eq from Std.ReflCmp.compare_self] at h
  cases h

theorem nodup {l : List κ} (h : Ascending l) : l.Nodup := h.imp ne_of_lt

/-- **A list with ascending keys is determined by its members.** -/
theorem eq_of_mem_iff {f : α → κ} {l l' : List α} (h : Ascending (l.map f))
    (h' : Ascending (l'.map f)) (hm : ∀ a, a ∈ l ↔ a ∈ l') : l = l' := by
  rw [Ascending, List.pairwise_map] at h h'
  have hd : l.Nodup := h.imp fun hab he => ne_of_lt hab (congrArg f he)
  have hd' : l'.Nodup := h'.imp fun hab he => ne_of_lt hab (congrArg f he)
  refine ((List.perm_ext_iff_of_nodup hd hd').2 hm).eq_of_pairwise ?_ h h'
  intro a b _ _ hab hba
  rw [Std.OrientedCmp.gt_of_lt hab] at hba
  cases hba

theorem ext {l l' : List κ} (h : Ascending l) (h' : Ascending l') (hm : ∀ k, k ∈ l ↔ k ∈ l') :
    l = l' :=
  eq_of_mem_iff (f := id) (by rwa [List.map_id]) (by rwa [List.map_id]) hm

end Ascending

namespace SortedMap

/-! ### Entries and lookups -/

variable [Std.LawfulEqOrd κ]

omit [Std.TransOrd κ] in
theorem lookup_cons [DecidableEq κ] (k : κ) (e : κ × α) (l : List (κ × α)) :
    lookup k (e :: l) = if k = e.1 then some e.2 else lookup k l := by
  rw [lookup]
  simp only [Std.LawfulEqCmp.compare_eq_iff_eq]

omit [Std.TransOrd κ] in
theorem mem_of_lookup {k : κ} {a : α} {l : List (κ × α)} (h : lookup k l = some a) :
    (k, a) ∈ l := by
  classical
  induction l with
  | nil => cases h
  | cons e l ih =>
    rw [lookup_cons] at h
    split at h
    · rename_i hk
      cases h
      exact hk ▸ List.mem_cons_self
    · exact List.mem_cons_of_mem _ (ih h)

omit [Std.TransOrd κ] in
/-- In a list of entries with distinct keys a lookup finds every entry. -/
theorem lookup_eq_some_iff {k : κ} {a : α} {l : List (κ × α)} (h : (l.map (·.1)).Nodup) :
    lookup k l = some a ↔ (k, a) ∈ l := by
  classical
  induction l with
  | nil => simp [lookup]
  | cons e l ih =>
    obtain ⟨hne, hl⟩ := List.nodup_cons.1 h
    rw [lookup_cons, List.mem_cons]
    by_cases hk : k = e.1
    · subst hk
      rw [if_pos rfl]
      constructor
      · intro he
        exact Or.inl (by rw [← Option.some.inj he])
      · rintro (he | hm)
        · rw [← he]
        · exact absurd (List.mem_map_of_mem (f := Prod.fst) hm) hne
    · rw [if_neg hk, ih hl]
      constructor
      · exact Or.inr
      · rintro (he | hm)
        · exact absurd (congrArg Prod.fst he) hk
        · exact hm

theorem get?_eq_some_iff {m : SortedMap κ α} {k : κ} {a : α} :
    m.get? k = some a ↔ (k, a) ∈ m.entries :=
  lookup_eq_some_iff m.ascending_keys.nodup

theorem mem_keys_iff {m : SortedMap κ α} {k : κ} : k ∈ m.keys ↔ ∃ a, m.get? k = some a := by
  simp [keys, get?_eq_some_iff]

theorem contains_eq_false_iff {m : SortedMap κ α} {k : κ} : m.contains k = false ↔ k ∉ m.keys := by
  rw [mem_keys_iff, contains, Option.isSome_eq_false_iff, Option.isNone_iff_eq_none]
  exact Option.eq_none_iff_forall_not_mem.trans not_exists.symm

/-- **Maps with the same view are equal.** -/
theorem ext_get? {m n : SortedMap κ α} (h : ∀ k, m.get? k = n.get? k) : m = n := by
  refine ext (Ascending.eq_of_mem_iff (f := Prod.fst) m.ascending_keys n.ascending_keys ?_)
  rintro ⟨k, a⟩
  rw [← get?_eq_some_iff, ← get?_eq_some_iff, h]

theorem get?_alter [DecidableEq κ] (m : SortedMap κ α) (k k' : κ) (f : Option α → α) :
    (m.alter k f).get? k' = if k' = k then some (f (m.get? k)) else m.get? k' := by
  by_cases h : k' = k
  · rw [if_pos h, h, get?_alter_self]
  · rw [if_neg h, get?_alter_ne m (fun hc => h (Std.LawfulEqOrd.eq_of_compare hc))]

omit [Std.TransOrd κ] in
theorem lookup_eq_none {k : κ} {l : List (κ × α)} (h : k ∉ l.map (·.1)) : lookup k l = none := by
  classical
  induction l with
  | nil => rfl
  | cons e l ih =>
    rw [List.map_cons, List.mem_cons, not_or] at h
    rw [lookup_cons, if_neg h.1, ih h.2]

omit [Std.TransOrd κ] in
/-- In a list of entries with distinct keys there is at most one for each. -/
theorem filter_key_eq [DecidableEq κ] {l : List (κ × α)} (h : (l.map (·.1)).Nodup) (k : κ) :
    (l.filter fun e => e.1 = k) = ((lookup k l).map (k, ·)).toList := by
  induction l with
  | nil => rfl
  | cons e l ih =>
    obtain ⟨hne, hl⟩ := List.nodup_cons.1 h
    rw [lookup_cons, List.filter_cons, ih hl]
    by_cases hk : k = e.1
    · subst hk
      rw [if_pos rfl, lookup_eq_none hne]
      simp
    · rw [if_neg hk, if_neg (by simpa using Ne.symm hk)]

omit [Std.TransOrd κ] in
/-- In a list of entries with distinct keys the order does not matter. -/
theorem lookup_reverse {l : List (κ × α)} (h : (l.map (·.1)).Nodup) (k : κ) :
    lookup k l.reverse = lookup k l := by
  apply Option.ext
  intro a
  rw [lookup_eq_some_iff h, lookup_eq_some_iff (by rwa [List.map_reverse, List.nodup_reverse]),
    List.mem_reverse]

/-! ### Maps from lists of entries -/

theorem get?_ofList (l : List (κ × α)) (k : κ) : (ofList l).get? k = lookup k l.reverse := by
  classical
  induction l using List.reverseRecOn with
  | nil => rfl
  | append_singleton l e ih =>
    have hstep : ofList (l ++ [e]) = (ofList l).insert e.1 e.2 := by
      rw [ofList, List.foldl_append]
      rfl
    rw [hstep, insert, get?_alter, List.reverse_append, List.reverse_singleton,
      List.singleton_append, lookup_cons, ih]

/-- Every entry of a map that a list describes is one of the list. -/
theorem mem_of_mem_ofList {l : List (κ × α)} {e : κ × α} (h : e ∈ (ofList l).entries) : e ∈ l := by
  have hget := get?_eq_some_iff.2 h
  rw [get?_ofList] at hget
  exact List.mem_reverse.1 (mem_of_lookup hget)

/-- What is listed by ascending keys comes out as it stands. -/
theorem ofList_entries (m : SortedMap κ α) : ofList m.entries = m := by
  apply ext_get?
  intro k
  rw [get?_ofList, lookup_reverse m.ascending_keys.nodup]
  rfl

theorem entries_ofList {l : List (κ × α)} (h : Ascending (l.map (·.1))) : (ofList l).entries = l :=
  congrArg entries (ofList_entries ⟨l, List.pairwise_map.1 h⟩)

end SortedMap

/-! ### Distinct members and groups -/

theorem ascending_sortedDistinct (l : List κ) : Ascending (sortedDistinct l) :=
  SortedMap.ascending_keys _

theorem groupBy_concat (key : α → κ) (l : List α) (a : α) :
    groupBy key (l ++ [a]) = (groupBy key l).alter (key a) (fun g => g.getD [] ++ [a]) := by
  rw [groupBy, List.foldl_append]
  rfl

variable [Std.LawfulEqOrd κ]

theorem mem_sortedDistinct {l : List κ} {k : κ} : k ∈ sortedDistinct l ↔ k ∈ l := by
  classical
  rw [sortedDistinct, SortedMap.mem_keys_iff]
  induction l using List.reverseRecOn with
  | nil => simp
  | append_singleton l k' ih =>
    rw [List.foldl_append, List.foldl_cons, List.foldl_nil, List.mem_append, List.mem_singleton,
      ← ih, SortedMap.insert, SortedMap.get?_alter]
    by_cases h : k = k'
    · simp [h]
    · simp [h]

theorem sortedDistinct_perm {l l' : List κ} (h : l.Perm l') :
    sortedDistinct l = sortedDistinct l' := by
  refine (ascending_sortedDistinct l).ext (ascending_sortedDistinct l') fun k => ?_
  rw [mem_sortedDistinct, mem_sortedDistinct, h.mem_iff]

/-- The members of a list that come before all members of another. -/
theorem sortedDistinct_append {l l' : List κ} (h : ∀ a ∈ l, ∀ b ∈ l', compare a b = .lt) :
    sortedDistinct (l ++ l') = sortedDistinct l ++ sortedDistinct l' := by
  have happend : Ascending (sortedDistinct l ++ sortedDistinct l') := by
    refine List.pairwise_append.2 ⟨ascending_sortedDistinct _, ascending_sortedDistinct _, ?_⟩
    intro a ha b hb
    exact h a (mem_sortedDistinct.1 ha) b (mem_sortedDistinct.1 hb)
  refine (ascending_sortedDistinct _).ext happend fun k => ?_
  simp only [List.mem_append, mem_sortedDistinct]

variable [DecidableEq κ]

/-- The group of a key: the members with this key, in list order, if there are any. -/
theorem get?_groupBy (key : α → κ) (l : List α) (k : κ) :
    (groupBy key l).get? k =
      if l.filter (fun a => key a = k) = [] then none else some (l.filter (fun a => key a = k)) := by
  induction l using List.reverseRecOn with
  | nil => rfl
  | append_singleton l a ih =>
    rw [groupBy_concat, SortedMap.get?_alter, List.filter_append]
    by_cases h : k = key a
    · subst h
      have hg : ((groupBy key l).get? (key a)).getD [] = l.filter (fun b => key b = key a) := by
        rw [ih]
        split <;> simp_all
      simp [hg]
    · have ha : [a].filter (fun b => key b = k) = [] := by simp [Ne.symm h]
      rw [if_neg h, ih, ha, List.append_nil]

/-- The groups come by ascending keys. -/
theorem keys_groupBy (key : α → κ) (l : List α) :
    (groupBy key l).keys = sortedDistinct (l.map key) := by
  refine (SortedMap.ascending_keys _).ext (ascending_sortedDistinct _) fun k => ?_
  rw [SortedMap.mem_keys_iff, mem_sortedDistinct, get?_groupBy]
  simp

/-- **The groups of a list**, by ascending keys and each in list order. -/
theorem entries_groupBy (key : α → κ) (l : List α) :
    (groupBy key l).entries =
      (sortedDistinct (l.map key)).map (fun k => (k, l.filter (fun a => key a = k))) := by
  rw [← keys_groupBy, SortedMap.keys, List.map_map]
  refine (List.map_id _).symm.trans (List.map_congr_left fun e he => ?_)
  have hget := SortedMap.get?_eq_some_iff.2 he
  rw [get?_groupBy] at hget
  split at hget
  · cases hget
  · exact Prod.ext rfl (Option.some.inj hget).symm

theorem values_groupBy (key : α → κ) (l : List α) :
    (groupBy key l).values =
      (sortedDistinct (l.map key)).map (fun k => l.filter (fun a => key a = k)) := by
  rw [SortedMap.values, entries_groupBy, List.map_map]
  rfl

/-- The groups of two lists, all keys of the first of which come before those of the second. -/
theorem values_groupBy_append {key : α → κ} {l l' : List α}
    (h : ∀ a ∈ l, ∀ b ∈ l', compare (key a) (key b) = .lt) :
    (groupBy key (l ++ l')).values = (groupBy key l).values ++ (groupBy key l').values := by
  have hkeys : sortedDistinct ((l ++ l').map key) =
      sortedDistinct (l.map key) ++ sortedDistinct (l'.map key) := by
    rw [List.map_append]
    refine sortedDistinct_append fun k hk k' hk' => ?_
    obtain ⟨a, ha, rfl⟩ := List.mem_map.1 hk
    obtain ⟨b, hb, rfl⟩ := List.mem_map.1 hk'
    exact h a ha b hb
  rw [values_groupBy, values_groupBy, values_groupBy, hkeys, List.map_append]
  -- A group has members of one list only.
  congr 1
  · refine List.map_congr_left fun k hk => ?_
    obtain ⟨a, ha, rfl⟩ := List.mem_map.1 (mem_sortedDistinct.1 hk)
    have hnone : l'.filter (fun b => key b = key a) = [] := by
      rw [List.filter_eq_nil_iff]
      intro b hb hk
      exact Ascending.ne_of_lt (h a ha b hb) (of_decide_eq_true hk).symm
    rw [List.filter_append, hnone, List.append_nil]
  · refine List.map_congr_left fun k hk => ?_
    obtain ⟨b, hb, rfl⟩ := List.mem_map.1 (mem_sortedDistinct.1 hk)
    have hnone : l.filter (fun a => key a = key b) = [] := by
      rw [List.filter_eq_nil_iff]
      intro a ha hk
      exact Ascending.ne_of_lt (h a ha b hb) (of_decide_eq_true hk)
    rw [List.filter_append, hnone, List.nil_append]

omit [Ord κ] [Std.TransOrd κ] [Std.LawfulEqOrd κ] in
/-- Of distinct keys only one contributes. -/
theorem flatMap_eq_of_unique {ks : List κ} (hd : ks.Nodup) {f : κ → List β} {k : κ}
    (hne : ∀ k' ∈ ks, k' ≠ k → f k' = []) (hk : k ∉ ks → f k = []) : ks.flatMap f = f k := by
  induction ks with
  | nil => exact (hk (List.not_mem_nil)).symm
  | cons k' ks ih =>
    obtain ⟨hnot, hd⟩ := List.nodup_cons.1 hd
    rw [List.flatMap_cons]
    by_cases h : k' = k
    · subst h
      have hrest : ks.flatMap f = [] := by
        rw [List.flatMap_eq_nil_iff]
        intro k'' hm
        exact hne k'' (List.mem_cons_of_mem _ hm) (fun he => hnot (he ▸ hm))
      rw [hrest, List.append_nil]
    · rw [hne k' List.mem_cons_self h, List.nil_append]
      refine ih hd (fun k'' hm => hne k'' (List.mem_cons_of_mem _ hm)) fun hn => hk ?_
      rintro hm
      rcases List.mem_cons.1 hm with he | hm
      · exact h he.symm
      · exact hn hm

/-- What is asked of all groups, but only the group of one key answers. -/
theorem flatMap_values_groupBy {key : α → κ} {l : List α} {f : List α → List β} (k : κ)
    (hnil : f [] = []) (hne : ∀ k', k' ≠ k → f (l.filter (fun a => key a = k')) = []) :
    (groupBy key l).values.flatMap f = f (l.filter (fun a => key a = k)) := by
  rw [values_groupBy, List.flatMap_map]
  refine flatMap_eq_of_unique (ascending_sortedDistinct _).nodup (fun k' _ => hne k') fun hk => ?_
  have hempty : l.filter (fun a => key a = k) = [] := by
    rw [List.filter_eq_nil_iff]
    intro a ha hka
    exact hk (mem_sortedDistinct.2 (List.mem_map.2 ⟨a, ha, of_decide_eq_true hka⟩))
  rw [hempty, hnil]

end Regrant
