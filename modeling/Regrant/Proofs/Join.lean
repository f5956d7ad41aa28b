import Mathlib.Data.List.Basic
import Regrant.Join
import Regrant.Proofs.SortedMap

/-!
# What joining sorted lists amounts to

Sorting by a key keeps the members with one key in their order (`filter_mergeSort`).  So a join of
two lists that were sorted by their keys takes the keys in ascending order and pairs the members
with this key on one side with those on the other by position (`mergeJoin_mergeSort`).  What is left
over on the longer side has no partner.

Whether sorted or not, a join is one pass over both lists (`JoinPass`), which uses each member at
most once.  `mergeJoin_exact` says what it yields in either case.
-/

namespace Regrant

variable {κ α β : Type} [Ord κ] [Std.TransOrd κ]

/-! ### Sorting by a key -/

/-- In ascending order of a key, which may repeat. -/
def AscendingBy (key : α → κ) (l : List α) : Prop :=
  l.Pairwise fun a b => (compare (key a) (key b)).isLE

theorem isLE_total (a b : κ) : ((compare a b).isLE || (compare b a).isLE) = true := by
  rw [← Std.OrientedCmp.isGE_eq_isLE (a := a)]
  cases compare a b <;> rfl

theorem ascendingBy_mergeSort (key : α → κ) (l : List α) :
    AscendingBy key (l.mergeSort fun a b => (compare (key a) (key b)).isLE) :=
  List.pairwise_mergeSort (fun _ _ _ => Std.TransCmp.isLE_trans) (fun _ _ => isLE_total _ _) l

namespace AscendingBy

omit [Std.TransOrd κ] in
theorem of_cons {key : α → κ} {a : α} {l : List α} (h : AscendingBy key (a :: l)) :
    AscendingBy key l := List.Pairwise.of_cons h

/-- No member has a key below that of the first one. -/
theorem ne_of_lt {key : α → κ} {a : α} {l : List α} (h : AscendingBy key (a :: l)) {k : κ}
    (hk : compare k (key a) = .lt) : ∀ b ∈ a :: l, key b ≠ k := by
  intro b hb
  have hab : (compare (key a) (key b)).isLE := by
    rcases List.mem_cons.1 hb with rfl | hb
    · exact Std.ReflCmp.isLE_rfl
    · exact List.rel_of_pairwise_cons h hb
  exact (Ascending.ne_of_lt (Std.TransCmp.lt_of_lt_of_isLE hk hab)).symm

end AscendingBy

variable [DecidableEq κ]

/-- **Sorting by a key is stable.** -/
theorem filter_mergeSort (key : α → κ) (l : List α) (k : κ) :
    (l.mergeSort fun a b => (compare (key a) (key b)).isLE).filter (fun a => key a = k) =
      l.filter (fun a => key a = k) := by
  -- The members with the key are in ascending order before sorting, so they stay a sublist.
  have hpair : (l.filter (fun a => key a = k)).Pairwise
      fun a b => (compare (key a) (key b)).isLE := by
    refine List.pairwise_of_forall_mem_list fun a ha b hb => ?_
    rw [of_decide_eq_true (List.mem_filter.1 ha).2, of_decide_eq_true (List.mem_filter.1 hb).2]
    exact Std.ReflCmp.isLE_rfl
  have hsub := (List.sublist_mergeSort (fun _ _ _ => Std.TransCmp.isLE_trans)
    (fun _ _ => isLE_total _ _) hpair List.filter_sublist).filter (fun a => key a = k)
  rw [List.filter_filter] at hsub
  simp only [Bool.and_self] at hsub
  refine (hsub.eq_of_length ?_).symm
  exact ((List.mergeSort_perm l _).filter _).length_eq.symm

/-! ### Joining -/

/-- The members with one key on either side, paired by position. -/
def pairsAt (f : α → κ) (g : β → κ) (as : List α) (bs : List β) (k : κ) : List (α × β) :=
  (as.filter (fun a => f a = k)).zip (bs.filter (fun b => g b = k))

variable {f : α → κ} {g : β → κ} {a : α} {b : β} {as : List α} {bs : List β} {k : κ}

omit [Ord κ] [Std.TransOrd κ] in
theorem pairsAt_eq_nil_left (h : ∀ a ∈ as, f a ≠ k) : pairsAt f g as bs k = [] := by
  have hnil : as.filter (fun a => f a = k) = [] := List.filter_eq_nil_iff.2 (by simpa using h)
  rw [pairsAt, hnil, List.zip_nil_left]

omit [Ord κ] [Std.TransOrd κ] in
theorem pairsAt_eq_nil_right (h : ∀ b ∈ bs, g b ≠ k) : pairsAt f g as bs k = [] := by
  have hnil : bs.filter (fun b => g b = k) = [] := List.filter_eq_nil_iff.2 (by simpa using h)
  rw [pairsAt, hnil, List.zip_nil_right]

omit [Ord κ] [Std.TransOrd κ] in
theorem pairsAt_cons_left (h : f a ≠ k) : pairsAt f g (a :: as) bs k = pairsAt f g as bs k := by
  rw [pairsAt, List.filter_cons_of_neg (by simpa using h), pairsAt]

omit [Ord κ] [Std.TransOrd κ] in
theorem pairsAt_cons_right (h : g b ≠ k) : pairsAt f g as (b :: bs) k = pairsAt f g as bs k := by
  rw [pairsAt, List.filter_cons_of_neg (by simpa using h), pairsAt]

omit [Ord κ] [Std.TransOrd κ] in
theorem pairsAt_cons_cons (ha : f a = k) (hb : g b = k) :
    pairsAt f g (a :: as) (b :: bs) k = (a, b) :: pairsAt f g as bs k := by
  rw [pairsAt, List.filter_cons_of_pos (by simpa using ha),
    List.filter_cons_of_pos (by simpa using hb), List.zip_cons_cons, pairsAt]

omit [DecidableEq κ] in
/-- One more value at a key, before which nothing is listed. -/
theorem flatMap_eq_cons {ks : List κ} (hks : Ascending ks) (hk : k ∈ ks) {F F' : κ → List β}
    (hlt : ∀ k', compare k' k = .lt → F k' = []) (hself : F' k = b :: F k)
    (hne : ∀ k', k' ≠ k → F' k' = F k') : ks.flatMap F' = b :: ks.flatMap F := by
  obtain ⟨before, after, rfl⟩ := List.append_of_mem hk
  obtain ⟨-, hafter, hbefore⟩ := List.pairwise_append.1 hks
  have hnil : before.flatMap F = [] :=
    List.flatMap_eq_nil_iff.2 fun k' hk' => hlt k' (hbefore k' hk' k List.mem_cons_self)
  have hnil' : before.flatMap F' = [] := by
    refine List.flatMap_eq_nil_iff.2 fun k' hk' => ?_
    have hk'k := hbefore k' hk' k List.mem_cons_self
    rw [hne k' (Ascending.ne_of_lt hk'k), hlt k' hk'k]
  have hrest : after.flatMap F' = after.flatMap F := by
    refine List.flatMap_congr fun k' hk' => hne k' ?_
    exact (Ascending.ne_of_lt (List.rel_of_pairwise_cons hafter hk')).symm
  rw [List.flatMap_append, List.flatMap_append, hnil, hnil', List.nil_append, List.nil_append,
    List.flatMap_cons, List.flatMap_cons, hself, hrest, List.cons_append]

variable [Std.LawfulEqOrd κ]

/-- A join of lists in ascending order of their keys, whose keys are listed by `ks`. -/
theorem mergeJoin_eq_flatMap {ks : List κ} (hks : Ascending ks) (has : AscendingBy f as)
    (hbs : AscendingBy g bs) (hmem : ∀ a ∈ as, f a ∈ ks) :
    mergeJoin (fun a b => compare (f a) (g b)) as bs = ks.flatMap (pairsAt f g as bs) := by
  fun_induction mergeJoin (fun a b => compare (f a) (g b)) as bs with
  | case1 bs => exact (List.flatMap_eq_nil_iff.2 fun k _ => pairsAt_eq_nil_left (by simp)).symm
  | case2 as => exact (List.flatMap_eq_nil_iff.2 fun k _ => pairsAt_eq_nil_right (by simp)).symm
  | case3 a as b bs hlt ih =>
    -- Nothing on the right has the key of `a`.
    rw [ih has.of_cons hbs fun a' ha' => hmem a' (List.mem_cons_of_mem _ ha')]
    refine List.flatMap_congr fun k _ => ?_
    by_cases hk : f a = k
    · subst hk
      rw [pairsAt_eq_nil_right (hbs.ne_of_lt hlt), pairsAt_eq_nil_right (hbs.ne_of_lt hlt)]
    · rw [pairsAt_cons_left hk]
  | case4 a as b bs hgt ih =>
    have hlt : compare (g b) (f a) = .lt := Std.OrientedCmp.lt_of_gt hgt
    rw [ih has hbs.of_cons hmem]
    refine List.flatMap_congr fun k _ => ?_
    by_cases hk : g b = k
    · subst hk
      rw [pairsAt_eq_nil_left (has.ne_of_lt hlt), pairsAt_eq_nil_left (has.ne_of_lt hlt)]
    · rw [pairsAt_cons_right hk]
  | case5 a as b bs heq ih =>
    have hab : g b = f a := (Std.LawfulEqOrd.eq_of_compare heq).symm
    rw [ih has.of_cons hbs.of_cons fun a' ha' => hmem a' (List.mem_cons_of_mem _ ha')]
    refine (flatMap_eq_cons hks (hmem a List.mem_cons_self) (fun k hk => ?_)
      (pairsAt_cons_cons rfl hab) fun k hk => ?_).symm
    · exact pairsAt_eq_nil_left fun a' ha' => has.ne_of_lt hk a' (List.mem_cons_of_mem _ ha')
    · rw [pairsAt_cons_left (Ne.symm hk), pairsAt_cons_right (by rw [hab]; exact Ne.symm hk)]

/-- **A join of two lists after sorting**: for each key in ascending order the members with this key
on either side, in the order in which they were listed, paired by position. -/
theorem mergeJoin_mergeSort (f : α → κ) (g : β → κ) (as : List α) (bs : List β) :
    mergeJoin (fun a b => compare (f a) (g b))
        (as.mergeSort fun a b => (compare (f a) (f b)).isLE)
        (bs.mergeSort fun a b => (compare (g a) (g b)).isLE) =
      (sortedDistinct (as.map f ++ bs.map g)).flatMap (pairsAt f g as bs) := by
  rw [mergeJoin_eq_flatMap (ascending_sortedDistinct (as.map f ++ bs.map g))
    (ascendingBy_mergeSort f as) (ascendingBy_mergeSort g bs)]
  · refine List.flatMap_congr fun k _ => ?_
    rw [pairsAt, filter_mergeSort, filter_mergeSort, pairsAt]
  · intro a ha
    rw [mem_sortedDistinct, List.mem_append]
    exact Or.inl (List.mem_map_of_mem (List.mem_mergeSort.1 ha))

/-! ### One pass -/

/-- A pass over two lists that makes so many comparisons and yields these pairs: it drops the lesser
of the two foremost members, or takes both if they are equal, until one list is used up. -/
inductive JoinPass (cmp : α → β → Ordering) :
    Nat → List α → List β → List (α × β) → Prop
  | leftEnd (bs : List β) : JoinPass cmp 0 [] bs []
  | rightEnd (as : List α) : JoinPass cmp 0 as [] []
  | dropLeft {a : α} {b : β} {as : List α} {bs : List β} {n : Nat} {pairs : List (α × β)}
      (h : cmp a b = .lt) (hrest : JoinPass cmp n as (b :: bs) pairs) :
      JoinPass cmp (n + 1) (a :: as) (b :: bs) pairs
  | dropRight {a : α} {b : β} {as : List α} {bs : List β} {n : Nat} {pairs : List (α × β)}
      (h : cmp a b = .gt) (hrest : JoinPass cmp n (a :: as) bs pairs) :
      JoinPass cmp (n + 1) (a :: as) (b :: bs) pairs
  | pair {a : α} {b : β} {as : List α} {bs : List β} {n : Nat} {pairs : List (α × β)}
      (h : cmp a b = .eq) (hrest : JoinPass cmp n as bs pairs) :
      JoinPass cmp (n + 1) (a :: as) (b :: bs) ((a, b) :: pairs)

namespace JoinPass

variable {cmp : α → β → Ordering} {n : Nat} {pairs : List (α × β)}

omit [DecidableEq κ] [Std.LawfulEqOrd κ] [Std.TransOrd κ] [Ord κ]

/-- Each comparison uses up at least one member. -/
theorem le_length (h : JoinPass cmp n as bs pairs) : n ≤ as.length + bs.length := by
  induction h with
  | leftEnd bs => exact Nat.zero_le _
  | rightEnd as => exact Nat.zero_le _
  | dropLeft _ _ ih => simp only [List.length_cons] at ih ⊢; omega
  | dropRight _ _ ih => simp only [List.length_cons] at ih ⊢; omega
  | pair _ _ ih => simp only [List.length_cons] at ih ⊢; omega

theorem eq_of_mem (h : JoinPass cmp n as bs pairs) {p : α × β} (hp : p ∈ pairs) :
    cmp p.1 p.2 = .eq := by
  induction h with
  | leftEnd bs => cases hp
  | rightEnd as => cases hp
  | dropLeft _ _ ih => exact ih hp
  | dropRight _ _ ih => exact ih hp
  | pair heq _ ih =>
    rcases List.mem_cons.1 hp with rfl | hp
    · exact heq
    · exact ih hp

/-- No member of the left list is used twice, and the order is kept. -/
theorem sublist_left (h : JoinPass cmp n as bs pairs) : (pairs.map (·.1)).Sublist as := by
  induction h with
  | leftEnd bs => exact List.Sublist.refl _
  | rightEnd as => exact List.nil_sublist as
  | dropLeft _ _ ih => exact ih.cons _
  | dropRight _ _ ih => exact ih
  | pair _ _ ih => exact ih.cons_cons _

theorem sublist_right (h : JoinPass cmp n as bs pairs) : (pairs.map (·.2)).Sublist bs := by
  induction h with
  | leftEnd bs => exact List.nil_sublist bs
  | rightEnd as => exact List.Sublist.refl _
  | dropLeft _ _ ih => exact ih
  | dropRight _ _ ih => exact ih.cons _
  | pair _ _ ih => exact ih.cons_cons _

end JoinPass

omit [DecidableEq κ] [Std.LawfulEqOrd κ] [Std.TransOrd κ] [Ord κ] in
theorem exists_joinPass (cmp : α → β → Ordering) (as : List α) (bs : List β) :
    ∃ n, JoinPass cmp n as bs (mergeJoin cmp as bs) := by
  fun_induction mergeJoin cmp as bs with
  | case1 bs => exact ⟨0, .leftEnd bs⟩
  | case2 as => exact ⟨0, .rightEnd as⟩
  | case3 a as b bs hlt ih =>
    obtain ⟨n, hn⟩ := ih
    exact ⟨n + 1, .dropLeft hlt hn⟩
  | case4 a as b bs hgt ih =>
    obtain ⟨n, hn⟩ := ih
    exact ⟨n + 1, .dropRight hgt hn⟩
  | case5 a as b bs heq ih =>
    obtain ⟨n, hn⟩ := ih
    exact ⟨n + 1, .pair heq hn⟩

/-! ### The pairs of one key -/

omit [Ord κ] [Std.TransOrd κ] [Std.LawfulEqOrd κ] in
theorem fst_of_mem_pairsAt {p : α × β} (h : p ∈ pairsAt f g as bs k) : f p.1 = k :=
  of_decide_eq_true (List.mem_filter.1 (List.of_mem_zip h).1).2

omit [Ord κ] [Std.TransOrd κ] [Std.LawfulEqOrd κ] in
theorem length_pairsAt : (pairsAt f g as bs k).length =
    min (as.countP fun a => f a = k) (bs.countP fun b => g b = k) := by
  rw [pairsAt, List.length_zip, List.countP_eq_length_filter, List.countP_eq_length_filter]

/-- A join of lists in ascending order has for each key the pairs of this key, and no others. -/
theorem filter_mergeJoin (has : AscendingBy f as) (hbs : AscendingBy g bs) (k : κ) :
    (mergeJoin (fun a b => compare (f a) (g b)) as bs).filter (fun p => f p.1 = k) =
      pairsAt f g as bs k := by
  have hks := ascending_sortedDistinct (as.map f)
  have hmem : ∀ a ∈ as, f a ∈ sortedDistinct (as.map f) :=
    fun a ha => mem_sortedDistinct.2 (List.mem_map_of_mem ha)
  rw [mergeJoin_eq_flatMap hks has hbs hmem, List.filter_flatMap]
  have hself : (pairsAt f g as bs k).filter (fun p => f p.1 = k) = pairsAt f g as bs k :=
    List.filter_eq_self.2 fun p hp => decide_eq_true (fst_of_mem_pairsAt hp)
  rw [flatMap_eq_of_unique (k := k) hks.nodup, hself]
  · intro k' _ hne
    refine List.filter_eq_nil_iff.2 fun p hp hk => hne ?_
    rw [← fst_of_mem_pairsAt hp]
    exact of_decide_eq_true hk
  · intro hk
    rw [hself]
    refine pairsAt_eq_nil_left fun a ha hak => hk ?_
    exact hak ▸ hmem a ha

/-- **A join makes one pass, and in sorted lists it misses nothing.**  After at most one comparison
for each member it has ended, and whatever the order of the lists, the members of a pair have equal
keys, and on either side none is used twice and the order is kept.  If both lists are in ascending
order, the pairs are those of each key in ascending order: its members on one side and on the other,
paired by position, as many as there are on the side that has fewer. -/
theorem mergeJoin_exact (f : α → κ) (g : β → κ) (as : List α) (bs : List β) :
    let pairs := mergeJoin (fun a b => compare (f a) (g b)) as bs
    (∃ n ≤ as.length + bs.length,
      JoinPass (fun a b => compare (f a) (g b)) n as bs pairs) ∧
    (∀ p ∈ pairs, f p.1 = g p.2) ∧
    (pairs.map (·.1)).Sublist as ∧ (pairs.map (·.2)).Sublist bs ∧
    (AscendingBy f as → AscendingBy g bs →
      pairs = (sortedDistinct (as.map f ++ bs.map g)).flatMap (pairsAt f g as bs) ∧
      ∀ k, pairs.countP (fun p => f p.1 = k) =
        min (as.countP fun a => f a = k) (bs.countP fun b => g b = k)) := by
  intro pairs
  obtain ⟨n, hpass⟩ := exists_joinPass (fun a b => compare (f a) (g b)) as bs
  refine ⟨⟨n, hpass.le_length, hpass⟩, fun p hp => ?_, hpass.sublist_left, hpass.sublist_right,
    fun has hbs => ⟨?_, fun k => ?_⟩⟩
  · exact Std.LawfulEqOrd.eq_of_compare (hpass.eq_of_mem hp)
  · refine mergeJoin_eq_flatMap (ascending_sortedDistinct _) has hbs fun a ha => ?_
    rw [mem_sortedDistinct, List.mem_append]
    exact Or.inl (List.mem_map_of_mem ha)
  · rw [List.countP_eq_length_filter, filter_mergeJoin has hbs k, length_pairsAt]

/-- Shifts by day, and the people who can take one. -/
def rosterShifts : List (String × Nat) :=
  [("fri", 1), ("mon", 2), ("mon", 3), ("sun", 4), ("sun", 5)]

def rosterPeople : List (String × Char) :=
  [("mon", 'a'), ("sat", 'b'), ("sun", 'c'), ("sun", 'd'), ("sun", 'e')]

/-- Keys that occur more often on the left, more often on the right, or on one side only. -/
theorem mergeJoin_exact_roster :
    AscendingBy Prod.fst rosterShifts ∧ AscendingBy Prod.fst rosterPeople ∧
    mergeJoin (fun a b => compare a.1 b.1) rosterShifts rosterPeople =
      [(("mon", 2), ("mon", 'a')), (("sun", 4), ("sun", 'c')), (("sun", 5), ("sun", 'd'))] ∧
    (mergeJoin (fun a b => compare a.1 b.1) rosterShifts rosterPeople).countP
      (fun p => p.1.1 = "sun") = min 2 3 := by
  have hshifts : AscendingBy Prod.fst rosterShifts := by
    unfold AscendingBy
    decide +kernel
  have hpeople : AscendingBy Prod.fst rosterPeople := by
    unfold AscendingBy
    decide +kernel
  obtain ⟨-, -, -, -, hsorted⟩ := mergeJoin_exact Prod.fst Prod.fst rosterShifts rosterPeople
  obtain ⟨hpairs, hcount⟩ := hsorted hshifts hpeople
  exact ⟨hshifts, hpeople, hpairs.trans (by decide +kernel), hcount "sun"⟩

end Regrant
