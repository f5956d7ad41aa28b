import Regrant.Proofs.Merge.Collected
import Regrant.Proofs.Merge.Records
import Regrant.Proofs.Merge.Stages
import Regrant.Proofs.Related

/-!
# The order of candidates

Which candidates lead and which grants stand does not depend on the order of the candidates.  So
another order yields the same grants with the same priorities, and the sources behind a grant are
the same but for their order (`sources_perm`): the records of a binding are reordered, permissions
and principals together (`resolve_perm`).
-/

namespace Regrant

/-- The bindings are the same but for the order of their records: for each system the permissions
and the principals are permuted together. -/
structure IamBinding.Reordered (b b' : IamBinding) : Prop where
  grant : b.grant = b'.grant
  priority : b.priority = b'.priority
  permissionSystems : b.permissions.keys = b'.permissions.keys
  principalSystems : b.principals.keys = b'.principals.keys
  records : ∀ s, ∃ l l' : List (Json × Json), l.Perm l' ∧
    (b.permissions.get? s).getD [] = l.map (·.1) ∧ (b.principals.get? s).getD [] = l.map (·.2) ∧
    (b'.permissions.get? s).getD [] = l'.map (·.1) ∧ (b'.principals.get? s).getD [] = l'.map (·.2)

/-- The records of a system are what the pairs of them hold. -/
theorem IamBinding.Aligned.unzip_pairs {b : IamBinding} (h : b.Aligned) (s : String) :
    (b.permissions.get? s).getD [] = (b.pairs s).map (·.1) ∧
      (b.principals.get? s).getD [] = (b.pairs s).map (·.2) := by
  have hlength : ((b.permissions.get? s).getD []).length =
      ((b.principals.get? s).getD []).length := by
    have hs := h s
    cases hp : b.permissions.get? s <;> cases hq : b.principals.get? s <;> simp_all
  exact ⟨(List.map_fst_zip hlength.le).symm, (List.map_snd_zip hlength.ge).symm⟩

namespace Merge

variable {m : RoleMappings} {cs cs' : List IamBinding} {b b' c : IamBinding} {k : GrantKey}

theorem leading_perm (h : cs.Perm cs') : Leading cs c ↔ Leading cs' c := by
  simp only [Leading, h.mem_iff]

theorem held_perm (h : cs.Perm cs') : Held cs k ↔ Held cs' k := by
  simp only [Held, h.mem_iff, leading_perm h]

theorem stands_perm (h : cs.Perm cs') : Stands m cs k ↔ Stands m cs' k := by
  constructor
  · intro hs
    exact ⟨(held_perm h).1 hs.held, fun o ho => hs.undominated o ((held_perm h).2 ho)⟩
  · intro hs
    exact ⟨(held_perm h).2 hs.held, fun o ho => hs.undominated o ((held_perm h).1 ho)⟩

theorem leaders_perm (h : cs.Perm cs') (k : GrantKey) : (leaders cs k).Perm (leaders cs' k) := by
  have hfilter : leaders cs k = cs.filter (fun c => c.grant = k ∧ Leading cs' c) := by
    simp only [leaders, leading_perm h]
  rw [hfilter]
  exact h.filter _

theorem sources_perm (h : cs.Perm cs') (roles : List String) (k : GrantKey) :
    (sources m cs roles k).Perm (sources m cs' roles k) :=
  List.Perm.flatMap_left _ fun _ _ => List.Perm.flatMap_left _ fun _ _ => leaders_perm h _

theorem roles_survivors_perm (h : cs.Perm cs') (k : GrantKey) :
    (survivors (.ofMappings m) cs k).map (·.role) =
      (survivors (.ofMappings m) cs' k).map (·.role) := by
  refine (ascending_roles_survivors _ _ _).ext (ascending_roles_survivors _ _ _) fun r => ?_
  rw [mem_roles_survivors_iff, mem_roles_survivors_iff, stands_perm h]

theorem grants_resolve_perm (h : cs.Perm cs') :
    (resolve (.ofMappings m) cs).2.map (·.grant) =
      (resolve (.ofMappings m) cs').2.map (·.grant) := by
  refine (ascending_resolve _ _).ext (ascending_resolve _ _) fun k => ?_
  simp only [mem_grants_resolve_iff, stands_perm h]

/-- The same systems are behind one grant. -/
theorem keys_perm_of_mem_resolve {part : IamBinding → Provenance} (hp : Accumulates part)
    (h : cs.Perm cs') (hb : b ∈ (resolve (.ofMappings m) cs).2)
    (hb' : b' ∈ (resolve (.ofMappings m) cs').2) (hk : b.grant = b'.grant) :
    (part b).keys = (part b').keys := by
  refine (SortedMap.ascending_keys _).ext (SortedMap.ascending_keys _) fun s => ?_
  have hsources := ((sources_perm (m := m) h
    ((survivors (.ofMappings m) cs b.grant).map (·.role)) b.grant).map part)
  simp only [SortedMap.mem_keys_iff, ← Option.isSome_iff_exists, get?_of_mem_resolve hp hb,
    get?_of_mem_resolve hp hb', Provenance.isSome_together_iff, ← hk, ← roles_survivors_perm h,
    hsources.mem_iff]

/-- **The order of the candidates is the order of records.** -/
theorem resolve_perm (h : cs.Perm cs') (haligned : ∀ c ∈ cs, c.Aligned) :
    List.Forall₂ IamBinding.Reordered (resolve (.ofMappings m) cs).2
      (resolve (.ofMappings m) cs').2 := by
  refine forall₂_of_map_eq (grants_resolve_perm h) fun b hb b' hb' hk => ?_
  obtain ⟨halign, hpairs⟩ := aligned_of_mem_resolve hb haligned
  obtain ⟨halign', hpairs'⟩ := aligned_of_mem_resolve hb' fun c hc => haligned c (h.mem_iff.2 hc)
  refine ⟨hk, ?_, keys_perm_of_mem_resolve accumulates_permissions h hb hb' hk,
    keys_perm_of_mem_resolve accumulates_principals h hb hb' hk, fun s => ?_⟩
  · obtain ⟨c, hc, hlead, hr, _, hprio⟩ := origin_of_mem_resolve hb'
    rw [hprio]
    refine priority_of_mem_resolve hb (h.mem_iff.2 hc) ((leading_perm h).2 hlead) ?_
    exact (IamBinding.grant_eq_iff.1 hk).1.trans hr
  · refine ⟨b.pairs s, b'.pairs s, ?_, (halign.unzip_pairs s).1, (halign.unzip_pairs s).2,
      (halign'.unzip_pairs s).1, (halign'.unzip_pairs s).2⟩
    rw [hpairs, hpairs', ← hk, ← roles_survivors_perm h]
    exact (sources_perm h _ _).flatMap_right _

/-- Mappers that yield the same verdicts in another order. -/
def SameVerdicts (m m' : BindingMapper) : Prop :=
  ∃ vs vs', m.run.outcome = .ok vs ∧ m'.run.outcome = .ok vs' ∧ vs.Perm vs'

/-- What is collected comes in another order then. -/
theorem collect_perm {ms ms' : List BindingMapper} (h : List.Forall₂ SameVerdicts ms ms') :
    ∃ cs cs', (collect ms).outcome = .ok cs ∧ (collect ms').outcome = .ok cs' ∧ cs.Perm cs' := by
  induction h with
  | nil => exact ⟨[], [], rfl, rfl, .nil⟩
  | cons hm _ ih =>
    obtain ⟨vs, vs', hvs, hvs', hperm⟩ := hm
    obtain ⟨cs, cs', hcs, hcs', hrest⟩ := ih
    exact ⟨_, _, outcome_collect_cons hvs hcs, outcome_collect_cons hvs' hcs',
      ((hperm.filter _).map _).append hrest⟩

end Merge

end Regrant
