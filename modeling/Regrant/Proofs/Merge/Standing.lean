import Regrant.Proofs.Merge.Absorb
import Regrant.Proofs.Merge.Roles

/-!
# The grants that stand

A grant is held if a candidate with the highest priority on its resource makes it, and it stands if
no role that the same principal holds there dominates its role.  Nothing else is asked, so these
words are about candidates and the mapping alone.

The merge groups candidates by resource, by principal and by role, and at last by the renamed grant.
`filter_decided` undoes the groups: what ends under one grant comes from the roles that its
principal holds on its resource.  From it follow the three facts that the rest builds on: which
grants come out (`mem_grants_resolve_iff`), from which candidates (`origin_of_mem_resolve`), and
with which records (`get?_of_mem_resolve`).
-/

namespace Regrant

namespace GrantKey

def resource (k : GrantKey) : ResourceKey := ⟨k.type, k.path⟩

end GrantKey

namespace IamBinding

theorem grant_eq_iff {b : IamBinding} {k : GrantKey} :
    b.grant = k ↔ b.resource = k.resource ∧ b.principal = k.principal ∧ b.role = k.role := by
  obtain ⟨type, path, principal, role⟩ := k
  simp [grant, resource, GrantKey.resource, and_assoc]

end IamBinding

namespace Merge

/-- No candidate on the same resource has a higher priority. -/
def Leading (cs : List IamBinding) (c : IamBinding) : Prop :=
  ∀ d ∈ cs, d.resource = c.resource → d.priority ≤ c.priority

instance (cs : List IamBinding) (c : IamBinding) : Decidable (Leading cs c) :=
  inferInstanceAs (Decidable (∀ d ∈ cs, d.resource = c.resource → d.priority ≤ c.priority))

/-- The leading candidates that make a grant, in order. -/
def leaders (cs : List IamBinding) (k : GrantKey) : List IamBinding :=
  cs.filter (fun c => c.grant = k ∧ Leading cs c)

/-- A leading candidate makes the grant. -/
def Held (cs : List IamBinding) (k : GrantKey) : Prop := ∃ c ∈ cs, c.grant = k ∧ Leading cs c

/-- The grant is held, and no role that its principal holds on its resource dominates its role. -/
structure Stands (m : RoleMappings) (cs : List IamBinding) (k : GrantKey) : Prop where
  held : Held cs k
  undominated : ∀ o, Held cs { k with role := o } → ¬ m.Dominates o k.role

/-- The candidates behind a grant: those of each role, as often as the role is renamed to it. -/
def sources (m : RoleMappings) (cs : List IamBinding) (roles : List String) (k : GrantKey) :
    List IamBinding :=
  roles.flatMap fun r => ((m.renamed r).filter (· = k.role)).flatMap fun _ =>
    leaders cs { k with role := r }

variable {m : RoleMappings} {book : RoleBook} {cs l : List IamBinding} {b : IamBinding}

/-! ### The candidates that lead -/

/-- The leading candidates on a resource. -/
def tier (cs : List IamBinding) (r : ResourceKey) : List IamBinding :=
  cs.filter (fun c => c.resource = r ∧ Leading cs c)

/-- On the resource of every candidate some candidate leads, with the highest priority. -/
theorem exists_leading {c : IamBinding} (hc : c ∈ cs) :
    ∃ d ∈ cs, d.resource = c.resource ∧ Leading cs d ∧
      top (cs.filter (fun d => d.resource = c.resource)) = some d.priority := by
  cases h : top (cs.filter (fun d => d.resource = c.resource)) with
  | none =>
    have hempty : cs.filter (fun d => d.resource = c.resource) = [] := by
      simpa [top, List.max?_eq_none_iff] using h
    rw [List.filter_eq_nil_iff] at hempty
    exact absurd (decide_eq_true rfl) (hempty c hc)
  | some n =>
    rw [top, List.max?_eq_some_iff] at h
    obtain ⟨hn, hle⟩ := h
    obtain ⟨d, hd, rfl⟩ := List.mem_map.1 hn
    obtain ⟨hd, hdc⟩ := List.mem_filter.1 hd
    have hdc : d.resource = c.resource := of_decide_eq_true hdc
    refine ⟨d, hd, hdc, fun e he hed => ?_, rfl⟩
    exact hle _ (List.mem_map_of_mem (List.mem_filter.2 ⟨he, decide_eq_true (hed.trans hdc)⟩))

theorem not_lt_top_iff {c : IamBinding} (hc : c ∈ cs) :
    ¬ c.priority < (top (cs.filter (fun d => d.resource = c.resource))).getD 0 ↔ Leading cs c := by
  obtain ⟨d, hd, hdc, hlead, htop⟩ := exists_leading hc
  rw [htop, Option.getD_some, not_lt]
  constructor
  · intro hdle e he hec
    exact le_trans (hlead e he (hec.trans hdc.symm)) hdle
  · intro h
    exact h d hd hdc

theorem filter_eq_tier (cs : List IamBinding) (r : ResourceKey) :
    (cs.filter (fun c => c.resource = r)).filter
      (fun c => ¬ c.priority < (top (cs.filter (fun d => d.resource = r))).getD 0) = tier cs r := by
  rw [tier, List.filter_filter]
  refine List.filter_congr fun c hc => ?_
  by_cases h : c.resource = r
  · subst h
    simp [← not_lt_top_iff hc]
  · simp [h]

theorem leaders_eq_filter_tier (cs : List IamBinding) (k : GrantKey) (r : String) :
    leaders cs { k with role := r } =
      ((tier cs k.resource).filter (fun c => c.principal = k.principal)).filter
        (fun c => c.role = r) := by
  rw [tier, leaders, List.filter_filter, List.filter_filter]
  refine List.filter_congr fun c _ => Bool.eq_iff_iff.2 ?_
  have hgrant : c.grant = { k with role := r } ↔
      c.resource = k.resource ∧ c.principal = k.principal ∧ c.role = r := IamBinding.grant_eq_iff
  simp only [Bool.and_eq_true, decide_eq_true_eq, hgrant]
  tauto

theorem mem_leaders {c : IamBinding} {k : GrantKey} :
    c ∈ leaders cs k ↔ c ∈ cs ∧ c.grant = k ∧ Leading cs c := by
  rw [leaders, List.mem_filter, decide_eq_true_eq]

theorem mem_sources_iff {roles : List String} {k : GrantKey} {c : IamBinding} :
    c ∈ sources m cs roles k ↔
      ∃ r ∈ roles, k.role ∈ m.renamed r ∧ c ∈ leaders cs { k with role := r } := by
  simp [sources]

/-! ### The roles of one principal -/

/-- The bindings of a principal on a resource, one for each role that it holds there. -/
def holdings (cs : List IamBinding) (r : ResourceKey) (principal : String) : List IamBinding :=
  unite (·.role) ((tier cs r).filter (fun c => c.principal = principal))

theorem mem_ofPrincipal_iff {roles : List IamBinding} :
    b ∈ (ofPrincipal book roles).2 ↔
      ∃ c ∈ roles, book.dominator? (roles.map (·.role)) c.role = none ∧
        ∃ role ∈ book.targets c.role, { c with role := role } = b := by
  simp [ofPrincipal, and_assoc]

/-- What becomes of a principal's roles stems from one of its candidates. -/
theorem origin_of_mem_ofPrincipal (h : b ∈ (ofPrincipal book (unite (·.role) l)).2) :
    ∃ c ∈ l, b.resource = c.resource ∧ b.principal = c.principal ∧ b.priority = c.priority := by
  obtain ⟨d, hd, _, role, _, rfl⟩ := mem_ofPrincipal_iff.1 h
  rw [mem_unite_iff (fun _ _ => rfl)] at hd
  obtain ⟨c, hc, hkept⟩ := exists_kept_of_absorbAll hd
  exact ⟨c, (List.mem_filter.1 hc).1, hkept (·.resource) (fun _ _ => rfl),
    hkept (·.principal) (fun _ _ => rfl), hkept (·.priority) (fun _ _ => rfl)⟩

theorem ofResource_eq (cs : List IamBinding) (r : ResourceKey) :
    (ofResource book (cs.filter (fun c => c.resource = r))).2 =
      (groupBy (·.principal) (tier cs r)).values.flatMap
        (fun l => (ofPrincipal book (unite (·.role) l)).2) := by
  rw [← filter_eq_tier]
  exact List.flatMap_map _ _ _

theorem origin_of_mem_ofResource {r : ResourceKey}
    (h : b ∈ (ofResource book (cs.filter (fun c => c.resource = r))).2) :
    ∃ c ∈ tier cs r, b.resource = c.resource ∧ b.principal = c.principal ∧
      b.priority = c.priority := by
  rw [ofResource_eq, values_groupBy, List.flatMap_map, List.mem_flatMap] at h
  obtain ⟨p, _, h⟩ := h
  obtain ⟨c, hc, horigin⟩ := origin_of_mem_ofPrincipal h
  exact ⟨c, (List.mem_filter.1 hc).1, horigin⟩

/-! ### One grant -/

/-- The bindings that all resources amount to, before those with one grant are united. -/
def decided (book : RoleBook) (cs : List IamBinding) : List IamBinding :=
  (groupBy IamBinding.resource cs).values.flatMap (fun l => (ofResource book l).2)

theorem resolve_eq (book : RoleBook) (cs : List IamBinding) :
    (resolve book cs).2 = unite IamBinding.grant (decided book cs) := by
  rw [decided, ← List.flatMap_map]
  rfl

/-- **What ends under a grant comes from its principal's roles on its resource.** -/
theorem filter_decided (book : RoleBook) (cs : List IamBinding) (k : GrantKey) :
    (decided book cs).filter (fun b => b.grant = k) =
      (ofPrincipal book (holdings cs k.resource k.principal)).2.filter (fun b => b.grant = k) := by
  rw [decided, List.filter_flatMap, flatMap_values_groupBy k.resource rfl, ofResource_eq,
    List.filter_flatMap, flatMap_values_groupBy k.principal rfl, holdings]
  · intro p hp
    rw [List.filter_eq_nil_iff]
    intro b hb hk
    obtain ⟨c, hc, _, hbp, _⟩ := origin_of_mem_ofPrincipal hb
    obtain ⟨_, hkp, _⟩ := IamBinding.grant_eq_iff.1 (of_decide_eq_true hk)
    have hcp : c.principal = p := of_decide_eq_true (List.mem_filter.1 hc).2
    exact hp (by rw [← hcp, ← hbp, hkp])
  · intro r hr
    rw [List.filter_eq_nil_iff]
    intro b hb hk
    obtain ⟨c, hc, hbr, _⟩ := origin_of_mem_ofResource hb
    obtain ⟨hkr, _⟩ := IamBinding.grant_eq_iff.1 (of_decide_eq_true hk)
    have hcr : c.resource = r := (of_decide_eq_true (List.mem_filter.1 hc).2).1
    exact hr (by rw [← hcr, ← hbr, hkr])

/-! ### The roles that stand -/

theorem held_iff_mem_holdings {k : GrantKey} {o : String} :
    Held cs { k with role := o } ↔ o ∈ (holdings cs k.resource k.principal).map (·.role) := by
  rw [holdings, map_unite (fun _ _ => rfl), mem_sortedDistinct, List.mem_map]
  constructor
  · rintro ⟨c, hc, hk, hlead⟩
    have hmem : c ∈ leaders cs { k with role := o } := mem_leaders.2 ⟨hc, hk, hlead⟩
    rw [leaders_eq_filter_tier, List.mem_filter, decide_eq_true_eq] at hmem
    exact ⟨c, hmem⟩
  · rintro ⟨c, hc, hco⟩
    have hmem : c ∈ leaders cs { k with role := o } := by
      rw [leaders_eq_filter_tier, List.mem_filter, decide_eq_true_eq]
      exact ⟨hc, hco⟩
    exact ⟨c, mem_leaders.1 hmem⟩

theorem grant_of_mem_holdings {k : GrantKey} (h : b ∈ holdings cs k.resource k.principal) :
    b.grant = { k with role := b.role } := by
  rw [holdings, mem_unite_iff (fun _ _ => rfl)] at h
  obtain ⟨c, hc, hkept⟩ := exists_kept_of_absorbAll h
  have hr : b.resource = c.resource := hkept (·.resource) (fun _ _ => rfl)
  have hp : b.principal = c.principal := hkept (·.principal) (fun _ _ => rfl)
  obtain ⟨hc, _⟩ := List.mem_filter.1 hc
  obtain ⟨hc, hcp⟩ := List.mem_filter.1 hc
  obtain ⟨_, hcr⟩ := List.mem_filter.1 hc
  refine IamBinding.grant_eq_iff.2 ⟨?_, ?_, rfl⟩
  · exact hr.trans (of_decide_eq_true hcr).1
  · exact hp.trans (of_decide_eq_true hcp)

/-- A holding has the records of the leading candidates that make its grant. -/
theorem get?_of_mem_holdings {part : IamBinding → Provenance} (hp : Accumulates part)
    {k : GrantKey} (h : b ∈ holdings cs k.resource k.principal) (s : String) :
    (part b).get? s =
      Provenance.together ((leaders cs { k with role := b.role }).map part) s := by
  rw [holdings, mem_unite_iff (fun _ _ => rfl)] at h
  rw [get?_of_absorbAll hp h, leaders_eq_filter_tier]

/-- The holdings whose roles no other one dominates. -/
def survivors (book : RoleBook) (cs : List IamBinding) (k : GrantKey) : List IamBinding :=
  let roles := holdings cs k.resource k.principal
  roles.filter (fun b => (book.dominator? (roles.map (·.role)) b.role).isNone)

theorem mem_survivors_iff {k : GrantKey} :
    b ∈ survivors (.ofMappings m) cs k ↔
      b ∈ holdings cs k.resource k.principal ∧ Stands m cs { k with role := b.role } := by
  rw [survivors, List.mem_filter, Option.isNone_iff_eq_none, RoleBook.dominator?_eq_none_iff]
  refine and_congr_right fun hb => ?_
  constructor
  · intro h
    exact ⟨held_iff_mem_holdings.2 (List.mem_map_of_mem hb),
      fun o ho => h o (held_iff_mem_holdings.1 ho)⟩
  · intro h o ho
    exact h.undominated o (held_iff_mem_holdings.2 ho)

/-- **The roles of the survivors are those that stand**, by ascending names. -/
theorem mem_roles_survivors_iff {k : GrantKey} {r : String} :
    r ∈ (survivors (.ofMappings m) cs k).map (·.role) ↔ Stands m cs { k with role := r } := by
  rw [List.mem_map]
  constructor
  · rintro ⟨b, hb, rfl⟩
    exact (mem_survivors_iff.1 hb).2
  · intro h
    obtain ⟨b, hb, rfl⟩ := List.mem_map.1 (held_iff_mem_holdings.1 h.held)
    exact ⟨b, mem_survivors_iff.2 ⟨hb, h⟩, rfl⟩

theorem ascending_roles_survivors (book : RoleBook) (cs : List IamBinding) (k : GrantKey) :
    Ascending ((survivors book cs k).map (·.role)) :=
  (ascending_unite (fun _ _ => rfl) _).sublist (List.filter_sublist.map _)

/-- Under a grant end the survivors that are renamed to its role, as often as they are. -/
theorem filter_decided_eq_survivors (cs : List IamBinding) (k : GrantKey) :
    (decided (.ofMappings m) cs).filter (fun b => b.grant = k) =
      (survivors (.ofMappings m) cs k).flatMap fun b =>
        ((m.renamed b.role).filter (· = k.role)).map fun role => { b with role := role } := by
  have hpair : (ofPrincipal (.ofMappings m) (holdings cs k.resource k.principal)).2 =
      (survivors (.ofMappings m) cs k).flatMap fun b =>
        (m.renamed b.role).map fun role => { b with role := role } := by
    simp only [ofPrincipal, survivors, RoleBook.targets_ofMappings]
  rw [filter_decided, hpair, List.filter_flatMap]
  refine List.flatMap_congr fun b hb => ?_
  rw [List.filter_map]
  congr 1
  refine List.filter_congr fun role _ => Bool.eq_iff_iff.2 ?_
  obtain ⟨hr, hp, _⟩ := IamBinding.grant_eq_iff.1
    (grant_of_mem_holdings (mem_survivors_iff.1 hb).1)
  simp only [Function.comp_apply, decide_eq_true_eq, IamBinding.grant_eq_iff]
  exact ⟨fun h => h.2.2, fun h => ⟨hr, hp, h⟩⟩

/-! ### What comes out -/

theorem ascending_resolve (book : RoleBook) (cs : List IamBinding) :
    Ascending ((resolve book cs).2.map (·.grant)) := by
  rw [resolve_eq]
  exact ascending_unite (fun _ _ => rfl) _

theorem mem_resolve_iff :
    b ∈ (resolve (.ofMappings m) cs).2 ↔
      absorbAll ((survivors (.ofMappings m) cs b.grant).flatMap fun c =>
        ((m.renamed c.role).filter (· = b.role)).map fun role => { c with role := role }) =
          some b := by
  rw [resolve_eq, mem_unite_iff (fun _ _ => rfl), filter_decided_eq_survivors]
  rfl

/-- **The grants that come out** are those that standing roles are renamed to. -/
theorem mem_grants_resolve_iff {k : GrantKey} :
    k ∈ (resolve (.ofMappings m) cs).2.map (·.grant) ↔
      ∃ r, Stands m cs { k with role := r } ∧ k.role ∈ m.renamed r := by
  have hmem : k ∈ (resolve (.ofMappings m) cs).2.map (·.grant) ↔
      (decided (.ofMappings m) cs).filter (fun b => b.grant = k) ≠ [] := by
    rw [resolve_eq, map_unite (fun _ _ => rfl), mem_sortedDistinct]
    simp
  rw [hmem, filter_decided_eq_survivors, ne_eq, List.flatMap_eq_nil_iff]
  constructor
  · intro h
    push Not at h
    obtain ⟨b, hb, hne⟩ := h
    obtain ⟨role, hrole⟩ := List.exists_mem_of_ne_nil _ hne
    obtain ⟨role, hrole, _⟩ := List.mem_map.1 hrole
    obtain ⟨hmem, hk⟩ := List.mem_filter.1 hrole
    refine ⟨b.role, (mem_survivors_iff.1 hb).2, ?_⟩
    rw [← of_decide_eq_true hk]
    exact hmem
  · rintro ⟨r, hstands, hr⟩ h
    obtain ⟨b, hb, rfl⟩ := List.mem_map.1 (mem_roles_survivors_iff.2 hstands)
    have hnil := List.map_eq_nil_iff.1 (h b hb)
    rw [List.filter_eq_nil_iff] at hnil
    exact hnil _ hr (decide_eq_true rfl)

/-- What resources amount to stems from a leading candidate, whose priority it has. -/
theorem origin_of_mem_decided (h : b ∈ decided book cs) :
    ∃ c ∈ cs, Leading cs c ∧ b.resource = c.resource ∧ b.principal = c.principal ∧
      b.priority = c.priority := by
  have hmem : b ∈ (decided book cs).filter (fun d => d.grant = b.grant) :=
    List.mem_filter.2 ⟨h, decide_eq_true rfl⟩
  rw [filter_decided] at hmem
  obtain ⟨c, hc, hr, hp, hprio⟩ := origin_of_mem_ofPrincipal (List.mem_filter.1 hmem).1
  obtain ⟨hc, hlead⟩ := List.mem_filter.1 (List.mem_filter.1 hc).1
  exact ⟨c, hc, (of_decide_eq_true hlead).2, hr, hp, hprio⟩

/-- **What comes out stems from a leading candidate**, whose priority it has. -/
theorem origin_of_mem_resolve (h : b ∈ (resolve book cs).2) :
    ∃ c ∈ cs, Leading cs c ∧ b.resource = c.resource ∧ b.principal = c.principal ∧
      b.priority = c.priority := by
  rw [resolve_eq, mem_unite_iff (fun _ _ => rfl)] at h
  obtain ⟨d, hd, hkept⟩ := exists_kept_of_absorbAll h
  have hresource : b.resource = d.resource := hkept (·.resource) (fun _ _ => rfl)
  have hprincipal : b.principal = d.principal := hkept (·.principal) (fun _ _ => rfl)
  have hpriority : b.priority = d.priority := hkept (·.priority) (fun _ _ => rfl)
  obtain ⟨c, hc, hlead, hr, hp, hprio⟩ := origin_of_mem_decided (List.mem_filter.1 hd).1
  exact ⟨c, hc, hlead, hresource.trans hr, hprincipal.trans hp, hpriority.trans hprio⟩

/-- **What comes out has the records of its sources**, in their order. -/
theorem get?_of_mem_resolve {part : IamBinding → Provenance} (hp : Accumulates part)
    (h : b ∈ (resolve (.ofMappings m) cs).2) (s : String) :
    (part b).get? s = Provenance.together ((sources m cs
      ((survivors (.ofMappings m) cs b.grant).map (·.role)) b.grant).map part) s := by
  rw [get?_of_absorbAll hp (mem_resolve_iff.1 h), sources, List.flatMap_map, List.map_flatMap,
    List.map_flatMap]
  refine Provenance.together_flatMap_congr fun c hc => ?_
  rw [List.map_map, List.map_flatMap, List.map_eq_flatMap]
  refine Provenance.together_flatMap_congr fun role _ => ?_
  rw [Provenance.together_singleton, Function.comp_apply, hp.withRole]
  exact get?_of_mem_holdings hp (mem_survivors_iff.1 hc).1 s

end Merge

end Regrant
