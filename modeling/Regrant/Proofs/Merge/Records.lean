import Regrant.Proofs.Merge.Grants

/-!
# Where the records of a binding come from

The records of every binding that comes out can be read off the candidates: role by role among those
that stand, name by name among those the role is renamed to, and candidate by candidate among those
that lead.  Permissions and principals are collected by the same rule, so a system whose two lists
match in every candidate has lists that match in every binding (`length_together`), pair by pair
(`zip_together`).
-/

namespace Regrant

namespace IamBinding

/-- The two provenances know the same systems, with as many permissions as principals each. -/
def Aligned (b : IamBinding) : Prop :=
  ∀ s, (b.permissions.get? s).map List.length = (b.principals.get? s).map List.length

/-- The permissions of a system, each with the principal at its place. -/
def pairs (b : IamBinding) (s : String) : List (Json × Json) :=
  ((b.permissions.get? s).getD []).zip ((b.principals.get? s).getD [])

end IamBinding

namespace Provenance

variable {l : List IamBinding} {s : String}

theorem length_merge (a b : Option (List Json)) :
    (Option.merge (· ++ ·) a b).map List.length =
      Option.merge (· + ·) (a.map List.length) (b.map List.length) := by
  cases a <;> cases b <;> simp

theorem length_together (h : ∀ c ∈ l, c.Aligned) :
    (together (l.map (·.permissions)) s).map List.length =
      (together (l.map (·.principals)) s).map List.length := by
  induction l with
  | nil => rfl
  | cons c l ih =>
    rw [List.map_cons, List.map_cons, together_cons, together_cons, length_merge, length_merge,
      h c List.mem_cons_self s, ih (fun d hd => h d (List.mem_cons_of_mem _ hd))]

theorem zip_together (h : ∀ c ∈ l, c.Aligned) :
    ((together (l.map (·.permissions)) s).getD []).zip
        ((together (l.map (·.principals)) s).getD []) = l.flatMap (·.pairs s) := by
  rw [getD_together, getD_together, List.flatMap_map, List.flatMap_map]
  induction l with
  | nil => rfl
  | cons c l ih =>
    have hlen : ((c.permissions.get? s).getD []).length =
        ((c.principals.get? s).getD []).length := by
      have hc := h c List.mem_cons_self s
      cases hp : c.permissions.get? s <;> cases hq : c.principals.get? s <;> simp_all
    rw [List.flatMap_cons, List.flatMap_cons, List.flatMap_cons, List.zip_append hlen,
      ih (fun d hd => h d (List.mem_cons_of_mem _ hd))]
    rfl

end Provenance

namespace Merge

theorem mem_of_mem_sources {m : RoleMappings} {cs : List IamBinding} {roles : List String}
    {k : GrantKey} {c : IamBinding} (h : c ∈ sources m cs roles k) : c ∈ cs := by
  obtain ⟨_, _, _, h⟩ := mem_sources_iff.1 h
  exact (mem_leaders.1 h).1

/-- If the records of all candidates match, so do those of what comes out, pair by pair. -/
theorem aligned_of_mem_resolve {m : RoleMappings} {cs : List IamBinding} {b : IamBinding}
    (hb : b ∈ (resolve (.ofMappings m) cs).2) (h : ∀ c ∈ cs, c.Aligned) :
    b.Aligned ∧ ∀ s, b.pairs s = (sources m cs
      ((survivors (.ofMappings m) cs b.grant).map (·.role)) b.grant).flatMap (·.pairs s) := by
  have hsources : ∀ c ∈ sources m cs ((survivors (.ofMappings m) cs b.grant).map (·.role)) b.grant,
      c.Aligned := fun c hc => h c (mem_of_mem_sources hc)
  constructor
  · intro s
    rw [get?_of_mem_resolve accumulates_permissions hb,
      get?_of_mem_resolve accumulates_principals hb]
    exact Provenance.length_together hsources
  · intro s
    rw [IamBinding.pairs, get?_of_mem_resolve accumulates_permissions hb,
      get?_of_mem_resolve accumulates_principals hb]
    exact Provenance.zip_together hsources

/-- **Provenance is neither lost nor invented nor misaligned.**  The records of a binding are those
of its sources in order: by ascending roles among those that stand, by the names that a role is
renamed to, by the candidates that lead.  If the permissions and principals of every candidate
match, so do those of the binding, and every pair is one of a source. -/
theorem resolve_records (m : RoleMappings) (cs : List IamBinding) {b : IamBinding}
    (hb : b ∈ (resolve (.ofMappings m) cs).2) :
    ∃ roles : List String, Ascending roles ∧
      (∀ r, r ∈ roles ↔ Stands m cs { b.grant with role := r }) ∧
      (∀ s, b.permissions.get? s =
          Provenance.together ((sources m cs roles b.grant).map (·.permissions)) s ∧
        b.principals.get? s =
          Provenance.together ((sources m cs roles b.grant).map (·.principals)) s) ∧
      ((∀ c ∈ cs, c.Aligned) →
        b.Aligned ∧ ∀ s, b.pairs s = (sources m cs roles b.grant).flatMap (·.pairs s)) := by
  refine ⟨(survivors (.ofMappings m) cs b.grant).map (·.role), ?_, ?_, ?_, ?_⟩
  · exact ascending_roles_survivors _ _ _
  · exact fun r => mem_roles_survivors_iff (k := b.grant)
  · exact fun s => ⟨get?_of_mem_resolve accumulates_permissions hb s,
      get?_of_mem_resolve accumulates_principals hb s⟩
  · exact aligned_of_mem_resolve hb

theorem aligned_auditCandidate (path role : String) (priority n : Int) :
    (auditCandidate path role priority n).Aligned := by
  intro s
  simp only [auditCandidate, IamBinding.withRecord, Provenance.get?_extend]
  split <;> rfl

/-- Two roles share the name `view`, and one is renamed to it twice. -/
theorem resolve_records_view :
    ∃ b ∈ (resolve (.ofMappings auditRoles) auditCandidates).2,
      b.grant = ⟨.bqTable, "t", "user:a", "view"⟩ ∧
      ∃ roles : List String, Ascending roles ∧
        (∀ r, r ∈ roles ↔ Stands auditRoles auditCandidates { b.grant with role := r }) ∧
        b.Aligned ∧
        ∀ s, b.pairs s = (sources auditRoles auditCandidates roles b.grant).flatMap (·.pairs s) := by
  have hmem : ⟨.bqTable, "t", "user:a", "view"⟩ ∈
      (resolve (.ofMappings auditRoles) auditCandidates).2.map (·.grant) := by decide
  obtain ⟨b, hb, hk⟩ := List.mem_map.1 hmem
  obtain ⟨roles, hasc, hstands, _, hpairs⟩ := resolve_records auditRoles auditCandidates hb
  refine ⟨b, hb, hk, roles, hasc, hstands, hpairs ?_⟩
  simp [auditCandidates, aligned_auditCandidate]

end Merge

end Regrant
