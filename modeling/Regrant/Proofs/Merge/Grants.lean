import Regrant.Proofs.Merge.Standing

/-!
# Which grants the merge makes

For every list of candidates and every role mapping, the bindings that come out ascend by resource,
principal and role, they carry the highest priority of their resource, and their grants are those of
the leading candidates that no other role of the same principal dominates, under the names that
their roles are renamed to.

Dropping roles loses no access.  What a leading candidate grants is covered by a role that stands,
its own or one that includes it (`exists_stands_of_held`), and that role comes out under all its
names (`exists_mem_resolve_of_stands`).  Circles of inclusions make no exception, since no role on a
circle dominates another.
-/

namespace Regrant

namespace Merge

variable {m : RoleMappings} {cs : List IamBinding}

/-- **The merge grants what stands.**  Its bindings ascend by their grants.  A grant comes out
exactly when a leading candidate of its principal on its resource has a role that is renamed to the
role of the grant, and that no role of another leading candidate of this principal there
dominates.  Every binding has the highest priority of all candidates on its resource. -/
theorem resolve_grants (m : RoleMappings) (cs : List IamBinding) :
    Ascending ((resolve (.ofMappings m) cs).2.map (·.grant)) ∧
    (∀ k : GrantKey, k ∈ (resolve (.ofMappings m) cs).2.map (·.grant) ↔
      ∃ c ∈ cs, c.resource = k.resource ∧ c.principal = k.principal ∧ Leading cs c ∧
        (∀ o ∈ cs, Leading cs o → o.resource = k.resource → o.principal = k.principal →
          ¬ m.Dominates o.role c.role) ∧
        k.role ∈ m.renamed c.role) ∧
    ∀ b ∈ (resolve (.ofMappings m) cs).2,
      (∃ c ∈ cs, c.resource = b.resource ∧ c.priority = b.priority) ∧
      ∀ c ∈ cs, c.resource = b.resource → c.priority ≤ b.priority := by
  refine ⟨ascending_resolve _ cs, fun k => ?_, fun b hb => ?_⟩
  · rw [mem_grants_resolve_iff]
    constructor
    · rintro ⟨r, ⟨⟨c, hc, hk, hlead⟩, hund⟩, hr⟩
      obtain ⟨hres, hp, rfl⟩ := IamBinding.grant_eq_iff.1 hk
      refine ⟨c, hc, hres, hp, hlead, fun o ho hol hor hop => ?_, hr⟩
      exact hund o.role ⟨o, ho, IamBinding.grant_eq_iff.2 ⟨hor, hop, rfl⟩, hol⟩
    · rintro ⟨c, hc, hres, hp, hlead, hund, hr⟩
      refine ⟨c.role, ⟨⟨c, hc, IamBinding.grant_eq_iff.2 ⟨hres, hp, rfl⟩, hlead⟩, ?_⟩, hr⟩
      rintro _ ⟨o, ho, hok, hol⟩
      obtain ⟨hor, hop, rfl⟩ := IamBinding.grant_eq_iff.1 hok
      exact hund o ho hol hor hop
  · obtain ⟨c, hc, hlead, hres, _, hprio⟩ := origin_of_mem_resolve hb
    refine ⟨⟨c, hc, hres.symm, hprio.symm⟩, fun d hd hdr => ?_⟩
    rw [hprio]
    exact hlead d hd (hdr.trans hres)

/-- Auditors and editors include each other, and editors include viewers.  Auditors and readers are
renamed and then share a name. -/
def auditRoles : RoleMappings :=
  .ofList [("auditor", ⟨["audit", "view"], ["editor"]⟩), ("editor", ⟨[], ["auditor", "viewer"]⟩),
    ("reader", ⟨["view", "view"], []⟩)]

/-- A candidate of one principal with one record. -/
def auditCandidate (path role : String) (priority n : Int) : IamBinding :=
  IamBinding.withRecord ⟨.bqTable, path, "user:a", role, priority, ∅, ∅⟩ "ranger" (.int n)
    (.text role)

def auditCandidates : List IamBinding :=
  [auditCandidate "t" "viewer" 0 1, auditCandidate "t" "auditor" 0 2,
    auditCandidate "t" "reader" 0 3, auditCandidate "t" "editor" 0 4,
    auditCandidate "t" "auditor" 0 5, auditCandidate "t" "owner" (-1) 6,
    auditCandidate "u" "viewer" 7 7]

example : (resolve (.ofMappings auditRoles) auditCandidates).2.map (·.grant) =
    [⟨.bqTable, "t", "user:a", "audit"⟩, ⟨.bqTable, "t", "user:a", "editor"⟩,
      ⟨.bqTable, "t", "user:a", "view"⟩, ⟨.bqTable, "u", "user:a", "viewer"⟩] := by
  decide

/-- What is held lies under a role that stands. -/
theorem exists_stands_of_held {k : GrantKey} (h : Held cs k) :
    ∃ r, Stands m cs { k with role := r } ∧ (r = k.role ∨ m.Dominates r k.role) := by
  obtain ⟨r, hr, hrk, hmax⟩ := m.exists_undominated
    (held_iff_mem_holdings.1 (show Held cs { k with role := k.role } from h))
  exact ⟨r, ⟨held_iff_mem_holdings.2 hr, fun o ho => hmax o (held_iff_mem_holdings.1 ho)⟩, hrk⟩

/-- What stands comes out under every name of its role. -/
theorem exists_mem_resolve_of_stands {k : GrantKey} {r name : String}
    (h : Stands m cs { k with role := r }) (hname : name ∈ m.renamed r) :
    ∃ b ∈ (resolve (.ofMappings m) cs).2, b.grant = { k with role := name } :=
  List.mem_map.1 (mem_grants_resolve_iff.2 ⟨r, h, hname⟩)

/-- On the resource of every candidate something comes out. -/
theorem exists_mem_resolve_of_mem {c : IamBinding} (hc : c ∈ cs) :
    ∃ b ∈ (resolve (.ofMappings m) cs).2, b.resource = c.resource := by
  obtain ⟨d, hd, hdc, hlead, _⟩ := exists_leading hc
  obtain ⟨r, hstands, _⟩ := exists_stands_of_held (m := m) ⟨d, hd, rfl, hlead⟩
  obtain ⟨name, hname⟩ := List.exists_mem_of_ne_nil _ (m.renamed_ne_nil r)
  obtain ⟨b, hb, hbk⟩ := exists_mem_resolve_of_stands hstands hname
  exact ⟨b, hb, (IamBinding.grant_eq_iff.1 hbk).1.trans hdc⟩

/-- **No access of the highest priority is lost.**  The role of a leading candidate is a role that
stands or is included in one, and the standing role comes out for the same principal on the same
resource under every name it has, of which there is at least one. -/
theorem exists_standing_role (m : RoleMappings) {cs : List IamBinding} {c : IamBinding}
    (hc : c ∈ cs) (hlead : Leading cs c) :
    (∃ r, Stands m cs { c.grant with role := r } ∧ (r = c.role ∨ m.Includes r c.role) ∧
      ∀ name ∈ m.renamed r, ∃ b ∈ (resolve (.ofMappings m) cs).2,
        b.resource = c.resource ∧ b.principal = c.principal ∧ b.role = name) ∧
    ∃ b ∈ (resolve (.ofMappings m) cs).2,
      b.resource = c.resource ∧ b.principal = c.principal := by
  obtain ⟨r, hstands, hr⟩ := exists_stands_of_held (m := m) ⟨c, hc, rfl, hlead⟩
  have hout : ∀ name ∈ m.renamed r, ∃ b ∈ (resolve (.ofMappings m) cs).2,
      b.resource = c.resource ∧ b.principal = c.principal ∧ b.role = name := by
    intro name hname
    obtain ⟨b, hb, hbk⟩ := exists_mem_resolve_of_stands hstands hname
    exact ⟨b, hb, IamBinding.grant_eq_iff.1 hbk⟩
  refine ⟨⟨r, hstands, hr.imp_right And.left, hout⟩, ?_⟩
  obtain ⟨name, hname⟩ := List.exists_mem_of_ne_nil _ (m.renamed_ne_nil r)
  obtain ⟨b, hb, hres, hp, _⟩ := hout name hname
  exact ⟨b, hb, hres, hp⟩

theorem exists_standing_role_viewer :
    (∃ r, Stands auditRoles auditCandidates ⟨.bqTable, "t", "user:a", r⟩ ∧
      (r = "viewer" ∨ auditRoles.Includes r "viewer") ∧
      ∀ name ∈ auditRoles.renamed r, ∃ b ∈ (resolve (.ofMappings auditRoles) auditCandidates).2,
        b.resource = ⟨.bqTable, "t"⟩ ∧ b.principal = "user:a" ∧ b.role = name) ∧
    ∃ b ∈ (resolve (.ofMappings auditRoles) auditCandidates).2,
      b.resource = ⟨.bqTable, "t"⟩ ∧ b.principal = "user:a" :=
  exists_standing_role auditRoles (c := auditCandidate "t" "viewer" 0 1) List.mem_cons_self
    (by decide)

end Merge

end Regrant
