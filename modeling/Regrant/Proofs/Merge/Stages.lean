import Mathlib.Data.List.Nodup
import Regrant.Proofs.Merge.Grants

/-!
# Merging in stages

Without renames, merging the merged parts of a list gives what merging the whole list gives, so
that merging twice is merging once.

The parts and the whole have the same highest priorities (`leading_resolve_append`).  What a part
drops is covered in it by a role that stands there, so the same grants stand in the merged parts and
in the whole (`stands_resolve_append`): a role that dominates in the whole may be dropped in its part
only for one that dominates as well.  A grant that stands in the whole stands in every part that
holds it, and then it comes with all its records (`together_filter_resolve`).
-/

namespace Regrant

namespace Merge

variable {m : RoleMappings} {cs ds : List IamBinding} {b c d : IamBinding} {k : GrantKey}

/-! ### Highest priorities -/

theorem Leading.congr (h : Leading cs c) (hr : c.resource = d.resource)
    (hp : c.priority = d.priority) : Leading cs d := by
  intro e he hed
  rw [← hp]
  exact h e he (hed.trans hr.symm)

theorem Leading.mono (h : Leading ds c) (hsub : ∀ d ∈ cs, d ∈ ds) : Leading cs c :=
  fun d hd => h d (hsub d hd)

theorem leading_append : Leading (cs ++ ds) c ↔ Leading cs c ∧ Leading ds c :=
  List.forall_mem_append

theorem Leading.priority_eq (hc : Leading cs c) (hd : Leading cs d) (hcm : c ∈ cs) (hdm : d ∈ cs)
    (hr : c.resource = d.resource) : c.priority = d.priority :=
  le_antisymm (hd c hcm hr) (hc d hdm hr.symm)

theorem priority_of_mem_resolve {book : RoleBook} (hb : b ∈ (resolve book cs).2) (hc : c ∈ cs)
    (hlead : Leading cs c) (hr : b.resource = c.resource) : b.priority = c.priority := by
  obtain ⟨d, hd, hdlead, hbr, _, hbp⟩ := origin_of_mem_resolve hb
  rw [hbp]
  exact hdlead.priority_eq hlead hd hc (hbr.symm.trans hr)

/-- The merged list has the highest priorities of the list. -/
theorem leading_resolve : Leading (resolve (.ofMappings m) cs).2 c ↔ Leading cs c := by
  constructor
  · intro h d hd hdc
    obtain ⟨e, he, hed, hlead, _⟩ := exists_leading hd
    obtain ⟨r, hstands, _⟩ := exists_stands_of_held (m := m) ⟨e, he, rfl, hlead⟩
    obtain ⟨name, hname⟩ := List.exists_mem_of_ne_nil _ (m.renamed_ne_nil r)
    obtain ⟨b, hb, hbk⟩ := exists_mem_resolve_of_stands hstands hname
    have hbe : b.resource = e.resource := (IamBinding.grant_eq_iff.1 hbk).1
    have hle : b.priority ≤ c.priority := h b hb (hbe.trans (hed.trans hdc))
    rw [priority_of_mem_resolve hb he hlead hbe] at hle
    exact le_trans (hlead d hd hed.symm) hle
  · intro h b hb hbc
    obtain ⟨d, hd, _, hbr, _, hbp⟩ := origin_of_mem_resolve hb
    rw [hbp]
    exact h d hd (hbr.symm.trans hbc)

theorem leading_resolve_append : Leading ((resolve (.ofMappings m) cs).2 ++
    (resolve (.ofMappings m) ds).2) c ↔ Leading (cs ++ ds) c := by
  rw [leading_append, leading_append, leading_resolve, leading_resolve]

/-! ### A part of the candidates

In a part `cs` of the candidates `ws`, those that lead in the whole lead in the part as well. -/

section

variable {ws : List IamBinding}

/-- What comes out of a part beside a candidate that leads in the whole leads there as well. -/
theorem Leading.of_mem_resolve {book : RoleBook} (hlead : Leading ws c)
    (hsub : ∀ c ∈ cs, c ∈ ws) (hc : c ∈ cs) (hb : b ∈ (resolve book cs).2)
    (hr : b.resource = c.resource) : Leading ws b :=
  hlead.congr hr.symm (priority_of_mem_resolve hb hc (hlead.mono hsub) hr).symm

/-- What stands in the whole stands in a part that holds it: a role that dominates in the part would
lead in the whole. -/
theorem Stands.of_part (h : Stands m ws c.grant) (hsub : ∀ c ∈ cs, c ∈ ws) (hc : c ∈ cs)
    (hlead : Leading ws c) : Stands m cs c.grant := by
  refine ⟨⟨c, hc, rfl, hlead.mono hsub⟩, ?_⟩
  rintro o ⟨d, hd, hdk, hdlead⟩
  have hdc : d.resource = c.resource := (IamBinding.grant_eq_iff.1 hdk).1
  have hprio : c.priority = d.priority := (hlead.mono hsub).priority_eq hdlead hc hd hdc.symm
  exact h.undominated o ⟨d, hsub d hd, hdk, hlead.congr hdc.symm hprio⟩

theorem filter_leading_eq_leaders (hsub : ∀ c ∈ cs, c ∈ ws) (hc : c ∈ cs)
    (hlead : Leading ws c) :
    cs.filter (fun d => d.grant = c.grant ∧ Leading ws d) = leaders cs c.grant := by
  refine List.filter_congr fun d hd => decide_eq_decide.2 (and_congr_right fun hdk => ?_)
  have hdc : d.resource = c.resource := (IamBinding.grant_eq_iff.1 hdk).1
  refine ⟨fun h => h.mono hsub, fun h => hlead.congr hdc.symm ?_⟩
  exact (hlead.mono hsub).priority_eq h hc hd hdc.symm

theorem filter_resolve_eq_singleton {book : RoleBook} (hb : b ∈ (resolve book cs).2)
    (hlead : Leading ws b) :
    (resolve book cs).2.filter (fun d => d.grant = b.grant ∧ Leading ws d) = [b] := by
  have hasc := ascending_resolve book cs
  refine Ascending.eq_of_mem_iff (f := IamBinding.grant) (hasc.sublist (List.filter_sublist.map _))
    (List.pairwise_singleton _ _) fun d => ?_
  rw [List.mem_filter, decide_eq_true_eq, List.mem_singleton]
  constructor
  · rintro ⟨hd, hdk, _⟩
    exact List.inj_on_of_nodup_map hasc.nodup hd hb hdk
  · rintro rfl
    exact ⟨hb, rfl, hlead⟩

variable (hm : ∀ r, m.renamed r = [r])

include hm

theorem mem_grants_iff_stands :
    k ∈ (resolve (.ofMappings m) cs).2.map (·.grant) ↔ Stands m cs k := by
  rw [mem_grants_resolve_iff]
  constructor
  · rintro ⟨r, hstands, hr⟩
    rw [hm, List.mem_singleton] at hr
    subst hr
    exact hstands
  · intro h
    exact ⟨k.role, h, by rw [hm]; exact List.mem_cons_self⟩

/-- What leads after merging a part led in it before. -/
theorem exists_of_mem_resolve (hb : b ∈ (resolve (.ofMappings m) cs).2) (hlead : Leading ws b) :
    ∃ c ∈ cs, c.grant = b.grant ∧ Leading ws c := by
  have hstands : Stands m cs b.grant := (mem_grants_iff_stands hm).1 (List.mem_map_of_mem hb)
  obtain ⟨c, hc, hk, hclead⟩ := hstands.held
  have hr : b.resource = c.resource := (IamBinding.grant_eq_iff.1 hk).1.symm
  exact ⟨c, hc, hk, hlead.congr hr (priority_of_mem_resolve hb hc hclead hr)⟩

/-- What leads in a part is there after merging, or a role that dominates it is. -/
theorem exists_mem_resolve_of_leading (hsub : ∀ c ∈ cs, c ∈ ws) (hc : c ∈ cs)
    (hlead : Leading ws c) : ∃ r, (r = c.role ∨ m.Dominates r c.role) ∧
      ∃ b ∈ (resolve (.ofMappings m) cs).2, b.grant = { c.grant with role := r } ∧
        Leading ws b := by
  have hclead : Leading cs c := hlead.mono hsub
  obtain ⟨r, hstands, hr⟩ := exists_stands_of_held (m := m) ⟨c, hc, rfl, hclead⟩
  obtain ⟨b, hb, hk⟩ := List.mem_map.1 ((mem_grants_iff_stands hm).2 hstands)
  have hbc : b.resource = c.resource := (IamBinding.grant_eq_iff.1 hk).1
  exact ⟨r, hr, b, hb, hk, hlead.of_mem_resolve hsub hc hb hbc⟩

/-- Without renames a binding has the records of the leading candidates that make its grant. -/
theorem get?_of_mem_resolve_of_no_renames {part : IamBinding → Provenance} (hp : Accumulates part)
    (hb : b ∈ (resolve (.ofMappings m) cs).2) (s : String) :
    (part b).get? s = Provenance.together ((leaders cs b.grant).map part) s := by
  have hstands : Stands m cs b.grant := (mem_grants_iff_stands hm).1 (List.mem_map_of_mem hb)
  have hmem : b.role ∈ (survivors (.ofMappings m) cs b.grant).map (·.role) :=
    mem_roles_survivors_iff.2 hstands
  rw [get?_of_mem_resolve hp hb, sources,
    flatMap_eq_of_unique (ascending_roles_survivors _ _ _).nodup (k := b.role)]
  · simp [hm, IamBinding.grant]
  · intro r _ hne
    have hnone : (m.renamed r).filter (· = b.grant.role) = [] := by
      rw [hm, List.filter_eq_nil_iff]
      intro r' hr' hk
      rw [List.mem_singleton.1 hr'] at hk
      exact hne (of_decide_eq_true hk)
    rw [hnone, List.flatMap_nil]
  · intro hnot
    exact absurd hmem hnot

/-- Of a grant that stands in the whole, a merged part has all records that it had before. -/
theorem together_filter_resolve {part : IamBinding → Provenance} (hp : Accumulates part)
    (hsub : ∀ c ∈ cs, c ∈ ws) (hstands : Stands m ws k) (s : String) :
    Provenance.together (((resolve (.ofMappings m) cs).2.filter
        (fun c => c.grant = k ∧ Leading ws c)).map part) s =
      Provenance.together ((cs.filter (fun c => c.grant = k ∧ Leading ws c)).map part) s := by
  by_cases hheld : ∃ c ∈ cs, c.grant = k ∧ Leading ws c
  · obtain ⟨c, hc, rfl, hlead⟩ := hheld
    have hlocal : Stands m cs c.grant := hstands.of_part hsub hc hlead
    obtain ⟨b, hb, hbk⟩ := List.mem_map.1 ((mem_grants_iff_stands hm).2 hlocal)
    have hbc : b.resource = c.resource := (IamBinding.grant_eq_iff.1 hbk).1
    rw [filter_leading_eq_leaders hsub hc hlead, ← hbk,
      filter_resolve_eq_singleton hb (hlead.of_mem_resolve hsub hc hb hbc), List.map_singleton,
      Provenance.together_singleton]
    exact get?_of_mem_resolve_of_no_renames hm hp hb s
  · have hnone : cs.filter (fun c => c.grant = k ∧ Leading ws c) = [] := by
      rw [List.filter_eq_nil_iff]
      intro c hc h
      exact hheld ⟨c, hc, of_decide_eq_true h⟩
    have hnone' : (resolve (.ofMappings m) cs).2.filter
        (fun c => c.grant = k ∧ Leading ws c) = [] := by
      rw [List.filter_eq_nil_iff]
      intro b hb h
      obtain ⟨hbk, hblead⟩ := of_decide_eq_true h
      obtain ⟨c, hc, hck, hclead⟩ := exists_of_mem_resolve hm hb hblead
      exact hheld ⟨c, hc, hck.trans hbk, hclead⟩
    rw [hnone, hnone']

/-! ### Two parts -/

theorem held_of_held_resolve_append (h : Held ((resolve (.ofMappings m) cs).2 ++
    (resolve (.ofMappings m) ds).2) k) : Held (cs ++ ds) k := by
  obtain ⟨b, hb, rfl, hlead⟩ := h
  rw [leading_resolve_append] at hlead
  rcases List.mem_append.1 hb with hb | hb
  · obtain ⟨c, hc, hk, hclead⟩ := exists_of_mem_resolve hm hb hlead
    exact ⟨c, List.mem_append_left _ hc, hk, hclead⟩
  · obtain ⟨c, hc, hk, hclead⟩ := exists_of_mem_resolve hm hb hlead
    exact ⟨c, List.mem_append_right _ hc, hk, hclead⟩

/-- What the whole holds is held after merging the parts, or a role that dominates it is. -/
theorem exists_held_resolve_append (h : Held (cs ++ ds) k) :
    ∃ r, (r = k.role ∨ m.Dominates r k.role) ∧ Held ((resolve (.ofMappings m) cs).2 ++
      (resolve (.ofMappings m) ds).2) { k with role := r } := by
  obtain ⟨c, hc, rfl, hlead⟩ := h
  rcases List.mem_append.1 hc with hc | hc
  · obtain ⟨r, hr, b, hb, hk, hblead⟩ := exists_mem_resolve_of_leading hm
      (fun c hc => List.mem_append_left ds hc) hc hlead
    exact ⟨r, hr, b, List.mem_append_left _ hb, hk, leading_resolve_append.2 hblead⟩
  · obtain ⟨r, hr, b, hb, hk, hblead⟩ := exists_mem_resolve_of_leading hm
      (fun c hc => List.mem_append_right cs hc) hc hlead
    exact ⟨r, hr, b, List.mem_append_right _ hb, hk, leading_resolve_append.2 hblead⟩

/-- **The same grants stand after merging the parts.** -/
theorem stands_resolve_append : Stands m ((resolve (.ofMappings m) cs).2 ++
    (resolve (.ofMappings m) ds).2) k ↔ Stands m (cs ++ ds) k := by
  constructor
  · intro h
    refine ⟨held_of_held_resolve_append hm h.held, fun o ho hdom => ?_⟩
    obtain ⟨r, hr, hheld⟩ := exists_held_resolve_append hm ho
    refine h.undominated r hheld ?_
    rcases hr with rfl | hr
    · exact hdom
    · exact hr.trans hdom
  · intro h
    refine ⟨?_, fun o ho => h.undominated o (held_of_held_resolve_append hm ho)⟩
    obtain ⟨r, hr, hheld⟩ := exists_held_resolve_append hm h.held
    rcases hr with rfl | hr
    · exact hheld
    · exact absurd hr (h.undominated r (held_of_held_resolve_append hm hheld))

theorem together_leaders_resolve_append {part : IamBinding → Provenance} (hp : Accumulates part)
    (hstands : Stands m (cs ++ ds) k) (s : String) :
    Provenance.together ((leaders ((resolve (.ofMappings m) cs).2 ++
        (resolve (.ofMappings m) ds).2) k).map part) s =
      Provenance.together ((leaders (cs ++ ds) k).map part) s := by
  simp only [leaders, leading_resolve_append, List.filter_append, List.map_append,
    Provenance.together_append]
  rw [together_filter_resolve hm hp (fun c hc => List.mem_append_left ds hc) hstands,
    together_filter_resolve hm hp (fun c hc => List.mem_append_right cs hc) hstands]

/-- Bindings with one grant that come from the whole and from the merged parts are the same. -/
theorem eq_of_grant_eq (hb : b ∈ (resolve (.ofMappings m) (cs ++ ds)).2)
    (hc : c ∈ (resolve (.ofMappings m) ((resolve (.ofMappings m) cs).2 ++
      (resolve (.ofMappings m) ds).2)).2) (hk : b.grant = c.grant) : b = c := by
  have hstands : Stands m (cs ++ ds) b.grant :=
    (mem_grants_iff_stands hm).1 (List.mem_map_of_mem hb)
  have hrecords : ∀ {part : IamBinding → Provenance}, Accumulates part → part b = part c := by
    intro part hp
    refine SortedMap.ext_get? fun s => ?_
    rw [get?_of_mem_resolve_of_no_renames hm hp hb, get?_of_mem_resolve_of_no_renames hm hp hc,
      ← hk, together_leaders_resolve_append hm hp hstands]
  have hpriority : b.priority = c.priority := by
    obtain ⟨d, hd, hdlead, hbd, _, hbp⟩ := origin_of_mem_resolve hb
    obtain ⟨e, he, helead, hce, _, hcp⟩ := origin_of_mem_resolve hc
    have hde : d.resource = e.resource :=
      hbd.symm.trans ((IamBinding.grant_eq_iff.1 hk).1.trans hce)
    rw [hbp, hcp]
    exact le_antisymm (leading_resolve_append.1 helead d hd hde)
      (leading_resolve_append.2 hdlead e he hde.symm)
  obtain ⟨htype, hpath, hprincipal, hrole⟩ := GrantKey.mk.inj hk
  have hperm := hrecords accumulates_permissions
  have hprin := hrecords accumulates_principals
  cases b
  cases c
  simp_all

theorem resolve_append_of_renamed (cs ds : List IamBinding) :
    (resolve (.ofMappings m) (cs ++ ds)).2 = (resolve (.ofMappings m)
      ((resolve (.ofMappings m) cs).2 ++ (resolve (.ofMappings m) ds).2)).2 := by
  have hgrants : ∀ k, k ∈ (resolve (.ofMappings m) (cs ++ ds)).2.map (·.grant) ↔
      k ∈ (resolve (.ofMappings m) ((resolve (.ofMappings m) cs).2 ++
        (resolve (.ofMappings m) ds).2)).2.map (·.grant) := by
    intro k
    rw [mem_grants_iff_stands hm, mem_grants_iff_stands hm, stands_resolve_append hm]
  refine Ascending.eq_of_mem_iff (f := IamBinding.grant) (ascending_resolve _ _)
    (ascending_resolve _ _) fun b => ?_
  constructor
  · intro hb
    obtain ⟨c, hc, hk⟩ := List.mem_map.1 ((hgrants _).1 (List.mem_map_of_mem hb))
    rw [eq_of_grant_eq hm hb hc hk.symm]
    exact hc
  · intro hc
    obtain ⟨b', hb, hk⟩ := List.mem_map.1 ((hgrants _).2 (List.mem_map_of_mem hc))
    rw [← eq_of_grant_eq hm hb hc hk]
    exact hb

end

/-- **Merging in stages is merging at once**, for mappings without renames; in particular merging
twice is merging once. -/
theorem resolve_append_resolve (m : RoleMappings) (hm : ∀ e ∈ m.entries, e.2.renameTo = [])
    (a b : List IamBinding) :
    (resolve (.ofMappings m) (a ++ b)).2 =
        (resolve (.ofMappings m) ((resolve (.ofMappings m) a).2 ++
          (resolve (.ofMappings m) b).2)).2 ∧
      (resolve (.ofMappings m) (resolve (.ofMappings m) a).2).2 = (resolve (.ofMappings m) a).2 := by
  have hstages := resolve_append_of_renamed (m.renamed_of_no_renames hm)
  refine ⟨hstages a b, ?_⟩
  have htwice := hstages a []
  rw [List.append_nil] at htwice
  exact (htwice.trans (by rw [show (resolve (.ofMappings m) []).2 = [] from rfl,
    List.append_nil])).symm

/-- Auditors and editors include each other, and editors include viewers. -/
def circleRoles : RoleMappings :=
  .ofList [("auditor", ⟨[], ["editor"]⟩), ("editor", ⟨[], ["auditor", "viewer"]⟩)]

/-- The second part holds the role that includes what the first part grants. -/
theorem resolve_append_resolve_circle :
    (resolve (.ofMappings circleRoles)
        ([auditCandidate "t" "viewer" 0 1, auditCandidate "t" "auditor" 0 2] ++
          [auditCandidate "t" "editor" 0 3, auditCandidate "t" "viewer" 0 4])).2 =
      (resolve (.ofMappings circleRoles)
        ((resolve (.ofMappings circleRoles)
            [auditCandidate "t" "viewer" 0 1, auditCandidate "t" "auditor" 0 2]).2 ++
          (resolve (.ofMappings circleRoles)
            [auditCandidate "t" "editor" 0 3, auditCandidate "t" "viewer" 0 4]).2)).2 :=
  (resolve_append_resolve circleRoles (by decide) _ _).1

end Merge

end Regrant
