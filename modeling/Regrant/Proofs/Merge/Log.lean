import Mathlib.Data.List.Infix
import Regrant.Proofs.Merge.Grants

/-!
# What the merge reports

No candidate disappears silently (`resolve_accounts`).  A candidate that does not lead is reported
with its own data.  A grant that is held but dominated is reported once, with the first of the roles
that dominate it, even if that role is itself dropped for another one.  Every other grant that is
held comes out under all names of its role, with the records of the candidates that make it.
Nothing else is reported.
-/

namespace Regrant

namespace Merge

variable {m : RoleMappings} {book : RoleBook} {cs : List IamBinding} {k : GrantKey} {o : String}

/-- What is reported of a candidate that does not lead. -/
def outranked (c : IamBinding) : Notice :=
  .lowerPriorityDropped c.path c.principal c.role c.priority

/-- What is reported of a grant whose role another one dominates. -/
def dominated (k : GrantKey) (o : String) : Notice :=
  .includedRoleDropped k.path k.principal k.role o

/-- The first of the roles that dominate the role of a grant among those that its principal holds on
its resource. -/
structure FirstDominator (m : RoleMappings) (cs : List IamBinding) (k : GrantKey) (o : String) :
    Prop where
  held : Held cs { k with role := o }
  dominates : m.Dominates o k.role
  first : ∀ o', Held cs { k with role := o' } → m.Dominates o' k.role → o ≤ o'

/-! ### The first dominator -/

/-- What is found first in an ascending list is the least. -/
theorem find?_eq_some_iff_of_ascending {l : List String} (h : Ascending l) {p : String → Bool} :
    l.find? p = some o ↔ o ∈ l ∧ p o = true ∧ ∀ o' ∈ l, p o' = true → o ≤ o' := by
  induction l with
  | nil => simp
  | cons a l ih =>
    obtain ⟨ha, hl⟩ := List.pairwise_cons.1 h
    have hlt : ∀ o' ∈ l, a < o' := fun o' ho' => compareOfLessAndEq_eq_lt.1 (ha o' ho')
    cases hp : p a with
    | false =>
      have hne : ∀ o', p o' = true → o' ∈ a :: l → o' ∈ l := by
        rintro o' ho' (_ | ⟨_, hmem⟩)
        · exact absurd (hp.symm.trans ho') Bool.false_ne_true
        · exact hmem
      rw [List.find?_cons_of_neg (by simp [hp]), ih hl]
      constructor
      · rintro ⟨ho, hpo, hleast⟩
        exact ⟨List.mem_cons_of_mem _ ho, hpo, fun o' ho' hpo' => hleast o' (hne o' hpo' ho') hpo'⟩
      · rintro ⟨ho, hpo, hleast⟩
        exact ⟨hne o hpo ho, hpo, fun o' ho' => hleast o' (List.mem_cons_of_mem _ ho')⟩
    | true =>
      rw [List.find?_cons_of_pos hp, Option.some.injEq]
      constructor
      · rintro rfl
        refine ⟨List.mem_cons_self, hp, fun o' ho' _ => ?_⟩
        rcases List.mem_cons.1 ho' with rfl | ho'
        · exact String.le_refl _
        · exact String.not_lt.1 (String.lt_asymm (hlt o' ho'))
      · rintro ⟨ho, -, hleast⟩
        rcases List.mem_cons.1 ho with rfl | ho
        · rfl
        · exact absurd (hlt o ho) (String.not_lt.2 (hleast a List.mem_cons_self hp))

theorem dominator?_eq_some_iff {held : List String} (h : Ascending held) {r : String} :
    (RoleBook.ofMappings m).dominator? held r = some o ↔
      o ∈ held ∧ m.Dominates o r ∧ ∀ o' ∈ held, m.Dominates o' r → o ≤ o' := by
  rw [RoleBook.dominator?, find?_eq_some_iff_of_ascending h]
  simp only [RoleBook.dominates_iff]

theorem ascending_roles_holdings (cs : List IamBinding) (r : ResourceKey) (principal : String) :
    Ascending ((holdings cs r principal).map (·.role)) :=
  ascending_unite (fun _ _ => rfl) _

theorem dominator?_holdings_iff :
    (RoleBook.ofMappings m).dominator? ((holdings cs k.resource k.principal).map (·.role)) k.role =
      some o ↔ FirstDominator m cs k o := by
  rw [dominator?_eq_some_iff (ascending_roles_holdings cs k.resource k.principal)]
  simp only [← held_iff_mem_holdings]
  exact ⟨fun ⟨held, dominates, first⟩ => ⟨held, dominates, first⟩,
    fun ⟨held, dominates, first⟩ => ⟨held, dominates, first⟩⟩

/-- A grant whose role is dominated has a first dominator. -/
theorem exists_firstDominator (h : ∃ o, Held cs { k with role := o } ∧ m.Dominates o k.role) :
    ∃ o, FirstDominator m cs k o := by
  obtain ⟨o, ho, hdominates⟩ := h
  refine (Option.ne_none_iff_exists'.1 fun hnone => ?_).imp fun _ => dominator?_holdings_iff.1
  exact RoleBook.dominator?_eq_none_iff.1 hnone o (held_iff_mem_holdings.1 ho) hdominates

/-! ### The grants that are dropped -/

/-- The grants on a resource that are dropped, by principal and role, each with the role that is
reported for it. -/
def droppedOn (book : RoleBook) (cs : List IamBinding) (r : ResourceKey) :
    List (GrantKey × String) :=
  (sortedDistinct ((tier cs r).map (·.principal))).flatMap fun p =>
    (holdings cs r p).filterMap fun b =>
      (book.dominator? ((holdings cs r p).map (·.role)) b.role).map (b.grant, ·)

/-- What is reported on a resource: first of the candidates that do not lead, in order. -/
theorem notices_ofResource (book : RoleBook) (cs : List IamBinding) (r : ResourceKey) :
    (ofResource book (cs.filter fun c => c.resource = r)).1 =
      (cs.filter fun c => c.resource = r ∧ ¬ Leading cs c).map outranked ++
        (droppedOn book cs r).map fun e => dominated e.1 e.2 := by
  have houtranked : (cs.filter fun c => c.resource = r).filter
      (fun c => c.priority < (top (cs.filter fun d => d.resource = r)).getD 0) =
        cs.filter fun c => c.resource = r ∧ ¬ Leading cs c := by
    rw [List.filter_filter]
    refine List.filter_congr fun c hc => ?_
    by_cases h : c.resource = r
    · subst h
      simp [← not_lt_top_iff hc]
    · simp [h]
  have hdropped : ((groupBy (·.principal) (tier cs r)).values.flatMap fun l =>
      (ofPrincipal book (unite (·.role) l)).1) =
        (droppedOn book cs r).map fun e => dominated e.1 e.2 := by
    rw [values_groupBy, List.flatMap_map, droppedOn, List.map_flatMap]
    refine List.flatMap_congr fun p _ => ?_
    rw [List.map_filterMap]
    refine List.filterMap_congr fun b _ => ?_
    rw [Option.map_map]
    rfl
  rw [← houtranked, ← hdropped, ← filter_eq_tier]
  exact congrArg (_ ++ ·) (List.flatMap_map _ _ _)

/-- A grant is dropped with the first of the roles that dominate its role. -/
theorem mem_droppedOn_iff {r : ResourceKey} : (k, o) ∈ droppedOn (.ofMappings m) cs r ↔
    k.resource = r ∧ Held cs k ∧ FirstDominator m cs k o := by
  simp only [droppedOn, List.mem_flatMap, List.mem_filterMap, mem_sortedDistinct,
    Option.map_eq_some_iff, Prod.mk.injEq]
  constructor
  · rintro ⟨p, -, b, hb, _, hdominator, hgrant, rfl⟩
    obtain rfl := hgrant.symm.trans (grant_of_mem_holdings (k := ⟨r.type, r.path, p, ""⟩) hb)
    refine ⟨rfl, ?_, dominator?_holdings_iff.1 hdominator⟩
    exact held_iff_mem_holdings.2 (List.mem_map_of_mem (f := (·.role)) hb)
  · rintro ⟨rfl, hheld, hfirst⟩
    obtain ⟨b, hb, hrole⟩ := List.mem_map.1 (held_iff_mem_holdings.1 hheld)
    refine ⟨k.principal, ?_, b, hb, _, ?_, ?_, rfl⟩
    · obtain ⟨c, hc, hgrant, hlead⟩ := hheld
      obtain ⟨hresource, hprincipal, -⟩ := IamBinding.grant_eq_iff.1 hgrant
      refine List.mem_map.2 ⟨c, List.mem_filter.2 ⟨hc, ?_⟩, hprincipal⟩
      exact decide_eq_true ⟨hresource, hlead⟩
    · rw [hrole]
      exact dominator?_holdings_iff.2 hfirst
    · rw [grant_of_mem_holdings hb, hrole]

theorem pairwise_droppedOn (book : RoleBook) (cs : List IamBinding) (r : ResourceKey) :
    (droppedOn book cs r).Pairwise fun e e' => e.1.principal < e'.1.principal ∨
      e.1.principal = e'.1.principal ∧ e.1.role < e'.1.role := by
  have hprincipal : ∀ {p : String} {b : IamBinding}, b ∈ holdings cs r p → b.principal = p :=
    fun {p b} hb => congrArg GrantKey.principal
      (grant_of_mem_holdings (k := ⟨r.type, r.path, p, ""⟩) hb)
  rw [droppedOn, List.pairwise_flatMap]
  constructor
  · intro p _
    rw [List.pairwise_filterMap]
    refine (List.pairwise_map.1 (ascending_roles_holdings cs r p)).imp_of_mem ?_
    intro b b' hb hb' hlt e he e' he'
    obtain ⟨o, -, rfl⟩ := Option.map_eq_some_iff.1 he
    obtain ⟨o', -, rfl⟩ := Option.map_eq_some_iff.1 he'
    exact Or.inr ⟨(hprincipal hb).trans (hprincipal hb').symm, compareOfLessAndEq_eq_lt.1 hlt⟩
  · refine (ascending_sortedDistinct _).imp fun hlt e he e' he' => Or.inl ?_
    obtain ⟨b, hb, he⟩ := List.mem_filterMap.1 he
    obtain ⟨b', hb', he'⟩ := List.mem_filterMap.1 he'
    obtain ⟨o, -, rfl⟩ := Option.map_eq_some_iff.1 he
    obtain ⟨o', -, rfl⟩ := Option.map_eq_some_iff.1 he'
    show b.principal < b'.principal
    rw [hprincipal hb, hprincipal hb']
    exact compareOfLessAndEq_eq_lt.1 hlt

/-! ### The grants that come out -/

/-- The leading candidates that make a grant are among the sources of every name that its role is
renamed to. -/
theorem leaders_infix_sources {roles : List String} (hrole : k.role ∈ roles) {name : String}
    (hname : name ∈ m.renamed k.role) :
    leaders cs k <:+: sources m cs roles { k with role := name } := by
  have hnames : leaders cs k <:+: ((m.renamed k.role).filter (· = name)).flatMap
      fun _ => leaders cs k :=
    List.infix_of_mem_flatten (List.mem_map.2 ⟨name, List.mem_filter.2 ⟨hname, by simp⟩, rfl⟩)
  exact hnames.trans (List.infix_of_mem_flatten (List.mem_map_of_mem hrole))

/-- The records of a system. -/
def recordsOf (p : Provenance) (s : String) : List Json := (p.get? s).getD []

/-- What comes out under a name of a role that stands has the records of all candidates with the
role. -/
theorem records_infix_of_mem_resolve {part : IamBinding → Provenance} (hp : Accumulates part)
    (h : Stands m cs k) {b : IamBinding} (hb : b ∈ (resolve (.ofMappings m) cs).2)
    (hgrant : b.grant = { k with role := b.role }) (hname : b.role ∈ m.renamed k.role)
    (s : String) :
    (leaders cs k).flatMap (fun c => recordsOf (part c) s) <:+: recordsOf (part b) s := by
  have hrole : k.role ∈ (survivors (.ofMappings m) cs b.grant).map (·.role) := by
    rw [hgrant]
    exact mem_roles_survivors_iff.2 h
  have hsources : leaders cs k <:+: sources m cs
      ((survivors (.ofMappings m) cs b.grant).map (·.role)) { k with role := b.role } :=
    leaders_infix_sources hrole hname
  rw [recordsOf, get?_of_mem_resolve hp hb, Provenance.getD_together, List.flatMap_map]
  rw [← hgrant] at hsources
  exact hsources.flatMap _

/-! ### The whole log -/

/-- What becomes of candidates: the resources that they are on, and on each of them the grants that
are dropped, each for the role that is reported. -/
structure Accounting (m : RoleMappings) (cs : List IamBinding) (notices : List Notice)
    (bindings : List IamBinding) (resources : List ResourceKey)
    (dropped : ResourceKey → List (GrantKey × String)) : Prop where
  resources_ascending : Ascending resources
  mem_resources : ∀ r, r ∈ resources ↔ ∃ c ∈ cs, c.resource = r
  dropped_ascending : ∀ r, (dropped r).Pairwise fun e e' => e.1.principal < e'.1.principal ∨
    e.1.principal = e'.1.principal ∧ e.1.role < e'.1.role
  mem_dropped : ∀ r k o, (k, o) ∈ dropped r ↔
    k.resource = r ∧ Held cs k ∧ FirstDominator m cs k o
  /-- Resource by resource the candidates that do not lead come first, in order. -/
  notices_eq : notices = resources.flatMap fun r =>
    (cs.filter fun c => c.resource = r ∧ ¬ Leading cs c).map outranked ++
      (dropped r).map fun e => dominated e.1 e.2
  /-- A role that is dominated is dropped. -/
  exists_dropped : ∀ k, Held cs k → (∃ o, Held cs { k with role := o } ∧ m.Dominates o k.role) →
    ∃ o, (k, o) ∈ dropped k.resource
  /-- A role that is not dominated comes out, with the records of its candidates. -/
  exists_binding : ∀ k, Held cs k →
    (¬ ∃ o, Held cs { k with role := o } ∧ m.Dominates o k.role) → (∀ r o, (k, o) ∉ dropped r) ∧
    ∀ name ∈ m.renamed k.role, ∃ b ∈ bindings, b.grant = { k with role := name } ∧ ∀ s,
      (leaders cs k).flatMap (fun c => recordsOf c.permissions s) <:+: recordsOf b.permissions s ∧
      (leaders cs k).flatMap (fun c => recordsOf c.principals s) <:+: recordsOf b.principals s

/-- **No candidate disappears silently.**  What the merge reports and what comes out of it account
for every candidate.  Those that do not lead are reported one by one.  Of the grants that the others
make, each one whose role is dominated is reported once, and each other one comes out. -/
theorem resolve_accounts (m : RoleMappings) (cs : List IamBinding) :
    ∃ resources dropped, Accounting m cs (resolve (.ofMappings m) cs).1
      (resolve (.ofMappings m) cs).2 resources dropped := by
  refine ⟨sortedDistinct (cs.map IamBinding.resource), droppedOn (.ofMappings m) cs,
    ascending_sortedDistinct _, fun r => ?_, pairwise_droppedOn _ cs,
    fun r k o => mem_droppedOn_iff, ?_, fun k hheld hdominated => ?_,
    fun k hheld hnone => ⟨fun r o ho => ?_, fun name hname => ?_⟩⟩
  · rw [mem_sortedDistinct, List.mem_map]
  · show ((groupBy IamBinding.resource cs).values.map (ofResource _)).flatMap (·.1) = _
    rw [values_groupBy, List.map_map, List.flatMap_map]
    exact List.flatMap_congr fun r _ => notices_ofResource _ cs r
  · obtain ⟨o, ho⟩ := exists_firstDominator hdominated
    exact ⟨o, mem_droppedOn_iff.2 ⟨rfl, hheld, ho⟩⟩
  · obtain ⟨-, -, hfirst⟩ := mem_droppedOn_iff.1 ho
    exact hnone ⟨o, hfirst.held, hfirst.dominates⟩
  · have hstands : Stands m cs k := ⟨hheld, fun o ho hdominates => hnone ⟨o, ho, hdominates⟩⟩
    obtain ⟨b, hb, hgrant⟩ := exists_mem_resolve_of_stands (k := k) hstands hname
    obtain rfl : b.role = name := congrArg GrantKey.role hgrant
    exact ⟨b, hb, hgrant, fun s =>
      ⟨records_infix_of_mem_resolve accumulates_permissions hstands hb hgrant hname s,
        records_infix_of_mem_resolve accumulates_principals hstands hb hgrant hname s⟩⟩

/-- Auditors and editors both dominate viewers, and auditors come first. -/
example : (resolve (.ofMappings auditRoles) auditCandidates).1 =
    [.lowerPriorityDropped "t" "user:a" "owner" (-1),
      .includedRoleDropped "t" "user:a" "viewer" "auditor"] := by
  decide

end Merge

end Regrant
