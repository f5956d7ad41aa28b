import Regrant.Proofs.Mapping.Proposed
import Regrant.Proofs.Merge.Grants

/-!
# One system for each resource

Rules cannot change the priority of a binding, and each system proposes with one priority.  So the
candidates that lead on a resource are all from one system (`fromOnly_of_leading`): from HDFS if any
mapper maps an HDFS permission there, and from Ranger otherwise.  A binding that comes out has the
records of candidates that lead on its resource, and hence of this system only.
-/

namespace Regrant

namespace Merge

variable {m : RoleMappings} {cs : List IamBinding} {b : IamBinding} {system : String}

/-- There are candidates behind what comes out. -/
theorem exists_mem_sources (hb : b ∈ (resolve (.ofMappings m) cs).2) :
    ∃ c, c ∈ sources m cs ((survivors (.ofMappings m) cs b.grant).map (·.role)) b.grant := by
  obtain ⟨r, hstands, hr⟩ := mem_grants_resolve_iff.1 (List.mem_map_of_mem hb)
  obtain ⟨c, hc⟩ := hstands.held
  exact ⟨c, mem_sources_iff.2 ⟨r, mem_roles_survivors_iff.2 hstands, hr, mem_leaders.2 hc⟩⟩

/-- The candidates behind what comes out lead on its resource. -/
theorem leading_of_mem_sources {roles : List String} {k : GrantKey} {c : IamBinding}
    (hc : c ∈ sources m cs roles k) : c ∈ cs ∧ c.resource = k.resource ∧ Leading cs c := by
  obtain ⟨r, -, -, hc⟩ := mem_sources_iff.1 hc
  obtain ⟨hmem, hk, hlead⟩ := mem_leaders.1 hc
  exact ⟨hmem, (IamBinding.grant_eq_iff.1 hk).1, hlead⟩

/-- If what leads on a resource has records of one system, so has what comes out there. -/
theorem keys_of_mem_resolve {part : IamBinding → Provenance} (hp : Accumulates part)
    (hb : b ∈ (resolve (.ofMappings m) cs).2)
    (h : ∀ c ∈ cs, c.resource = b.resource → Leading cs c → (part c).keys = [system]) :
    (part b).keys = [system] := by
  have hsources : ∀ c ∈ sources m cs ((survivors (.ofMappings m) cs b.grant).map (·.role)) b.grant,
      (part c).keys = [system] := fun c hc =>
    h c (leading_of_mem_sources hc).1 (leading_of_mem_sources hc).2.1
      (leading_of_mem_sources hc).2.2
  refine (SortedMap.ascending_keys _).ext (List.pairwise_singleton _ _) fun s => ?_
  rw [SortedMap.mem_keys_iff, ← Option.isSome_iff_exists, get?_of_mem_resolve hp hb,
    Provenance.isSome_together_iff]
  simp only [List.mem_map, exists_exists_and_eq_and]
  constructor
  · rintro ⟨c, hc, hs⟩
    rwa [hsources c hc] at hs
  · intro hs
    obtain ⟨c, hc⟩ := exists_mem_sources hb
    exact ⟨c, hc, by rwa [hsources c hc]⟩

end Merge

namespace SystemMapper

/-- Some mapper of HDFS permissions maps a candidate on the resource. -/
def MapsHdfs (ms : List SystemMapper) (r : ResourceKey) : Prop :=
  ∃ m : HdfsMapper, hdfs m ∈ ms ∧ ∃ c, Merge.Maps (hdfs m).toMapper c ∧ c.resource = r

variable {ms : List SystemMapper} {cs : List IamBinding} {c : IamBinding}

/-- **What leads is from HDFS where HDFS maps anything**, and from Ranger elsewhere. -/
theorem fromOnly_of_leading (hcs : (Merge.collect (ms.map (·.toMapper))).outcome = .ok cs)
    (hc : c ∈ cs) (hlead : Merge.Leading cs c) :
    (MapsHdfs ms c.resource → c.FromOnly "hdfs") ∧
      (¬ MapsHdfs ms c.resource → c.FromOnly "ranger") := by
  obtain ⟨_, hmapper, hmaps⟩ := (Merge.mem_collect_iff hcs).1 hc
  obtain ⟨m, hm, rfl⟩ := List.mem_map.1 hmapper
  have hproposed := isProposed_of_maps hmaps
  cases m with
  | hdfs m => exact ⟨fun _ => hproposed.fromOnly, fun h => absurd ⟨m, hm, c, hmaps, rfl⟩ h⟩
  | ranger m =>
    refine ⟨?_, fun _ => hproposed.fromOnly⟩
    rintro ⟨m', hm', d, hd, hdc⟩
    have hdcs : d ∈ cs := (Merge.mem_collect_iff hcs).2 ⟨_, List.mem_map_of_mem hm', hd⟩
    have hle : d.priority ≤ c.priority := hlead d hdcs hdc
    rw [(isProposed_of_maps hd).priority, hproposed.priority] at hle
    exact absurd hle (by simp [priority])

/-- **Systems do not mix on a resource.**  Where a mapper of HDFS permissions maps a candidate,
bindings come out, and all of them have records of HDFS and of no other system.  Elsewhere all that
comes out has records of Ranger and of no other system. -/
theorem run_separates (ms : List SystemMapper) (roles : RoleMappings) {bs : List IamBinding}
    (h : (Merge.run (ms.map (·.toMapper)) roles).outcome = .ok bs) (r : ResourceKey) :
    (MapsHdfs ms r → (∃ b ∈ bs, b.resource = r) ∧ ∀ b ∈ bs, b.resource = r → b.FromOnly "hdfs") ∧
      (¬ MapsHdfs ms r → ∀ b ∈ bs, b.resource = r → b.FromOnly "ranger") := by
  obtain ⟨-, cs, hcs, rfl⟩ := Merge.run_eq_ok_iff.1 h
  have hone : ∀ system, (∀ c ∈ cs, c.resource = r → Merge.Leading cs c → c.FromOnly system) →
      ∀ b ∈ (Merge.resolve (.ofMappings roles) cs).2, b.resource = r → b.FromOnly system := by
    rintro system hlead b hb rfl
    exact ⟨Merge.keys_of_mem_resolve accumulates_permissions hb
        fun c hc hr hl => (hlead c hc hr hl).permissions,
      Merge.keys_of_mem_resolve accumulates_principals hb
        fun c hc hr hl => (hlead c hc hr hl).principals⟩
  constructor
  · intro hhdfs
    constructor
    · obtain ⟨m, hm, c, hc, rfl⟩ := hhdfs
      exact Merge.exists_mem_resolve_of_mem
        ((Merge.mem_collect_iff hcs).2 ⟨_, List.mem_map_of_mem hm, hc⟩)
    · refine hone _ ?_
      rintro c hc rfl hl
      exact (fromOnly_of_leading hcs hc hl).1 hhdfs
  · intro hhdfs
    refine hone _ ?_
    rintro c hc rfl hl
    exact (fromOnly_of_leading hcs hc hl).2 hhdfs

/-- A mapper of each system for one table. -/
def sharedMappers : List SystemMapper := [.ranger forgedPolicies, .hdfs forgedRows]

theorem run_separates_shared :
    ∃ bs, (Merge.run (sharedMappers.map (·.toMapper)) ∅).outcome = .ok bs ∧
      bs.map (·.resource) = [⟨.bqTable, "p.s.t"⟩] ∧ MapsHdfs sharedMappers ⟨.bqTable, "p.s.t"⟩ ∧
      ∀ b ∈ bs, b.resource = ⟨.bqTable, "p.s.t"⟩ → b.FromOnly "hdfs" := by
  have hrun : ((Merge.run (sharedMappers.map (·.toMapper)) ∅).outcome.map
      (List.map (·.resource))).toOption = some [⟨.bqTable, "p.s.t"⟩] := by decide +kernel
  have hrows : (forgedRows.run.outcome.map
      (List.map fun v => (v.action, v.binding.resource))).toOption =
        some [(.map, ⟨.bqTable, "p.s.t"⟩)] := by decide +kernel
  obtain ⟨bs, hbs, hresources⟩ := exceptMap_eq_ok_iff.1 (eq_ok_of_toOption hrun)
  obtain ⟨vs, hvs, hv⟩ := exceptMap_eq_ok_iff.1 (eq_ok_of_toOption hrows)
  obtain ⟨v, rfl, hmapped⟩ := List.map_eq_singleton_iff.1 hv
  obtain ⟨haction, hresource⟩ := Prod.mk.inj hmapped
  have hmaps : MapsHdfs sharedMappers ⟨.bqTable, "p.s.t"⟩ :=
    ⟨forgedRows, by simp [sharedMappers], v.binding,
      ⟨_, hvs, v, List.mem_singleton_self _, haction, rfl⟩, hresource⟩
  exact ⟨bs, hbs, hresources, hmaps, ((run_separates sharedMappers ∅ hbs _).1 hmaps).2⟩

end SystemMapper

end Regrant
