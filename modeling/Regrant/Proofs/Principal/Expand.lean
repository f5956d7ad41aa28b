import Regrant.Binding.Hdfs
import Regrant.Binding.Ranger
import Regrant.Command.Expand
import Regrant.Proofs.Principal.Mapper
import Regrant.Proofs.Principal.Merge
import Regrant.Proofs.Rules.Decision
import Regrant.Proofs.Text

/-!
# Indexing what is expanded

A plan has at most one mapper for each kind of identities (`planned_plan`), so two principals have
one source only if two records of one kind have one name.  The dump of HDFS is read without repeats,
and its identities can always be indexed.  A dump of Ranger may repeat a name: the identities of
Ranger can be indexed exactly if principals with one source agree on their target (`index_compute`).
-/

namespace Regrant

/-- The mapper as merging sees it. -/
def IdentityMapper.toMapper (m : IdentityMapper) : PrincipalMapper := ⟨m.name, m.run⟩

namespace Expand

open PrincipalIndex PrincipalMerge

/-! ### What is planned -/

/-- A kind of identities of a system, and the records that say which there are. -/
structure Kind where
  system : String
  kind : String
  records : Source IdentityRecord

def kindOf (m : IdentityMapper) : Kind := ⟨m.system, m.kind, m.records⟩

/-- The records of a class of the HDFS dump. -/
def dumpRecords (t : FileTree) (s : Settings) (c : HdfsClass) : Source IdentityRecord :=
  (Input.hdfsIdentities t c (s.inputs.hdfsDump.getD "")).map .ofHdfs

def hdfsKinds (t : FileTree) (s : Settings) : List Kind :=
  [⟨"hdfs", "user", dumpRecords t s .user⟩, ⟨"hdfs", "group", dumpRecords t s .group⟩,
    ⟨"hdfs", "other", dumpRecords t s .other⟩]

def rangerKinds (t : FileTree) (s : Settings) : List Kind :=
  [⟨"ranger", "user", (Input.rangerUsers t s.inputs.rangerDump).map .ofUser⟩,
    ⟨"ranger", "group", (Input.rangerGroups t s.inputs.rangerDump).map .ofGroup⟩,
    ⟨"ranger", "role", (Input.rangerRoles t s.inputs.rangerDump).map .ofRole⟩]

def kinds (t : FileTree) (s : Settings) : List Kind := hdfsKinds t s ++ rangerKinds t s

/-- These mappers are for some of these kinds, at most one for each. -/
def Planned (ms : List PrincipalMapper) (ks : List Kind) : Prop :=
  ∃ is : List IdentityMapper, ms = is.map (·.toMapper) ∧ (is.map kindOf).Sublist ks

theorem planned_nil (ks : List Kind) : Planned [] ks := ⟨[], rfl, List.nil_sublist ks⟩

theorem Planned.append {ms ms' : List PrincipalMapper} {ks ks' : List Kind} (h : Planned ms ks)
    (h' : Planned ms' ks') : Planned (ms ++ ms') (ks ++ ks') := by
  obtain ⟨is, rfl, hs⟩ := h
  obtain ⟨is', rfl, hs'⟩ := h'
  exact ⟨is ++ is', List.map_append.symm, by rw [List.map_append]; exact hs.append hs'⟩

/-- The mapper of a kind with rules, whose failure to compile is fatal. -/
theorem planKind_eq_ok {system kind : String} {type : PrincipalType} {rules : List Rule}
    {records : Source IdentityRecord} {ms : List PrincipalMapper}
    (h : (planKind system kind type (some rules) records).outcome = .ok ms) :
    ∃ compiled, RuleSet.compile [kind] rules = .ok compiled ∧
      ms = [(⟨system, kind, some type, compiled, records⟩ : IdentityMapper).toMapper] := by
  rw [planKind, IdentityMapper.build] at h
  cases hcompiled : RuleSet.compile [kind] rules with
  | error e =>
    rw [hcompiled] at h
    simp only [Except.map, keep, RuleSet.fatal_of_compile hcompiled] at h
    cases h
  | ok compiled =>
    rw [hcompiled] at h
    cases h
    exact ⟨compiled, rfl, rfl⟩

theorem planned_planKind {system kind : String} {type : PrincipalType} {rules : RuleList}
    {records : Source IdentityRecord} {ms : List PrincipalMapper}
    (h : (planKind system kind type rules records).outcome = .ok ms) :
    Planned ms [⟨system, kind, records⟩] := by
  cases rules with
  | none =>
    cases h
    exact planned_nil _
  | some rules =>
    obtain ⟨compiled, -, rfl⟩ := planKind_eq_ok h
    exact ⟨[⟨system, kind, some type, compiled, records⟩], rfl, List.Sublist.refl _⟩

theorem planned_planDump {t : FileTree} {s : Settings} {kind : String} {type : PrincipalType}
    {c : HdfsClass} {rules : RuleList} {ms : List PrincipalMapper}
    (h : (planDump t s kind type c rules).outcome = .ok ms) :
    Planned ms [⟨"hdfs", kind, dumpRecords t s c⟩] := by
  unfold planDump at h
  split at h
  · cases h
    exact planned_nil _
  · rename_i dump hdump
    obtain ⟨hdump, -⟩ := Option.filter_eq_some_iff.1 hdump
    rw [dumpRecords, hdump]
    exact planned_planKind h
  · cases h
    exact planned_nil _

theorem planned_planHdfs {t : FileTree} {s : Settings} {rules : IdentityRules}
    {ms : List PrincipalMapper} (h : (planHdfs t s rules).outcome = .ok ms) :
    Planned ms (hdfsKinds t s) := by
  obtain ⟨users, husers, h⟩ := Run.bind_eq_ok_iff.1 h
  obtain ⟨groups, hgroups, h⟩ := Run.bind_eq_ok_iff.1 h
  obtain ⟨others, hothers, h⟩ := Run.bind_eq_ok_iff.1 h
  cases h
  exact ((planned_planDump husers).append (planned_planDump hgroups)).append
    (planned_planKind hothers)

theorem planned_planRanger {t : FileTree} {s : Settings} {rules : IdentityRules}
    {ms : List PrincipalMapper} (h : (planRanger t s rules).outcome = .ok ms) :
    Planned ms (rangerKinds t s) := by
  obtain ⟨users, husers, h⟩ := Run.bind_eq_ok_iff.1 h
  obtain ⟨groups, hgroups, h⟩ := Run.bind_eq_ok_iff.1 h
  obtain ⟨roles, hroles, h⟩ := Run.bind_eq_ok_iff.1 h
  cases h
  exact ((planned_planKind husers).append (planned_planKind hgroups)).append
    (planned_planKind hroles)

theorem plan_eq (t : FileTree) (s : Settings) (ruleset : PrincipalRuleset) :
    plan t s ruleset = do
      let hdfs ← ruleset.hdfs.elim (pure []) (planHdfs t s)
      let ranger ← ruleset.ranger.elim (pure []) (planRanger t s)
      return hdfs ++ ranger := by
  obtain ⟨hdfs, ranger⟩ := ruleset
  cases hdfs <;> cases ranger <;> rfl

/-- **A plan has at most one mapper for each kind of identities.** -/
theorem planned_plan {t : FileTree} {s : Settings} {ruleset : PrincipalRuleset}
    {ms : List PrincipalMapper} (h : (plan t s ruleset).outcome = .ok ms) :
    Planned ms (kinds t s) := by
  rw [plan_eq] at h
  obtain ⟨hdfs, hhdfs, h⟩ := Run.bind_eq_ok_iff.1 h
  obtain ⟨ranger, hranger, h⟩ := Run.bind_eq_ok_iff.1 h
  cases h
  refine Planned.append ?_ ?_
  · cases hrules : ruleset.hdfs with
    | none => rw [hrules] at hhdfs; cases hhdfs; exact planned_nil _
    | some rules => rw [hrules] at hhdfs; exact planned_planHdfs hhdfs
  · cases hrules : ruleset.ranger with
    | none => rw [hrules] at hranger; cases hranger; exact planned_nil _
    | some rules => rw [hrules] at hranger; exact planned_planRanger hranger

/-! ### What is collected -/

/-- What the planned mappers yield, before it is merged. -/
def unmerged (t : FileTree) (s : Settings) : Run (List Principal) := do
  let ruleset ← Run.ofExcept (Input.principalRuleset t s.inputs.principalRuleset)
  collect (← plan t s ruleset)

variable {t : FileTree} {s : Settings} {l : List Principal}

/-- Expanding merges what the planned mappers yield. -/
theorem exists_unmerged {ps : List Principal} (h : (compute t s).outcome = .ok ps) :
    ∃ l, (unmerged t s).outcome = .ok l ∧ ps = resolve l := by
  obtain ⟨ruleset, hruleset, h⟩ := Run.bind_eq_ok_iff.1 h
  obtain ⟨ms, hms, h⟩ := Run.bind_eq_ok_iff.1 h
  rw [PrincipalMerge.run] at h
  split at h
  · cases h
  · obtain ⟨l, hl, h⟩ := Run.bind_eq_ok_iff.1 h
    cases h
    exact ⟨l, Run.bind_eq_ok_iff.2 ⟨ruleset, hruleset, Run.bind_eq_ok_iff.2 ⟨ms, hms, hl⟩⟩, rfl⟩

/-- A mapper that fails contributes nothing. -/
theorem ok_of_principals {m : PrincipalMapper} {ps : List Principal}
    (h : (principals m).outcome = .ok ps) : m.run.outcome = .ok ps ∨ ps = [] := by
  obtain ⟨outcome, hrun, h⟩ := Run.bind_eq_ok_iff.1 h
  cases hrun
  cases hrun : m.run.outcome with
  | ok ps' =>
    rw [hrun] at h
    cases h
    exact Or.inl rfl
  | error e =>
    rw [hrun] at h
    simp only at h
    split at h <;> cases h
    exact Or.inr rfl

/-- What is collected was made by one of the mappers of one of its records. -/
theorem yields_of_mem_collect {is : List IdentityMapper}
    (h : (collect (is.map (·.toMapper))).outcome = .ok l) {p : Principal} (hp : p ∈ l) :
    ∃ m ∈ is, m.Yields p := by
  induction is generalizing l with
  | nil => cases h; cases hp
  | cons m is ih =>
    obtain ⟨ps, hps, h⟩ := Run.bind_eq_ok_iff.1 h
    obtain ⟨rest, hrest, h⟩ := Run.bind_eq_ok_iff.1 h
    cases h
    rcases List.mem_append.1 hp with hp | hp
    · rcases ok_of_principals hps with hrun | rfl
      · exact ⟨m, List.mem_cons_self, IdentityMapper.yields_of_run hrun hp⟩
      · cases hp
    · obtain ⟨m', hm', hyields⟩ := ih hrest hp
      exact ⟨m', List.mem_cons_of_mem m hm', hyields⟩

theorem nodup_kinds (t : FileTree) (s : Settings) :
    ((kinds t s).map fun k => (k.system, k.kind)).Nodup := by
  show [("hdfs", "user"), ("hdfs", "group"), ("hdfs", "other"), ("ranger", "user"),
    ("ranger", "group"), ("ranger", "role")].Nodup
  decide

/-- The keys of the kinds are well-formed. -/
theorem ofText?_key {m : IdentityMapper} (h : kindOf m ∈ kinds t s) :
    SourceKey.ofText? m.key = some ⟨m.system, m.kind⟩ := by
  have hkey : ∀ k ∈ kinds t s,
      SourceKey.ofText? (k.system ++ "/" ++ k.kind) = some ⟨k.system, k.kind⟩ := by
    simp only [kinds, hdfsKinds, rangerKinds, List.forall_mem_append, List.forall_mem_cons,
      List.not_mem_nil, false_imp_iff, implies_true, and_true]
    decide
  exact hkey (kindOf m) h

/-- What is collected was made by mappers of which there is at most one for each kind. -/
theorem exists_mappers (h : (unmerged t s).outcome = .ok l) :
    ∃ is : List IdentityMapper, (is.map kindOf).Sublist (kinds t s) ∧
      ∀ p ∈ l, ∃ m ∈ is, m.Yields p := by
  obtain ⟨ruleset, -, h⟩ := Run.bind_eq_ok_iff.1 h
  obtain ⟨ms, hms, h⟩ := Run.bind_eq_ok_iff.1 h
  obtain ⟨is, rfl, hsub⟩ := planned_plan hms
  exact ⟨is, hsub, fun p hp => yields_of_mem_collect h hp⟩

theorem exists_mapper (h : (unmerged t s).outcome = .ok l) {p : Principal} (hp : p ∈ l) :
    ∃ m : IdentityMapper, kindOf m ∈ kinds t s ∧ m.Yields p := by
  obtain ⟨is, hsub, hmade⟩ := exists_mappers h
  obtain ⟨m, hm, hyields⟩ := hmade p hp
  exact ⟨m, hsub.subset (List.mem_map_of_mem hm), hyields⟩

/-- **Principals with one source come from one mapper.** -/
theorem exists_common_mapper (h : (unmerged t s).outcome = .ok l) {p q : Principal} (hp : p ∈ l)
    (hq : q ∈ l) (hsources : p.sources = q.sources) :
    ∃ m : IdentityMapper, kindOf m ∈ kinds t s ∧ m.Yields p ∧ m.Yields q := by
  obtain ⟨is, hsub, hmade⟩ := exists_mappers h
  have hkind : ∀ m ∈ is, kindOf m ∈ kinds t s := fun m hm =>
    hsub.subset (List.mem_map_of_mem hm)
  have hnodup : (is.map fun m => (m.system, m.kind)).Nodup := by
    have hpairs := (nodup_kinds t s).sublist (hsub.map _)
    rwa [List.map_map] at hpairs
  obtain ⟨m, hm, hyields⟩ := hmade p hp
  obtain ⟨m', hm', hyields'⟩ := hmade q hq
  -- The key of a source says of which system and kind its mapper is, and there is one of each.
  obtain rfl : m = m' := by
    obtain ⟨name, hname⟩ := hyields.exists_source
    obtain ⟨name', hname'⟩ := hyields'.exists_source
    have hkey : m.key = m'.key := by
      rw [hname, hname'] at hsources
      exact (Principal.source_inj hsources).1
    have hk := ofText?_key (hkind m hm)
    rw [hkey, ofText?_key (hkind m' hm')] at hk
    obtain ⟨hsystem, hname⟩ := SourceKey.mk.inj (Option.some.inj hk)
    exact List.inj_on_of_nodup_map hnodup hm hm' (Prod.ext hsystem.symm hname.symm)
  exact ⟨m, hkind m hm, hyields, hyields'⟩

/-! ### What is listed -/

theorem mem_identities_source {system key name : String} {i : IdentityKey} :
    i ∈ identities system (Principal.source key name) ↔
      SourceKey.ofText? key = some ⟨system, i.kind⟩ ∧ i.name = name := by
  have hsource : ∀ key' n, HasName (Principal.source key name) key' n ↔ key' = key ∧ n = name := by
    intro key' n
    rw [HasName, Principal.get?_source]
    by_cases h : key' = key <;> simp [h]
  simp only [mem_identities, hsource]
  constructor
  · rintro ⟨key', hk, rfl, hname⟩
    exact ⟨hk, hname⟩
  · rintro ⟨hk, hname⟩
    exact ⟨key, hk, rfl, hname⟩

/-- The identity of a record is listed in the system of its mapper. -/
theorem mem_identities_of_yields {m : IdentityMapper} {p : Principal}
    (hkind : kindOf m ∈ kinds t s) (h : m.Yields p) {system : String} {i : IdentityKey} :
    i ∈ identities system p.sources ↔
      m.system = system ∧ m.kind = i.kind ∧ p.sources = Principal.source m.key i.name := by
  obtain ⟨name, hname⟩ := h.exists_source
  rw [hname, mem_identities_source, ofText?_key hkind]
  constructor
  · rintro ⟨hk, rfl⟩
    obtain ⟨hsystem, hkind⟩ := SourceKey.mk.inj (Option.some.inj hk)
    exact ⟨hsystem, hkind, rfl⟩
  · rintro ⟨rfl, hk, hsource⟩
    exact ⟨by rw [hk], (Principal.source_inj hsource).2.symm⟩

/-- Principals that list one identity have one source. -/
theorem sources_eq_of_mem_identities (h : (unmerged t s).outcome = .ok l) {p q : Principal}
    (hp : p ∈ l) (hq : q ∈ l) {system : String} {i : IdentityKey}
    (hip : i ∈ identities system p.sources) (hiq : i ∈ identities system q.sources) :
    p.sources = q.sources := by
  obtain ⟨m, hm, hyields⟩ := exists_mapper h hp
  obtain ⟨m', hm', hyields'⟩ := exists_mapper h hq
  obtain ⟨hsystem, hkind, hsource⟩ := (mem_identities_of_yields hm hyields).1 hip
  obtain ⟨hsystem', hkind', hsource'⟩ := (mem_identities_of_yields hm' hyields').1 hiq
  have hkey : m.key = m'.key := by
    rw [IdentityMapper.key, IdentityMapper.key, hsystem, hsystem', hkind, hkind']
  rw [hsource, hsource', hkey]

/-! ### Records without repeats -/

/-- The dump of HDFS is read without repeats. -/
theorem distinctNames_dumpRecords (t : FileTree) (s : Settings) (c : HdfsClass) :
    DistinctNames (dumpRecords t s c) := by
  intro rs h
  have hsorted : ∀ {names : List String},
      (((sortedDistinct names).map (HdfsIdentity.mk c)).map IdentityRecord.ofHdfs).map (·.name) =
        sortedDistinct names := by
    intro names
    rw [List.map_map, List.map_map]
    exact List.map_id _
  have hrows : ∀ {names : Except Failure (List String)},
      Source.map IdentityRecord.ofHdfs (names.bind fun names =>
        Source.ofList ((sortedDistinct names).map (HdfsIdentity.mk c))) = Source.ofList rs →
          (rs.map (·.name)).Nodup := by
    intro names h
    cases names with
    | error e => cases h
    | ok names =>
      rw [← Source.ofList_inj ((Source.map_ofList _ _).symm.trans h), hsorted]
      exact (ascending_sortedDistinct names).nodup
  rw [dumpRecords] at h
  cases c with
  | user => exact hrows h
  | group => exact hrows h
  | other =>
    rw [← Source.ofList_inj ((Source.map_ofList _ _).symm.trans h)]
    exact List.nodup_singleton _

theorem distinctNames_of_mem_hdfsKinds {k : Kind} (h : k ∈ hdfsKinds t s) :
    DistinctNames k.records := by
  simp only [hdfsKinds, List.mem_cons, List.not_mem_nil, or_false] at h
  rcases h with rfl | rfl | rfl
  · exact distinctNames_dumpRecords t s .user
  · exact distinctNames_dumpRecords t s .group
  · exact distinctNames_dumpRecords t s .other

/-! ### When the result can be indexed -/

/-- An index of a system that knows the planned kinds can be built exactly if principals that list
one of its identities agree on their target.  Otherwise a principal is a duplicate. -/
theorem exists_index_iff (h : (unmerged t s).outcome = .ok l) {system : String}
    {check : String → Except Failure Unit}
    (hcheck : ∀ k ∈ kinds t s, k.system = system → check k.kind = .ok ()) :
    ((∃ index, (build system check (Source.ofList (resolve l))).outcome = .ok index) ↔
      ∀ p ∈ l, ∀ q ∈ l, ∀ i ∈ identities system p.sources, i ∈ identities system q.sources →
        target? p = target? q) ∧
    ∀ e, (build system check (Source.ofList (resolve l))).outcome = .error e →
      ∃ key, e = .duplicatePrincipal key := by
  have hkinds : ∀ x ∈ listed system (resolve l), check x.1.identity.kind = .ok () := by
    intro x hx
    have hmem := List.mem_map_of_mem (f := fun x => x.1.identity) hx
    rw [map_identity_listed, List.mem_flatMap] at hmem
    obtain ⟨p, hp, hi⟩ := mem_identities_resolve.1 hmem
    obtain ⟨m, hm, hyields⟩ := exists_mapper h hp
    obtain ⟨hsystem, hkind, -⟩ := (mem_identities_of_yields hm hyields).1 hi
    rw [← hkind]
    exact hcheck (kindOf m) hm hsystem
  rw [outcome_build]
  constructor
  · rw [exists_insertAll_iff hkinds, map_identity_listed, nodup_identities_resolve]
    simp
  · intro e he
    obtain ⟨x, -, hx⟩ := insertAll_eq_error hkinds he
    exact ⟨_, hx⟩

/-- Principals that were made of the same identity go to the same target. -/
def Agree (l : List Principal) : Prop :=
  ∀ p ∈ l, ∀ q ∈ l, p.sources = q.sources → target? p = target? q

theorem eq_of_distinctNames (h : (unmerged t s).outcome = .ok l) {p q : Principal} (hp : p ∈ l)
    (hq : q ∈ l) (hsources : p.sources = q.sources)
    (hd : ∀ m : IdentityMapper, kindOf m ∈ kinds t s → m.Yields p → DistinctNames m.records) :
    p = q := by
  obtain ⟨m, hm, hyields, hyields'⟩ := exists_common_mapper h hp hq hsources
  exact hyields.eq_of_sources (hd m hm hyields) hyields' hsources

theorem system_of_mem_hdfsKinds {k : Kind} (h : k ∈ hdfsKinds t s) :
    k.system = "hdfs" ∧ (HdfsClass.ofKind k.kind).map (fun _ => ()) = .ok () := by
  simp only [hdfsKinds, List.mem_cons, List.not_mem_nil, or_false] at h
  rcases h with rfl | rfl | rfl <;> exact ⟨rfl, rfl⟩

theorem system_of_mem_rangerKinds {k : Kind} (h : k ∈ rangerKinds t s) :
    k.system = "ranger" ∧ (RangerKind.ofKey k.kind).map (fun _ => ()) = .ok () := by
  simp only [rangerKinds, List.mem_cons, List.not_mem_nil, or_false] at h
  rcases h with rfl | rfl | rfl <;> exact ⟨rfl, rfl⟩

theorem mem_hdfsKinds_iff {k : Kind} (h : k ∈ kinds t s) :
    k ∈ hdfsKinds t s ↔ k.system = "hdfs" := by
  refine ⟨fun hk => (system_of_mem_hdfsKinds hk).1, fun hsystem => ?_⟩
  refine (List.mem_append.1 h).resolve_right fun hk => ?_
  rw [(system_of_mem_rangerKinds hk).1] at hsystem
  exact absurd hsystem (by decide)

/-- **The principals of HDFS can always be indexed.** -/
theorem exists_index_hdfs (h : (unmerged t s).outcome = .ok l) :
    ∃ index, (HdfsMapper.index (Source.ofList (resolve l))).outcome = .ok index := by
  refine (exists_index_iff h fun k hk hsystem => ?_).1.2 fun p hp q hq i hip hiq => ?_
  · exact (system_of_mem_hdfsKinds ((mem_hdfsKinds_iff hk).2 hsystem)).2
  · have hsources := sources_eq_of_mem_identities h hp hq hip hiq
    rw [eq_of_distinctNames h hp hq hsources fun m hm hyields => ?_]
    refine distinctNames_of_mem_hdfsKinds ((mem_hdfsKinds_iff hm).2 ?_)
    exact ((mem_identities_of_yields hm hyields).1 hip).1

/-- Only principals of Ranger can disagree. -/
theorem agree_iff (h : (unmerged t s).outcome = .ok l) :
    (∀ p ∈ l, ∀ q ∈ l, ∀ i ∈ identities "ranger" p.sources, i ∈ identities "ranger" q.sources →
      target? p = target? q) ↔ Agree l := by
  constructor
  · intro hagree p hp q hq hsources
    obtain ⟨m, hm, hyields, hyields'⟩ := exists_common_mapper h hp hq hsources
    rcases List.mem_append.1 hm with hhdfs | hranger
    · rw [hyields.eq_of_sources (distinctNames_of_mem_hdfsKinds hhdfs) hyields' hsources]
    · obtain ⟨name, hname⟩ := hyields.exists_source
      have hlisted : ⟨m.kind, name⟩ ∈ identities "ranger" p.sources :=
        (mem_identities_of_yields hm hyields).2 ⟨(system_of_mem_rangerKinds hranger).1, rfl, hname⟩
      exact hagree p hp q hq _ hlisted (hsources ▸ hlisted)
  · intro hagree p hp q hq i hip hiq
    exact hagree p hp q hq (sources_eq_of_mem_identities h hp hq hip hiq)

/-- **The principals of Ranger can be indexed exactly if principals agree.** -/
theorem exists_index_ranger_iff (h : (unmerged t s).outcome = .ok l) :
    ((∃ index, (RangerMapper.index (Source.ofList (resolve l))).outcome = .ok index) ↔ Agree l) ∧
    ∀ e, (RangerMapper.index (Source.ofList (resolve l))).outcome = .error e →
      ∃ key, e = .duplicatePrincipal key := by
  rw [← agree_iff h]
  refine exists_index_iff h fun k hk hsystem => ?_
  rcases List.mem_append.1 hk with hhdfs | hranger
  · rw [(system_of_mem_hdfsKinds hhdfs).1] at hsystem
    exact absurd hsystem (by decide)
  · exact (system_of_mem_rangerKinds hranger).2

/-- **What is expanded can be indexed** for HDFS, and for Ranger exactly if principals that were
made of the same identity agree on their target.  If they do not, the failure is that of a
duplicate.  They do if no dump of Ranger repeats a name. -/
theorem index_compute (t : FileTree) (s : Settings) {ps : List Principal}
    (h : (compute t s).outcome = .ok ps) :
    (∃ index, (HdfsMapper.index (Source.ofList ps)).outcome = .ok index) ∧
    ((∃ index, (RangerMapper.index (Source.ofList ps)).outcome = .ok index) ↔
      ∀ l, (unmerged t s).outcome = .ok l → Agree l) ∧
    (∀ e, (RangerMapper.index (Source.ofList ps)).outcome = .error e →
      ∃ key, e = .duplicatePrincipal key) ∧
    ((∀ k ∈ rangerKinds t s, DistinctNames k.records) →
      ∃ index, (RangerMapper.index (Source.ofList ps)).outcome = .ok index) := by
  obtain ⟨l, hl, rfl⟩ := exists_unmerged h
  obtain ⟨hindex, hduplicate⟩ := exists_index_ranger_iff hl
  refine ⟨exists_index_hdfs hl, hindex.trans ?_, hduplicate, fun hdistinct => hindex.2 ?_⟩
  · constructor
    · intro hagree l' hl'
      rw [hl] at hl'
      cases hl'
      exact hagree
    · intro hagree
      exact hagree l hl
  · intro p hp q hq hsources
    rw [eq_of_distinctNames hl hp hq hsources fun m hm _ => ?_]
    rcases List.mem_append.1 hm with hhdfs | hranger
    · exact distinctNames_of_mem_hdfsKinds hhdfs
    · exact hdistinct (kindOf m) hranger

/-- A dump that holds one user twice, with different addresses, under a rule that maps all users. -/
def twiceTree : FileTree where
  entries := .ofList [
    (["principal-ruleset.yaml"], .file "ranger:\n  user_rules:\n  - when: true\n".toUTF8),
    (["ranger"], .directory),
    (["ranger", "users.jsonl"], .file
      ("\x7b\"name\":\"ann\",\"emailAddress\":\"ann@old.example\"\x7d\n" ++
        "\x7b\"name\":\"ann\",\"emailAddress\":\"ann@new.example\"\x7d\n").toUTF8)]
  working := []

open Unicode in
theorem isOk_index_twiceTree :
    ((compute twiceTree Settings.defaults).outcome.toOption.map fun ps =>
      (RangerMapper.index (Source.ofList ps)).outcome.isOk) = some false := by
  rw [compute]
  simp only [plan_eq]
  -- Splitting a text at a text does not compute, so all that does it is opened and rewritten.
  delta planRanger Input.rangerUsers Input.jsonLines Input.lineRecord Input.principalRuleset
    Input.document FileTree.text? FileTree.bytes? FileTree.find? FileTree.locate? Text.trim
    Text.trimStart Text.trimEnd Text.isBlank Property.holds Property.whiteSpace spaceSeparator
    CodePoints.ofText CodePointRange.ofWord
  simp only [FileTree.pathNames_eq, splitOn_slash, splitOn_dash]
  decide +kernel

theorem index_compute_twiceTree :
    ∃ ps, (compute twiceTree Settings.defaults).outcome = .ok ps ∧
      (∃ index, (HdfsMapper.index (Source.ofList ps)).outcome = .ok index) ∧
      (∃ key, (RangerMapper.index (Source.ofList ps)).outcome = .error (.duplicatePrincipal key)) ∧
      ¬ ∀ l, (unmerged twiceTree Settings.defaults).outcome = .ok l → Agree l := by
  have hfails := isOk_index_twiceTree
  cases hcompute : (compute twiceTree Settings.defaults).outcome with
  | error e =>
    rw [hcompute] at hfails
    cases hfails
  | ok ps =>
    obtain ⟨hhdfs, hranger, hduplicate, -⟩ := index_compute twiceTree Settings.defaults hcompute
    rw [hcompute] at hfails
    cases hindex : (RangerMapper.index (Source.ofList ps)).outcome with
    | ok index =>
      simp [Except.toOption, hindex, Except.isOk, Except.toBool] at hfails
    | error e =>
      obtain ⟨key, rfl⟩ := hduplicate e hindex
      refine ⟨ps, rfl, hhdfs, ⟨key, hindex⟩, fun hagree => ?_⟩
      obtain ⟨index, hok⟩ := hranger.2 hagree
      rw [hindex] at hok
      cases hok

end Expand

end Regrant
