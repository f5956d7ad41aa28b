import Regrant.Proofs.Principal.Outcome
import Regrant.Proofs.Principal.Expand

/-!
# What is looked up is what was decided

Every kind of identities with rules has its mapper in the plan (`exists_mapper_of_class`,
`exists_mapper_of_kind`), and a mapper that succeeds makes a principal of each of its records.
Merging and indexing keep what was decided for a record, so that it is found under the name of the
record (`exists_get?_of_map`).  For the identities of the dumps this is `get?_index_compute`.
-/

namespace Regrant

/-! ### Kinds of identities -/

namespace HdfsClass

/-- The kind in keys of sources. -/
def key : HdfsClass → String
  | user => "user"
  | group => "group"
  | other => "other"

/-- The type of the principals of a class, unless rules say otherwise. -/
def targetType : HdfsClass → PrincipalType
  | user => .user
  | group => .group
  | other => .domain

end HdfsClass

/-- The type of the principals of a kind, unless rules say otherwise. -/
def RangerKind.targetType : RangerKind → PrincipalType
  | user => .user
  | group => .group
  | role => .group

namespace IdentityRules

/-- The rules for a class of HDFS. -/
def ofClass (rules : IdentityRules) : HdfsClass → RuleList
  | .user => rules.user
  | .group => rules.group
  | .other => rules.third

/-- The rules for a kind of identities of Ranger. -/
def ofKind (rules : IdentityRules) : RangerKind → RuleList
  | .user => rules.user
  | .group => rules.group
  | .role => rules.third

end IdentityRules

/-! ### Records that a mapper reads -/

namespace IdentityMapper

/-- A mapper that succeeds makes a principal of each record. -/
theorem exists_map_of_run {m : IdentityMapper} {ps : List Principal} (h : m.run.outcome = .ok ps) :
    ∃ rs, m.records = Source.ofList rs ∧ ∀ r ∈ rs, ∃ p ∈ ps, (m.map r).outcome = .ok p := by
  obtain ⟨rs, hrecords, hrs⟩ := exists_records_of_run h
  refine ⟨rs, hrecords, fun r hr => ?_⟩
  have hmem : (m.map r).outcome ∈ ps.map (.ok : Principal → Except Failure Principal) := by
    rw [← hrs]
    exact List.mem_map_of_mem hr
  obtain ⟨p, hp, he⟩ := List.mem_map.1 hmem
  exact ⟨p, hp, he.symm⟩

end IdentityMapper

namespace Expand

open PrincipalIndex PrincipalMerge

variable {t : FileTree} {s : Settings} {ruleset : PrincipalRuleset} {ms : List PrincipalMapper}

/-! ### Which mappers are planned -/

/-- The records of a kind of the Ranger dump. -/
def rangerRecords (t : FileTree) (s : Settings) : RangerKind → Source IdentityRecord
  | .user => (Input.rangerUsers t s.inputs.rangerDump).map .ofUser
  | .group => (Input.rangerGroups t s.inputs.rangerDump).map .ofGroup
  | .role => (Input.rangerRoles t s.inputs.rangerDump).map .ofRole

theorem mem_hdfsKinds (c : HdfsClass) : ⟨"hdfs", c.key, dumpRecords t s c⟩ ∈ hdfsKinds t s := by
  cases c <;> simp [hdfsKinds, HdfsClass.key]

theorem mem_rangerKinds (k : RangerKind) :
    ⟨"ranger", k.key, rangerRecords t s k⟩ ∈ rangerKinds t s := by
  cases k <;> simp [rangerKinds, RangerKind.key, rangerRecords]

/-- The mapper of a class reads the dump, if there is one. -/
theorem planDump_eq {dump : String} (hdump : s.inputs.hdfsDump = some dump)
    (hfile : t.isFile dump = true) (kind : String) (type : PrincipalType) (c : HdfsClass)
    (rules : List Rule) :
    planDump t s kind type c (some rules) =
      planKind "hdfs" kind type (some rules) (dumpRecords t s c) := by
  have hfilter : s.inputs.hdfsDump.filter t.isFile = some dump := by
    rw [hdump, Option.filter_some, if_pos hfile]
  rw [dumpRecords, hdump]
  unfold planDump
  rw [hfilter]
  rfl

/-- A class with rules has its mapper, if there is a dump. -/
theorem exists_mapper_of_class (h : (plan t s ruleset).outcome = .ok ms) {rules : IdentityRules}
    (hrules : ruleset.hdfs = some rules) {c : HdfsClass} {l : List Rule}
    (hclass : rules.ofClass c = some l) {dump : String} (hdump : s.inputs.hdfsDump = some dump)
    (hfile : t.isFile dump = true) :
    ∃ compiled, RuleSet.compile [c.key] l = .ok compiled ∧
      IdentityMapper.toMapper
        ⟨"hdfs", c.key, some c.targetType, compiled, dumpRecords t s c⟩ ∈ ms := by
  obtain ⟨part, hpart, hsub⟩ : ∃ part, (planKind "hdfs" c.key c.targetType (some l)
      (dumpRecords t s c)).outcome = .ok part ∧ part ⊆ ms := by
    rw [plan_eq, hrules] at h
    obtain ⟨hdfs, hhdfs, h⟩ := Run.bind_eq_ok_iff.1 h
    obtain ⟨ranger, -, h⟩ := Run.bind_eq_ok_iff.1 h
    cases h
    obtain ⟨users, husers, hhdfs⟩ := Run.bind_eq_ok_iff.1 hhdfs
    obtain ⟨groups, hgroups, hhdfs⟩ := Run.bind_eq_ok_iff.1 hhdfs
    obtain ⟨others, hothers, hhdfs⟩ := Run.bind_eq_ok_iff.1 hhdfs
    cases hhdfs
    cases c with
    | user =>
      rw [← planDump_eq hdump hfile, ← hclass]
      exact ⟨users, husers, fun m hm => by simp [hm]⟩
    | group =>
      rw [← planDump_eq hdump hfile, ← hclass]
      exact ⟨groups, hgroups, fun m hm => by simp [hm]⟩
    | other =>
      rw [← hclass]
      exact ⟨others, hothers, fun m hm => by simp [hm]⟩
  obtain ⟨compiled, hcompiled, rfl⟩ := planKind_eq_ok hpart
  exact ⟨compiled, hcompiled, hsub (List.mem_singleton_self _)⟩

/-- A kind of identities of Ranger with rules has its mapper. -/
theorem exists_mapper_of_kind (h : (plan t s ruleset).outcome = .ok ms) {rules : IdentityRules}
    (hrules : ruleset.ranger = some rules) {k : RangerKind} {l : List Rule}
    (hkind : rules.ofKind k = some l) :
    ∃ compiled, RuleSet.compile [k.key] l = .ok compiled ∧
      IdentityMapper.toMapper
        ⟨"ranger", k.key, some k.targetType, compiled, rangerRecords t s k⟩ ∈ ms := by
  obtain ⟨part, hpart, hsub⟩ : ∃ part, (planKind "ranger" k.key k.targetType (some l)
      (rangerRecords t s k)).outcome = .ok part ∧ part ⊆ ms := by
    rw [plan_eq, hrules] at h
    obtain ⟨hdfs, -, h⟩ := Run.bind_eq_ok_iff.1 h
    obtain ⟨ranger, hranger, h⟩ := Run.bind_eq_ok_iff.1 h
    cases h
    obtain ⟨users, husers, hranger⟩ := Run.bind_eq_ok_iff.1 hranger
    obtain ⟨groups, hgroups, hranger⟩ := Run.bind_eq_ok_iff.1 hranger
    obtain ⟨roles, hroles, hranger⟩ := Run.bind_eq_ok_iff.1 hranger
    cases hranger
    rw [← hkind]
    cases k with
    | user => exact ⟨users, husers, fun m hm => by simp [hm]⟩
    | group => exact ⟨groups, hgroups, fun m hm => by simp [hm]⟩
    | role => exact ⟨roles, hroles, fun m hm => by simp [hm]⟩
  obtain ⟨compiled, hcompiled, rfl⟩ := planKind_eq_ok hpart
  exact ⟨compiled, hcompiled, hsub (List.mem_singleton_self _)⟩

/-! ### What is collected of mappers that succeed -/

/-- If all mappers succeed, nothing that they yield is lost. -/
theorem exists_collect (h : ∀ m ∈ ms, ∃ ps, m.run.outcome = .ok ps) :
    ∃ l, (collect ms).outcome = .ok l ∧
      ∀ m ∈ ms, ∀ ps, m.run.outcome = .ok ps → ps ⊆ l := by
  induction ms with
  | nil => exact ⟨[], rfl, by simp⟩
  | cons m ms ih =>
    obtain ⟨⟨ps, hps⟩, hms⟩ := List.forall_mem_cons.1 h
    obtain ⟨l, hl, hsub⟩ := ih hms
    have hprincipals : (principals m).outcome = .ok ps :=
      Run.bind_eq_ok_iff.2 ⟨.ok ps, congrArg Except.ok hps, rfl⟩
    refine ⟨ps ++ l, Run.bind_eq_ok_iff.2 ⟨ps, hprincipals, Run.bind_eq_ok_iff.2 ⟨l, hl, rfl⟩⟩,
      fun m' hm' ps' hps' => ?_⟩
    rcases List.mem_cons.1 hm' with rfl | hm'
    · rw [hps] at hps'
      cases hps'
      exact List.subset_append_left ps l
    · exact List.subset_append_of_subset_right ps (hsub m' hm' ps' hps')

/-! ### What is found -/

/-- What the mappers of a plan yield if all of them succeed, and what expanding yields then. -/
theorem exists_compute (hruleset : Input.principalRuleset t s.inputs.principalRuleset = .ok ruleset)
    (hplan : (plan t s ruleset).outcome = .ok ms)
    (hruns : ∀ m ∈ ms, ∃ ps, m.run.outcome = .ok ps) (hne : ms ≠ []) :
    ∃ l, (unmerged t s).outcome = .ok l ∧ (compute t s).outcome = .ok (resolve l) ∧
      ∀ m ∈ ms, ∀ ps, m.run.outcome = .ok ps → ps ⊆ l := by
  obtain ⟨l, hl, hsub⟩ := exists_collect hruns
  have hrun : (PrincipalMerge.run ms).outcome = .ok (resolve l) := by
    rw [PrincipalMerge.run, if_neg (by simpa using hne)]
    exact Run.bind_eq_ok_iff.2 ⟨l, hl, rfl⟩
  exact ⟨l, Run.bind_eq_ok_iff.2 ⟨ruleset, hruleset, Run.bind_eq_ok_iff.2 ⟨ms, hplan, hl⟩⟩,
    Run.bind_eq_ok_iff.2 ⟨ruleset, hruleset, Run.bind_eq_ok_iff.2 ⟨ms, hplan, hrun⟩⟩, hsub⟩

variable {l : List Principal}

/-- **What was decided for a record is found under its name**, in an index of the system. -/
theorem exists_get?_of_map (hl : (unmerged t s).outcome = .ok l)
    (hdistinct : ∀ k ∈ kinds t s, DistinctNames k.records) {m : IdentityMapper}
    (hm : kindOf m ∈ kinds t s) {type : PrincipalType} {rules : List Rule}
    (hrules : RuleSet.compile [m.kind] rules = .ok m.rules) (htype : m.defaultType = some type)
    {r : IdentityRecord} {p : Principal} (hmap : (m.map r).outcome = .ok p) (hyields : m.Yields p)
    (hp : p ∈ l) {check : String → Except Failure Unit} {index : PrincipalIndex}
    (hindex : (build m.system check (Source.ofList (resolve l))).outcome = .ok index) :
    ∃ p', index.get? ⟨m.kind, r.name⟩ = some p' ∧ Decided m.kind type rules r p' := by
  have hsources := IdentityMapper.sources_of_map hmap
  have hi : ⟨m.kind, r.name⟩ ∈ identities m.system p.sources :=
    (mem_identities_of_yields hm hyields).2 ⟨rfl, rfl, hsources⟩
  have hagree : ∀ q ∈ l, ⟨m.kind, r.name⟩ ∈ identities m.system q.sources →
      target? q = target? p := by
    intro q hq hiq
    rw [eq_of_distinctNames hl hq hp (sources_eq_of_mem_identities hl hq hp hiq hi)
      fun m' hm' _ => hdistinct _ hm']
  obtain ⟨p', hget, hsettled', htarget⟩ := exists_get?_of_build_resolve hindex hagree hp hi
  have hsettled := IdentityMapper.settled_of_map hmap
  refine ⟨p', hget, (IdentityMapper.decided_of_map hrules htype hmap).congr ?_ ?_⟩
  · rw [hsettled'.skip, hsettled.skip, htarget]
  · rw [hsettled'.identity?, hsettled.identity?, htarget]

/-- What was decided for the records of a planned mapper is found, if all mappers succeed. -/
theorem exists_records_of_mem_plan
    (hruleset : Input.principalRuleset t s.inputs.principalRuleset = .ok ruleset)
    (hplan : (plan t s ruleset).outcome = .ok ms) (hruns : ∀ m ∈ ms, ∃ ps, m.run.outcome = .ok ps)
    (hdistinct : ∀ k ∈ kinds t s, DistinctNames k.records) {m : IdentityMapper}
    (hmem : m.toMapper ∈ ms) (hm : kindOf m ∈ kinds t s) {type : PrincipalType} {rules : List Rule}
    (hrules : RuleSet.compile [m.kind] rules = .ok m.rules) (htype : m.defaultType = some type) :
    ∃ l rs, (unmerged t s).outcome = .ok l ∧ (compute t s).outcome = .ok (resolve l) ∧
      m.records = Source.ofList rs ∧
      ∀ r ∈ rs, ∀ (check : String → Except Failure Unit) (index : PrincipalIndex),
        (build m.system check (Source.ofList (resolve l))).outcome = .ok index →
          ∃ p, index.get? ⟨m.kind, r.name⟩ = some p ∧ Decided m.kind type rules r p := by
  obtain ⟨l, hl, hcompute, hsub⟩ := exists_compute hruleset hplan hruns (List.ne_nil_of_mem hmem)
  obtain ⟨ps, hps⟩ := hruns _ hmem
  obtain ⟨rs, hrecords, hmap⟩ := IdentityMapper.exists_map_of_run hps
  refine ⟨l, rs, hl, hcompute, hrecords, fun r hr check index hindex => ?_⟩
  obtain ⟨p, hp, hr⟩ := hmap r hr
  exact exists_get?_of_map hl hdistinct hm hrules htype hr (IdentityMapper.yields_of_run hps hp)
    (hsub _ hmem ps hps hp) hindex

/-! ### The identities of the dumps -/

/-- A row of the HDFS dump. -/
def DumpHolds (t : FileTree) (s : Settings) (row : HdfsPermission) : Prop :=
  ∃ dump rows, s.inputs.hdfsDump = some dump ∧ Input.hdfsPermissions t dump = .ok rows ∧
    .ok row ∈ rows

/-- An identity of a kind in the Ranger dump. -/
def RangerHolds (t : FileTree) (s : Settings) (k : RangerKind) (r : IdentityRecord) : Prop :=
  ∃ records, rangerRecords t s k = .ok records ∧ .ok r ∈ records

theorem DumpHolds.exists_file {row : HdfsPermission} (h : DumpHolds t s row) :
    ∃ dump, s.inputs.hdfsDump = some dump ∧ t.isFile dump = true := by
  obtain ⟨dump, rows, hdump, hrows, hrow⟩ := h
  refine ⟨dump, hdump, ?_⟩
  rw [Input.hdfsPermissions] at hrows
  rw [FileTree.isFile, FileTree.bytes?]
  cases hfind : t.find? dump with
  | none =>
    rw [hfind] at hrows
    cases hrows
  | some node =>
    rw [hfind] at hrows
    cases node with
    | directory =>
      cases hrows
      cases hrow
    | file bytes => rfl

/-- The distinct holders of a class on some rows are those on each row. -/
theorem mem_holders {rows : List (Except Failure HdfsPermission)} {row : HdfsPermission}
    (hrow : .ok row ∈ rows) {c : HdfsClass} {rs : List IdentityRecord}
    (h : Source.map .ofHdfs ((Source.collect (.ok rows) fun p => .ok (p.identity c).name).bind
      fun names => Source.ofList ((sortedDistinct names).map (HdfsIdentity.mk c))) =
        Source.ofList rs) : .ofHdfs ⟨c, (row.identity c).name⟩ ∈ rs := by
  cases hnames : Source.collect (.ok rows) fun p => .ok (p.identity c).name with
  | error e =>
    rw [hnames] at h
    cases h
  | ok names =>
    rw [hnames] at h
    replace h : Source.map .ofHdfs
      (Source.ofList ((sortedDistinct names).map (HdfsIdentity.mk c))) = Source.ofList rs := h
    rw [Source.map_ofList] at h
    obtain ⟨name, hname, he⟩ := Source.mem_of_traverse hnames hrow
    cases he
    rw [← Source.ofList_inj h]
    exact List.mem_map_of_mem (List.mem_map_of_mem (mem_sortedDistinct.2 hname))

/-- The holders of a class on all rows are among its records. -/
theorem DumpHolds.mem_dumpRecords {row : HdfsPermission} (h : DumpHolds t s row) {c : HdfsClass}
    {rs : List IdentityRecord} (hrs : dumpRecords t s c = Source.ofList rs) :
    .ofHdfs (row.identity c) ∈ rs := by
  obtain ⟨dump, rows, hdump, hrows, hrow⟩ := h
  rw [dumpRecords, hdump, Option.getD_some] at hrs
  cases c with
  | user =>
    unfold Input.hdfsIdentities at hrs
    rw [hrows] at hrs
    exact mem_holders hrow hrs
  | group =>
    unfold Input.hdfsIdentities at hrs
    rw [hrows] at hrs
    exact mem_holders hrow hrs
  | other =>
    rw [Input.hdfsIdentities, Source.map_ofList] at hrs
    rw [← Source.ofList_inj hrs]
    exact List.mem_singleton.2 rfl

/-- **What expanding decides is what is looked up.**  If all planned mappers succeed and no dump of
Ranger repeats a name, an index of the expanded principals resolves the holder of each class with
rules on each row of the HDFS dump, and each identity of a kind with rules in the Ranger dump, and
to what the first rule that applies to it decides. -/
theorem get?_index_compute
    (hruleset : Input.principalRuleset t s.inputs.principalRuleset = .ok ruleset)
    (hplan : (plan t s ruleset).outcome = .ok ms) (hruns : ∀ m ∈ ms, ∃ ps, m.run.outcome = .ok ps)
    (hdistinct : ∀ k, DistinctNames (rangerRecords t s k)) :
    (∀ rules ∈ ruleset.hdfs, ∀ (c : HdfsClass), ∀ l ∈ rules.ofClass c, ∀ row, DumpHolds t s row →
      ∃ ps index p, (compute t s).outcome = .ok ps ∧
        (HdfsMapper.index (Source.ofList ps)).outcome = .ok index ∧
        index.get? ⟨c.key, (row.identity c).name⟩ = some p ∧
        Decided c.key c.targetType l (.ofHdfs (row.identity c)) p) ∧
    (∀ rules ∈ ruleset.ranger, ∀ (k : RangerKind), ∀ l ∈ rules.ofKind k, ∀ r, RangerHolds t s k r →
      ∃ ps index p, (compute t s).outcome = .ok ps ∧
        (RangerMapper.index (Source.ofList ps)).outcome = .ok index ∧
        index.get? ⟨k.key, r.name⟩ = some p ∧ Decided k.key k.targetType l r p) := by
  have hall : ∀ k ∈ kinds t s, DistinctNames k.records := by
    intro k hk
    rcases List.mem_append.1 hk with hk | hk
    · exact distinctNames_of_mem_hdfsKinds hk
    · simp only [rangerKinds, List.mem_cons, List.not_mem_nil, or_false] at hk
      rcases hk with rfl | rfl | rfl
      · exact hdistinct .user
      · exact hdistinct .group
      · exact hdistinct .role
  constructor
  · intro rules hrules c l hl row hrow
    obtain ⟨dump, hdump, hfile⟩ := hrow.exists_file
    obtain ⟨compiled, hcompiled, hmem⟩ := exists_mapper_of_class hplan hrules hl hdump hfile
    obtain ⟨ps, rs, hps, hcompute, hrecords, hfound⟩ :=
      exists_records_of_mem_plan hruleset hplan hruns hall hmem
        (List.mem_append_left _ (mem_hdfsKinds c)) hcompiled rfl
    obtain ⟨index, hindex⟩ := exists_index_hdfs hps
    obtain ⟨p, hp, hdecided⟩ := hfound _ (hrow.mem_dumpRecords hrecords) _ index hindex
    exact ⟨_, index, p, hcompute, hindex, hp, hdecided⟩
  · intro rules hrules k l hl r hr
    obtain ⟨compiled, hcompiled, hmem⟩ := exists_mapper_of_kind hplan hrules hl
    obtain ⟨ps, rs, hps, hcompute, hrecords, hfound⟩ :=
      exists_records_of_mem_plan hruleset hplan hruns hall hmem
        (List.mem_append_right _ (mem_rangerKinds k)) hcompiled rfl
    have hagree : Agree ps := by
      intro p hp q hq hsources
      rw [eq_of_distinctNames hps hp hq hsources fun m hm _ => hall _ hm]
    obtain ⟨index, hindex⟩ := (exists_index_ranger_iff hps).1.2 hagree
    obtain ⟨records, hopen, hr⟩ := hr
    rw [show rangerRecords t s k = Source.ofList rs from hrecords] at hopen
    cases hopen
    obtain ⟨r', hr', he⟩ := List.mem_map.1 hr
    cases he
    obtain ⟨p, hp, hdecided⟩ := hfound r hr' _ index hindex
    exact ⟨_, index, p, hcompute, hindex, hp, hdecided⟩

/-- Two dumps with one user each, of which those of HDFS are skipped. -/
def staffTree : FileTree where
  entries := .ofList [
    (["hdfs.csv"], .file "Path,Owner,Group,Permission\n/a,alice,staff,rwxr-x---\n".toUTF8),
    (["principal-ruleset.yaml"], .file
      "hdfs:\n  user_rules:\n  - skip: true\nranger:\n  user_rules:\n  - when: true\n".toUTF8),
    (["ranger"], .directory),
    (["ranger", "users.jsonl"], .file
      "\x7b\"name\":\"ann\",\"emailAddress\":\"ann@example.org\"\x7d\n".toUTF8)]
  working := []

def staffSettings : Settings :=
  { Settings.defaults with
    inputs := { Settings.defaults.inputs with hdfsDump := some "hdfs.csv" } }

open Unicode in
/-- What is planned for these dumps succeeds, and who is in them. -/
theorem staffTree_holds :
    ((Input.principalRuleset staffTree "principal-ruleset.yaml").toOption.bind fun ruleset =>
      (plan staffTree staffSettings ruleset).outcome.toOption.map fun ms =>
        (ms.all (·.run.outcome.isOk), (ruleset.hdfs.bind (·.user)).map (·.map (·.skip)),
          (ruleset.ranger.bind (·.user)).map (·.map (·.skip)))) =
        some (true, some [true], some [false]) ∧
    ((Input.hdfsPermissions staffTree "hdfs.csv").toOption.map (·.map (·.toOption.map (·.owner)))) =
      some [some "alice"] ∧
    ([RangerKind.user, .group, .role].map fun k =>
      (rangerRecords staffTree staffSettings k).toOption.map (·.map (·.toOption.map (·.name)))) =
        [some [some "ann"], none, none] := by
  simp only [plan_eq]
  -- Splitting a text at a text does not compute, so all that does it is opened and rewritten.
  delta planHdfs planRanger planDump rangerRecords Input.rangerUsers Input.rangerGroups
    Input.rangerRoles Input.jsonLines Input.lineRecord Input.hdfsIdentities Input.hdfsPermissions
    Input.principalRuleset Input.document FileTree.text? FileTree.isFile FileTree.bytes?
    FileTree.find? FileTree.locate? Csv.rows Csv.texts? Text.trim Text.trimStart Text.trimEnd
    Text.isBlank Property.holds Property.whiteSpace spaceSeparator CodePoints.ofText
    CodePointRange.ofWord
  simp only [FileTree.pathNames_eq, splitOn_slash, splitOn_dash]
  decide +kernel

theorem get?_index_compute_staffTree :
    ∃ ps hdfs ranger p q, (compute staffTree staffSettings).outcome = .ok ps ∧
      (HdfsMapper.index (Source.ofList ps)).outcome = .ok hdfs ∧
      hdfs.get? ⟨"user", "alice"⟩ = some p ∧ p.skip = true ∧
      (RangerMapper.index (Source.ofList ps)).outcome = .ok ranger ∧
      ranger.get? ⟨"user", "ann"⟩ = some q ∧ q.skip = false := by
  obtain ⟨hplan, hrows, hrecords⟩ := staffTree_holds
  obtain ⟨ruleset, hruleset, hplan⟩ := Option.bind_eq_some_iff.1 hplan
  obtain ⟨ms, hms, hplan⟩ := Option.map_eq_some_iff.1 hplan
  obtain ⟨hruns, hhdfs, hranger⟩ : _ ∧ _ ∧ _ := by simpa only [Prod.mk.injEq] using hplan
  obtain ⟨hdfsList, hhdfs, hhdfsSkip⟩ := Option.map_eq_some_iff.1 hhdfs
  obtain ⟨hdfsRules, hhdfs, hhdfsUser⟩ := Option.bind_eq_some_iff.1 hhdfs
  obtain ⟨rangerList, hranger, hrangerSkip⟩ := Option.map_eq_some_iff.1 hranger
  obtain ⟨rangerRules, hranger, hrangerUser⟩ := Option.bind_eq_some_iff.1 hranger
  obtain ⟨rows, hopen, hrows⟩ := Option.map_eq_some_iff.1 hrows
  obtain ⟨row?, rfl, hrow⟩ := List.map_eq_singleton_iff.1 hrows
  obtain ⟨row, hrow, howner⟩ := Option.map_eq_some_iff.1 hrow
  simp only [List.map_cons, List.map_nil, List.cons.injEq, and_true] at hrecords
  obtain ⟨husers, hgroups, hroles⟩ := hrecords
  obtain ⟨users, husers, hann⟩ := Option.map_eq_some_iff.1 husers
  obtain ⟨user?, rfl, huser⟩ := List.map_eq_singleton_iff.1 hann
  obtain ⟨user, huser, hname⟩ := Option.map_eq_some_iff.1 huser
  obtain rfl := eq_ok_of_toOption hrow
  obtain rfl := eq_ok_of_toOption huser
  have hdistinct : ∀ k, DistinctNames (rangerRecords staffTree staffSettings k) := by
    intro k rs hrs
    cases k with
    | user =>
      rw [hrs] at husers
      cases rs with
      | nil => cases husers
      | cons r rs =>
        cases rs with
        | nil => exact List.nodup_singleton _
        | cons r' rs => cases husers
    | group => rw [hrs] at hgroups; cases hgroups
    | role => rw [hrs] at hroles; cases hroles
  obtain ⟨hrow, huser⟩ := get?_index_compute (eq_ok_of_toOption hruleset) (eq_ok_of_toOption hms)
    (fun m hm => exists_ok_of_isOk (List.all_eq_true.1 hruns m hm)) hdistinct
  obtain ⟨ps, hdfs, p, hps, hhdfsIndex, hp, rule, hfirst, hskip, -⟩ :=
    hrow hdfsRules hhdfs .user hdfsList hhdfsUser row
      ⟨"hdfs.csv", [.ok row], rfl, eq_ok_of_toOption hopen, List.mem_singleton_self _⟩
  obtain ⟨ps', ranger, q, hps', hrangerIndex, hq, rule', hfirst', hskip', -⟩ :=
    huser rangerRules hranger .user rangerList hrangerUser user
      ⟨[.ok user], eq_ok_of_toOption husers, List.mem_singleton_self _⟩
  rw [hps] at hps'
  cases hps'
  have hmem := List.mem_map_of_mem (f := Rule.skip) hfirst.mem
  have hmem' := List.mem_map_of_mem (f := Rule.skip) hfirst'.mem
  rw [hhdfsSkip] at hmem
  rw [hrangerSkip] at hmem'
  refine ⟨ps, hdfs, ranger, p, q, hps, hhdfsIndex, ?_, ?_, hrangerIndex, ?_, ?_⟩
  · rw [← howner]
    exact hp
  · rw [hskip, List.mem_singleton.1 hmem]
  · rw [← hname]
    exact hq
  · rw [hskip', List.mem_singleton.1 hmem']

end Expand

end Regrant
