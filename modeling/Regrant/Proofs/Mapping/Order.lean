import Regrant.Proofs.Mapping.Built
import Regrant.Proofs.Mapping.Proposed
import Regrant.Proofs.Merge.Order
import Regrant.Proofs.Principal.Index

/-!
# The order of records

Mappers read lists of records, and what they yield does not depend on how these are ordered.  An
index finds the same principals.  An HDFS mapper joins by paths, and of distinct paths there is at
most one pair for each, so it considers the same classes in the same order
(`HdfsMapper.considered_perm`).  A Ranger mapper goes through tables and policies as they are listed,
so it names the same identities in another order (`RangerMapper.entries_perm`).  Every decision is
made on one entry alone, and the merge only reorders the records (`run_reordered`).
-/

namespace Regrant

/-- The members of a list that have one of several distinct keys. -/
theorem filter_eq_of_perm {α κ : Type} [DecidableEq κ] {f : α → κ} {l l' : List α}
    (h : l.Perm l') (hd : (l.map f).Nodup) (k : κ) :
    l.filter (fun a => f a = k) = l'.filter (fun a => f a = k) := by
  have hperm := h.filter fun a => decide (f a = k)
  have hkey : ∀ a ∈ l.filter (fun a => f a = k), f a = k := fun a ha =>
    of_decide_eq_true (List.mem_filter.1 ha).2
  have hnodup : ((l.filter fun a => f a = k).map f).Nodup := hd.sublist (List.filter_sublist.map f)
  revert hperm hkey hnodup
  -- There is at most one such member.
  rcases l.filter (fun a => decide (f a = k)) with _ | ⟨a, _ | ⟨b, rest⟩⟩
  · exact fun hperm _ _ => hperm.nil_eq
  · exact fun hperm _ _ => List.singleton_perm.1 hperm
  · intro _ hkey hnodup
    have hab : f a = f b := (hkey a (by simp)).trans (hkey b (by simp)).symm
    simp [hab] at hnodup

/-! ### Rows of the dump -/

namespace HdfsMapper

variable {path : Table → String} {tables tables' : List Table} {rows rows' : List HdfsPermission}

/-- **Distinct paths are considered in one order.** -/
theorem considered_perm (htables : tables.Perm tables') (hrows : rows.Perm rows')
    (hpaths : (tables.map path).Nodup) (hpaths' : (rows.map (·.path)).Nodup) :
    considered path tables rows = considered path tables' rows' := by
  have hpairs : ∀ k, pairsAt path (·.path) tables rows k = pairsAt path (·.path) tables' rows' k := by
    intro k
    rw [pairsAt, pairsAt, filter_eq_of_perm htables hpaths, filter_eq_of_perm hrows hpaths']
  rw [considered, considered, sortedDistinct_perm ((htables.map path).append (hrows.map (·.path)))]
  simp only [hpairs]

/-- A run that succeeds has found the paths of all tables. -/
theorem exists_path_of_run {m : HdfsMapper} (htables : m.tables = Source.ofList tables)
    {vs : List Verdict} (h : m.run.outcome = .ok vs) :
    ∃ path : Table → String, ∀ t ∈ tables, t.fsPath = .ok (path t) := by
  obtain ⟨sorted, hsorted, -⟩ := Run.bind_eq_ok_iff.1 h
  rw [Run.outcome_ofExcept, sortedTables, htables] at hsorted
  obtain ⟨found, hfound, -⟩ := exceptMap_eq_ok_iff.1 hsorted
  refine ⟨fun t => t.fsPath.toOption.getD "", fun t ht => ?_⟩
  obtain ⟨e, -, he⟩ := Source.mem_of_traverse hfound (List.mem_map_of_mem ht)
  obtain ⟨p, hp, -⟩ := exceptMap_eq_ok_iff.1 he
  show t.fsPath = .ok (t.fsPath.toOption.getD "")
  rw [hp]
  rfl

/-- **The order of tables and rows does not matter.** -/
theorem outcome_run_perm {m : HdfsMapper} (hm : m.tables = Source.ofList tables)
    (hm' : m.permissions = Source.ofList rows) (htables : tables.Perm tables')
    (hrows : rows.Perm rows')
    (hd : tables.Pairwise fun t t' => ∀ path, t.fsPath = .ok path → t'.fsPath ≠ .ok path)
    (hd' : rows.Pairwise fun p p' => p.path ≠ p'.path) {vs : List Verdict}
    (h : m.run.outcome = .ok vs) :
    ({ m with tables := .ofList tables', permissions := .ofList rows' } :
      HdfsMapper).run.outcome = .ok vs := by
  obtain ⟨path, hpath⟩ := exists_path_of_run hm h
  have hpaths : (tables.map path).Nodup := by
    rw [List.nodup_iff_pairwise_ne, List.pairwise_map]
    refine hd.imp_of_mem fun {t t'} ht ht' hne heq => ?_
    exact hne (path t) (hpath t ht) (heq ▸ hpath t' ht')
  have hpaths' : (rows.map (·.path)).Nodup := List.pairwise_map.2 hd'
  rw [outcome_run _ rfl rfl fun t ht => hpath t (htables.mem_iff.2 ht),
    ← considered_perm htables hrows hpaths hpaths']
  exact (m.outcome_run hm hm' hpath).symm.trans h

end HdfsMapper

/-! ### Policies -/

namespace RangerMapper

theorem governing_perm {plugin : RangerPlugin} {services services' : List RangerService}
    {policies policies' : List Policy} (hservices : services.Perm services')
    (hpolicies : policies.Perm policies') :
    (governing plugin services policies).Perm (governing plugin services' policies') := by
  have hnames := (hservices.filter (·.type = plugin.serviceType)).map (·.name)
  have hkept : governing plugin services policies = governing plugin services' policies := by
    refine List.filter_congr fun p _ => ?_
    congr 1
    exact Bool.eq_iff_iff.2 (by rw [List.contains_iff_mem, List.contains_iff_mem, hnames.mem_iff])
  rw [hkept]
  exact hpolicies.filter _

variable {m : RangerMapper} {tables tables' : List Table} {ps ps' : List Policy}

/-- The same mapper of other tables and policies. -/
def ofLists (m : RangerMapper) (tables : List Table) (ps : List Policy) : RangerMapper :=
  { m with tables := .ofList tables, policies := number ps (ps.map m.plugin.extent) }

/-- **Other orders of tables and policies are another order of entries.** -/
theorem entries_perm (htables : tables.Perm tables') (hps : ps.Perm ps') :
    (m.ofLists tables ps).entries.Perm (m.ofLists tables' ps').entries := by
  have hon : ∀ s, ((m.ofLists tables ps).entriesOn s).Perm
      ((m.ofLists tables' ps').entriesOn s) := by
    intro s
    rw [entriesOn_eq rfl, entriesOn_eq rfl]
    exact (hps.filter _).flatMap_right _
  have hof : ∀ t?, ((m.ofLists tables ps).entriesOf t?).Perm
      ((m.ofLists tables' ps').entriesOf t?) := by
    intro t?
    cases t? with
    | error e => exact .refl _
    | ok t =>
      rw [entriesOf, entriesOf, show (m.ofLists tables' ps').target = m.target from rfl,
        show (m.ofLists tables ps).target = m.target from rfl]
      split
      · exact .refl _
      · split
        · exact .refl _
        · exact (hon _).map _
  exact (List.Perm.flatMap_left (tables.map Except.ok) fun t? _ => hof t?).trans
    ((htables.map _).flatMap_right _)

/-- The order of tables and policies is an order of verdicts. -/
theorem outcome_run_perm (htables : tables.Perm tables') (hps : ps.Perm ps') {vs : List Verdict}
    (h : (m.ofLists tables ps).run.outcome = .ok vs) :
    ∃ vs', (m.ofLists tables' ps').run.outcome = .ok vs' ∧ vs.Perm vs' := by
  rw [outcome_run] at h ⊢
  exact gathered_perm ((entries_perm htables hps).map _) h

end RangerMapper

/-! ### Mappers of lists of records -/

/-- The records that mappers read. -/
structure Records where
  tables : List Table
  rows : List HdfsPermission
  principals : List Principal
  services : List RangerService
  policies : List Policy

namespace Records

/-- The same records in another order. -/
structure Permuted (r r' : Records) : Prop where
  tables : r.tables.Perm r'.tables
  rows : r.rows.Perm r'.rows
  principals : r.principals.Perm r'.principals
  services : r.services.Perm r'.services
  policies : r.policies.Perm r'.policies

/-- No two tables lie at one path, and no two rows of the dump are for one path. -/
structure Distinct (r : Records) : Prop where
  tables : r.tables.Pairwise fun t t' => ∀ path, t.fsPath = .ok path → t'.fsPath ≠ .ok path
  rows : r.rows.Pairwise fun p p' => p.path ≠ p'.path

end Records

/-- What a mapper is, apart from the records that it reads. -/
inductive MapperKind where
  | hdfs (target : Target) (roles : TargetRoles) (rules : List Rule)
  | ranger (plugin : RangerPlugin) (target : Target) (roles : TargetRoles) (rules : List Rule)

def MapperKind.build (r : Records) : MapperKind → Run SystemMapper
  | hdfs target roles rules => do
    let m ← HdfsMapper.build target roles rules (.ofList r.tables) (.ofList r.rows)
      (.ofList r.principals)
    return .hdfs m
  | ranger plugin target roles rules => do
    let m ← RangerMapper.build plugin target roles rules (.ofList r.tables) (.ofList r.principals)
      (.ofList r.services) (.ofList r.policies)
    return .ranger m

section

variable {r r' : Records} {target : Target} {roles : TargetRoles} {rules : List Rule}

/-- An HDFS mapper of permuted records has the same rules and principals. -/
theorem HdfsMapper.build_permuted (h : r.Permuted r') {m : HdfsMapper}
    (hm : (build target roles rules (.ofList r.tables) (.ofList r.rows)
      (.ofList r.principals)).outcome = .ok m) :
    m.tables = .ofList r.tables ∧ m.permissions = .ofList r.rows ∧
      (build target roles rules (.ofList r'.tables) (.ofList r'.rows)
        (.ofList r'.principals)).outcome =
          .ok { m with tables := .ofList r'.tables, permissions := .ofList r'.rows } := by
  obtain ⟨judge, known, hjudge, hknown, rfl⟩ := build_eq_ok_iff.1 hm
  refine ⟨rfl, rfl, build_eq_ok_iff.2 ⟨judge, known, hjudge, ?_, rfl⟩⟩
  exact PrincipalIndex.build_perm h.principals hknown

/-- A Ranger mapper of permuted records has the same rules and principals. -/
theorem RangerMapper.build_permuted {plugin : RangerPlugin} (h : r.Permuted r') {m : RangerMapper}
    (hm : (build plugin target roles rules (.ofList r.tables) (.ofList r.principals)
      (.ofList r.services) (.ofList r.policies)).outcome = .ok m) :
    m = m.ofLists r.tables (governing plugin r.services r.policies) ∧
      (build plugin target roles rules (.ofList r'.tables) (.ofList r'.principals)
        (.ofList r'.services) (.ofList r'.policies)).outcome =
          .ok (m.ofLists r'.tables (governing plugin r'.services r'.policies)) := by
  obtain ⟨judge, known, services, policies, hjudge, hknown, hservices, hpolicies, rfl⟩ :=
    build_eq_ok_iff.1 hm
  rw [Source.all_ofList] at hservices hpolicies
  cases hservices
  cases hpolicies
  refine ⟨rfl, build_eq_ok_iff.2 ⟨judge, known, r'.services, r'.policies, hjudge, ?_,
    Source.all_ofList _, Source.all_ofList _, rfl⟩⟩
  exact PrincipalIndex.build_perm h.principals hknown

/-- **A mapper of permuted records yields the same verdicts in another order.** -/
theorem MapperKind.exists_build_of_permuted {k : MapperKind} (h : r.Permuted r')
    (hd : r.Distinct) {m : SystemMapper} (hm : (k.build r).outcome = .ok m) {vs : List Verdict}
    (hvs : m.toMapper.run.outcome = .ok vs) :
    ∃ m' vs', (k.build r').outcome = .ok m' ∧ m'.toMapper.run.outcome = .ok vs' ∧ vs.Perm vs' := by
  cases k with
  | hdfs target roles rules =>
    obtain ⟨m, hbuild, hm⟩ := Run.bind_eq_ok_iff.1 hm
    cases hm
    obtain ⟨htables, hrows, hbuild'⟩ := HdfsMapper.build_permuted h hbuild
    exact ⟨_, vs, Run.bind_eq_ok_iff.2 ⟨_, hbuild', rfl⟩,
      HdfsMapper.outcome_run_perm htables hrows h.tables h.rows hd.tables hd.rows hvs, .refl _⟩
  | ranger plugin target roles rules =>
    obtain ⟨m, hbuild, hm⟩ := Run.bind_eq_ok_iff.1 hm
    cases hm
    obtain ⟨hself, hbuild'⟩ := RangerMapper.build_permuted h hbuild
    have hrun : m.run.outcome = .ok vs := hvs
    rw [hself] at hrun
    obtain ⟨vs', hvs', hperm⟩ := RangerMapper.outcome_run_perm h.tables
      (RangerMapper.governing_perm h.services h.policies) hrun
    exact ⟨_, vs', Run.bind_eq_ok_iff.2 ⟨_, hbuild', rfl⟩, hvs', hperm⟩

end

/-- A mapper that is to be built. -/
structure MapperPlan where
  kind : MapperKind
  records : Records

namespace MapperPlan

/-- The mapper can be built, and it succeeds. -/
def Succeeds (p : MapperPlan) (m : SystemMapper) : Prop :=
  (p.kind.build p.records).outcome = .ok m ∧ ∃ vs, m.toMapper.run.outcome = .ok vs

/-- The same mapper of the same records in another order. -/
structure Permuted (p p' : MapperPlan) : Prop where
  kind : p.kind = p'.kind
  records : p.records.Permuted p'.records

theorem exists_forall₂_succeeds {plans plans' : List MapperPlan} {ms : List SystemMapper}
    (h : List.Forall₂ Permuted plans plans') (hd : ∀ p ∈ plans, p.records.Distinct)
    (hms : List.Forall₂ Succeeds plans ms) :
    ∃ ms', List.Forall₂ Succeeds plans' ms' ∧
      List.Forall₂ Merge.SameVerdicts (ms.map (·.toMapper)) (ms'.map (·.toMapper)) := by
  induction h generalizing ms with
  | nil =>
    cases hms
    exact ⟨[], .nil, .nil⟩
  | cons hp _ ih =>
    obtain ⟨hdp, hd⟩ := List.forall_mem_cons.1 hd
    obtain _ | ⟨⟨hm, vs, hvs⟩, hms⟩ := hms
    obtain ⟨m', vs', hm', hvs', hperm⟩ :=
      MapperKind.exists_build_of_permuted hp.records hdp hm hvs
    obtain ⟨ms', hms', hrest⟩ := ih hd hms
    exact ⟨m' :: ms', .cons ⟨hp.kind ▸ hm', vs', hvs'⟩ hms', .cons ⟨vs, vs', hvs, hvs', hperm⟩ hrest⟩

end MapperPlan

/-- **The order of records does not matter.**  If mappers of lists of records, in which no path comes
twice, can be built and succeed, then so can and do mappers of permuted lists, and the merge yields
the same bindings but for the order of their records. -/
theorem run_reordered {plans plans' : List MapperPlan} {ms : List SystemMapper}
    (h : List.Forall₂ MapperPlan.Permuted plans plans') (hd : ∀ p ∈ plans, p.records.Distinct)
    (hms : List.Forall₂ MapperPlan.Succeeds plans ms) :
    ∃ ms', List.Forall₂ MapperPlan.Succeeds plans' ms' ∧ (ms ≠ [] → ∀ roles, ∃ bs bs',
      (Merge.run (ms.map (·.toMapper)) roles).outcome = .ok bs ∧
      (Merge.run (ms'.map (·.toMapper)) roles).outcome = .ok bs' ∧
      List.Forall₂ IamBinding.Reordered bs bs') := by
  obtain ⟨ms', hms', hsame⟩ := MapperPlan.exists_forall₂_succeeds h hd hms
  refine ⟨ms', hms', fun hne roles => ?_⟩
  obtain ⟨cs, cs', hcs, hcs', hperm⟩ := Merge.collect_perm hsame
  have haligned : ∀ c ∈ cs, c.Aligned := by
    intro c hc
    obtain ⟨_, hm, hmaps⟩ := (Merge.mem_collect_iff hcs).1 hc
    obtain ⟨m, -, rfl⟩ := List.mem_map.1 hm
    exact (SystemMapper.isProposed_of_maps hmaps).aligned
  have hmappers : ms.map (·.toMapper) ≠ [] := by simpa using hne
  have hmappers' : ms'.map (·.toMapper) ≠ [] := by
    rw [← List.length_pos_iff, ← hsame.length_eq]
    exact List.length_pos_iff.2 hmappers
  exact ⟨_, _, Merge.run_eq_ok_iff.2 ⟨hmappers, cs, hcs, rfl⟩,
    Merge.run_eq_ok_iff.2 ⟨hmappers', cs', hcs', rfl⟩, Merge.resolve_perm hperm haligned⟩

/-- Two tables and two rows, and two policies of two services that grant the same. -/
def pairedRecords : Records :=
  let table (name : String) : Table :=
    ⟨name, "s", "/" ++ name, some ("gs://b/" ++ name), some ("p.s." ++ name)⟩
  let row (path : String) : HdfsPermission :=
    { (default : HdfsPermission) with path := path, owner := "bob", mode := "r--------" }
  let service (name : String) : RangerService :=
    { (default : RangerService) with name := name, type := "hive" }
  let policy (service : String) : Policy :=
    { (default : Policy) with
      service := service, name := service, serviceType := some "hive", type := some 0
      enabled := true, resources := some (.ofList [("database", ⟨["s"], false, false⟩)])
      items := [⟨[⟨"select", true⟩], ["bob"], [], [], [], false⟩] }
  { tables := [table "t", table "u"]
    rows := [row "/t", row "/u"]
    principals := [.mapped .user "bob@example.org" "hdfs/user" "bob",
      .mapped .user "bob@example.org" "ranger/user" "bob"]
    services := [service "a", service "b"]
    policies := [policy "a", policy "b"] }

/-- All lists in reverse. -/
def Records.reverse (r : Records) : Records :=
  ⟨r.tables.reverse, r.rows.reverse, r.principals.reverse, r.services.reverse, r.policies.reverse⟩

/-- A mapper of rows for one target and a mapper of policies for the other. -/
def pairedPlans (r : Records) : List MapperPlan :=
  [⟨.hdfs .gcs ⟨"viewer", "editor"⟩ [⟨"true", "false", false, none⟩], r⟩,
    ⟨.ranger .hive .bq ⟨"viewer", "editor"⟩ [⟨"true", "false", false, none⟩], r⟩]

theorem location_pairedRecords : ∀ t ∈ pairedRecords.tables, t.fsPath = .ok t.location := by
  simp only [pairedRecords, List.forall_mem_cons]
  exact ⟨rfl, rfl, List.forall_mem_nil _⟩

theorem distinct_pairedRecords : pairedRecords.Distinct := by
  constructor
  · have hne : pairedRecords.tables.Pairwise fun t t' => t.location ≠ t'.location := by decide
    refine hne.imp_of_mem fun {t t'} ht ht' hne path h h' => hne ?_
    rw [location_pairedRecords t ht] at h
    rw [location_pairedRecords t' ht'] at h'
    exact Except.ok.inj (h.trans h'.symm)
  · decide

theorem exists_succeeds_pairedPlans :
    ∃ ms, List.Forall₂ MapperPlan.Succeeds (pairedPlans pairedRecords) ms ∧ ms ≠ [] := by
  have hrows : ((HdfsMapper.build .gcs ⟨"viewer", "editor"⟩ [⟨"true", "false", false, none⟩]
      (.ofList pairedRecords.tables) (.ofList pairedRecords.rows)
      (.ofList pairedRecords.principals)).outcome.toOption.map fun m =>
        (gathered ((HdfsMapper.considered Table.location pairedRecords.tables
          pairedRecords.rows).map m.decision)).isOk) = some true := by decide +kernel
  have hpolicies : ((RangerMapper.build .hive .bq ⟨"viewer", "editor"⟩
      [⟨"true", "false", false, none⟩] (.ofList pairedRecords.tables)
      (.ofList pairedRecords.principals) (.ofList pairedRecords.services)
      (.ofList pairedRecords.policies)).outcome.toOption.map (·.run.outcome.isOk)) =
        some true := by decide +kernel
  obtain ⟨m, hm, hrun⟩ := Option.map_eq_some_iff.1 hrows
  obtain ⟨m', hm', hrun'⟩ := Option.map_eq_some_iff.1 hpolicies
  have hm := eq_ok_of_toOption hm
  have hm' := eq_ok_of_toOption hm'
  obtain ⟨vs, hvs⟩ := exists_ok_of_isOk hrun
  obtain ⟨_, _, -, -, rfl⟩ := HdfsMapper.build_eq_ok_iff.1 hm
  refine ⟨[.hdfs _, .ranger m'], .cons ⟨Run.bind_eq_ok_iff.2 ⟨_, hm, rfl⟩, vs, ?_⟩
    (.cons ⟨Run.bind_eq_ok_iff.2 ⟨m', hm', rfl⟩, exists_ok_of_isOk hrun'⟩ .nil), by simp⟩
  exact (HdfsMapper.outcome_run _ rfl rfl location_pairedRecords).trans hvs

theorem run_reordered_paired :
    ∃ ms ms', List.Forall₂ MapperPlan.Succeeds (pairedPlans pairedRecords) ms ∧
      List.Forall₂ MapperPlan.Succeeds (pairedPlans pairedRecords.reverse) ms' ∧ ∃ bs bs',
        (Merge.run (ms.map (·.toMapper)) ∅).outcome = .ok bs ∧
        (Merge.run (ms'.map (·.toMapper)) ∅).outcome = .ok bs' ∧
        List.Forall₂ IamBinding.Reordered bs bs' := by
  have hpermuted : pairedRecords.Permuted pairedRecords.reverse :=
    ⟨(List.reverse_perm _).symm, (List.reverse_perm _).symm, (List.reverse_perm _).symm,
      (List.reverse_perm _).symm, (List.reverse_perm _).symm⟩
  have hplans : List.Forall₂ MapperPlan.Permuted (pairedPlans pairedRecords)
      (pairedPlans pairedRecords.reverse) :=
    .cons ⟨rfl, hpermuted⟩ (.cons ⟨rfl, hpermuted⟩ .nil)
  have hd : ∀ p ∈ pairedPlans pairedRecords, p.records.Distinct := by
    simp only [pairedPlans, List.forall_mem_cons]
    exact ⟨distinct_pairedRecords, distinct_pairedRecords, List.forall_mem_nil _⟩
  obtain ⟨ms, hms, hne⟩ := exists_succeeds_pairedPlans
  obtain ⟨ms', hms', hrun⟩ := run_reordered hplans hd hms
  exact ⟨ms, ms', hms, hms', hrun hne ∅⟩

end Regrant
