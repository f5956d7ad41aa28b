import Regrant.Proofs.Mapping.Hdfs
import Regrant.Proofs.Mapping.Ranger

/-!
# What mappers are built of

A mapper is built of compiled rules and an index of principals, and a Ranger mapper of the policies
that govern its services, each with what it covers (`build_eq_ok_iff`).  What a policy covers is a
function of the policy alone (`RangerPlugin.extent`), so the numbers of the policies do not matter
for what is decided on (`RangerMapper.entriesOn_eq`).
-/

namespace Regrant

/-- **What an HDFS mapper is built of.** -/
theorem HdfsMapper.build_eq_ok_iff {target : Target} {roles : TargetRoles} {rules : List Rule}
    {tables : Source Table} {permissions : Source HdfsPermission} {principals : Source Principal}
    {m : HdfsMapper} :
    (build target roles rules tables permissions principals).outcome = .ok m ↔
      ∃ judge known, Judge.ofRules system rules = .ok judge ∧
        (index principals).outcome = .ok known ∧
        m = ⟨target, roles, judge, tables, permissions, known⟩ := by
  constructor
  · intro h
    obtain ⟨judge, hjudge, h⟩ := Run.bind_eq_ok_iff.1 h
    obtain ⟨known, hknown, h⟩ := Run.bind_eq_ok_iff.1 h
    cases h
    exact ⟨judge, known, hjudge, hknown, rfl⟩
  · rintro ⟨judge, known, hjudge, hknown, rfl⟩
    exact Run.bind_eq_ok_iff.2 ⟨judge, hjudge, Run.bind_eq_ok_iff.2 ⟨known, hknown, rfl⟩⟩

/-! ### What policies cover -/

namespace RangerPlugin

/-- What a policy covers: the databases and tables that a policy of Hive for accesses names, or the
paths that a policy of HDFS names. -/
def extent (g : RangerPlugin) (p : Policy) : Coverage :=
  match g with
  | hive =>
    if p.serviceType = some "hive" ∧ p.type = some 0 then
      match p.resource? "database" with
      | none => .nothing
      | some databases => .names databases.values (tableNames p)
    else .nothing
  | hdfs => match p.resource? "path" with
    | none => .nothing
    | some path => .paths (path.values.map (PathPattern.ofText · path.recursive))

theorem outcome_coverage (g : RangerPlugin) (p : Policy) :
    (g.coverage p).outcome = .ok (g.extent p) := by
  cases g with
  | hive =>
    rw [coverage, extent]
    by_cases hservice : p.serviceType = some "hive"
    · by_cases htype : p.type = some 0
      · simp only [hservice, htype, ne_eq, not_true_eq_false, if_false, and_self, if_true]
        cases p.resource? "database" <;> rfl
      · simp [hservice, htype]
    · simp [hservice]
  | hdfs =>
    simp only [coverage, extent]
    cases p.resource? "path" <;> rfl

theorem outcome_coverages (g : RangerPlugin) (ps : List Policy) :
    (g.coverages ps).outcome = .ok (ps.map g.extent) := by
  induction ps with
  | nil => rfl
  | cons p ps ih =>
    rw [coverages, Run.outcome_bind, outcome_coverage]
    simp only [Run.outcome_bind, ih]
    rfl

end RangerPlugin

namespace RangerMapper

/-- The enabled policies of the services of a plugin. -/
def governing (plugin : RangerPlugin) (services : List RangerService) (policies : List Policy) :
    List Policy :=
  kept ((services.filter (·.type = plugin.serviceType)).map (·.name)) policies

/-- **What a Ranger mapper is built of.** -/
theorem build_eq_ok_iff {plugin : RangerPlugin} {target : Target} {roles : TargetRoles}
    {rules : List Rule} {tables : Source Table} {principals : Source Principal}
    {services : Source RangerService} {policies : Source Policy} {m : RangerMapper} :
    (build plugin target roles rules tables principals services policies).outcome = .ok m ↔
      ∃ judge known ss ps, Judge.ofRules system rules = .ok judge ∧
        (index principals).outcome = .ok known ∧ services.all = .ok ss ∧ policies.all = .ok ps ∧
        m = ⟨plugin, target, roles, judge, tables, known,
          number (governing plugin ss ps) ((governing plugin ss ps).map plugin.extent)⟩ := by
  constructor
  · intro h
    obtain ⟨judge, hjudge, h⟩ := Run.bind_eq_ok_iff.1 h
    obtain ⟨known, hknown, h⟩ := Run.bind_eq_ok_iff.1 h
    obtain ⟨ss, hss, h⟩ := Run.bind_eq_ok_iff.1 h
    obtain ⟨ps, hps, h⟩ := Run.bind_eq_ok_iff.1 h
    obtain ⟨coverages, hcoverages, h⟩ := Run.bind_eq_ok_iff.1 h
    rw [RangerPlugin.outcome_coverages] at hcoverages
    cases hcoverages
    cases h
    exact ⟨judge, known, ss, ps, hjudge, hknown, hss, hps, rfl⟩
  · rintro ⟨judge, known, ss, ps, hjudge, hknown, hss, hps, rfl⟩
    exact Run.bind_eq_ok_iff.2 ⟨judge, hjudge, Run.bind_eq_ok_iff.2 ⟨known, hknown,
      Run.bind_eq_ok_iff.2 ⟨ss, hss, Run.bind_eq_ok_iff.2 ⟨ps, hps,
        Run.bind_eq_ok_iff.2 ⟨_, RangerPlugin.outcome_coverages _ _, rfl⟩⟩⟩⟩⟩

theorem map_number (policies : List Policy) (coverages : List Coverage) :
    (number policies coverages).map (fun p => (p.policy, p.coverage)) = policies.zip coverages := by
  rw [number, List.map_map]
  exact List.zipIdx_map_fst 0 (policies.zip coverages)

theorem entriesOn_eq {m : RangerMapper} {ps : List Policy}
    (h : m.policies = number ps (ps.map m.plugin.extent)) (s : Site) :
    m.entriesOn s = (ps.filter fun p => (m.plugin.extent p).covers s.table s.fsPath).flatMap
      (entriesIn s) := by
  have hpairs : m.policies.map (fun p => (p.policy, p.coverage)) =
      ps.map fun p => (p, m.plugin.extent p) := by
    rw [h, map_number, List.map_prod_left_eq_zip]
  have hentries : m.entriesOn s = ((m.policies.map fun p => (p.policy, p.coverage)).filter
      fun e => e.2.covers s.table s.fsPath).flatMap fun e => entriesIn s e.1 := by
    rw [List.filter_map, List.flatMap_map]
    rfl
  rw [hentries, hpairs, List.filter_map, List.flatMap_map]
  rfl

end RangerMapper

end Regrant
