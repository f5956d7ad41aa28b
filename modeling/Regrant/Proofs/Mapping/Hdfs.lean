import Regrant.Proofs.Join
import Regrant.Proofs.Mapping.Judging
import Regrant.Proofs.Mapping.Mode
import Regrant.Proofs.Source

/-!
# What an HDFS mapper yields

The run of a mapper sorts the tables and the rows of the dump, joins them and goes through the
classes of each pair until the first failure.  `outcome_run` says the same without a run: list the
classes that are considered in the order of the paths (`considered`), decide on each of them alone
(`decision`), and the mapper yields the verdicts in the order of this list, or the first failure.
-/

namespace Regrant

namespace HdfsMapper

/-! ### The definition -/

/-- A class of a row of the dump, on the table that the row is paired with. -/
structure Entry where
  table : Table
  row : HdfsPermission
  holder : HdfsClass

/-- The classes of a row whose mode is long enough. -/
def entriesOf (pair : Table × HdfsPermission) : List Entry :=
  if 9 ≤ pair.2.mode.utf8ByteSize then
    [⟨pair.1, pair.2, .user⟩, ⟨pair.1, pair.2, .group⟩, ⟨pair.1, pair.2, .other⟩]
  else []

/-- The classes that are considered: for each path in ascending order, the tables that lie there are
paired with the rows for it, both in the order in which they were listed. -/
def considered (path : Table → String) (tables : List Table) (rows : List HdfsPermission) :
    List Entry :=
  (sortedDistinct (tables.map path ++ rows.map (·.path))).flatMap fun k =>
    (pairsAt path (·.path) tables rows k).flatMap entriesOf

/-- The key of the identity that holds a class. -/
def identityKey (p : HdfsPermission) : HdfsClass → IdentityKey
  | .user => ⟨"user", p.owner⟩
  | .group => ⟨"group", p.group⟩
  | .other => ⟨"other", "other"⟩

/-- The binding for an entry whose identity resolves to a principal, unless the class may not even
read, the table has no path on the target, or the principal is skipped or has no type or no
address. -/
def binding? (m : HdfsMapper) (x : Entry) (principal : Principal) : Option IamBinding :=
  match allowed? x.row.mode x.holder.offset, m.target.path? x.table, principal.skip,
    principal.type, principal.email with
  | some access, some path, false, some type, some email =>
    some ⟨m.target.resourceType, path, type.name ++ ":" ++ email, m.roles.role access, 10, ∅, ∅⟩
  | _, _, _, _, _ => none

/-- What an entry amounts to.  The verdict is that of the rules on the binding, with the row and the
identity as its records. -/
def decision (m : HdfsMapper) (x : Entry) : Except Failure (Option Verdict) :=
  match m.principals.get? (identityKey x.row x.holder) with
  | none => .ok none
  | some principal => match m.binding? x principal with
    | none => .ok none
    | some b =>
      let identity := (x.row.identity x.holder).toJson
      let candidate := Candidate.of "hdfs" x.table principal identity x.row.toJson b
      (m.judge.action candidate).map fun action => some ⟨action,
        b.withRecord "hdfs" x.row.toJson.sortKeys identity.sortKeys⟩

/-! ### The classes of a row -/

theorem principal?_identity (m : HdfsMapper) (p : HdfsPermission) (c : HdfsClass) :
    m.principal? (p.identity c) = m.principals.get? (identityKey p c) := by
  cases c <;> rfl

/-- A class is correlated to the candidate of its binding, and never fails. -/
theorem outcome_correlate (m : HdfsMapper) (x : Entry) :
    (m.correlate x.table x.row x.holder).outcome =
      .ok ((m.principals.get? (identityKey x.row x.holder)).bind fun principal =>
        (m.binding? x principal).map (Candidate.of "hdfs" x.table principal
          (x.row.identity x.holder).toJson x.row.toJson)) := by
  rw [correlate, access?_bits?]
  cases hallowed : allowed? x.row.mode x.holder.offset with
  | none => cases m.principals.get? (identityKey x.row x.holder) <;> simp [binding?, hallowed]
  | some access =>
    cases hpath : m.target.path? x.table with
    | none =>
      cases m.principals.get? (identityKey x.row x.holder) <;> simp [binding?, hallowed, hpath]
    | some path =>
      simp only [principal?_identity]
      cases m.principals.get? (identityKey x.row x.holder) with
      | none => rfl
      | some principal =>
        obtain ⟨skip, email, type, sources⟩ := principal
        simp only [binding?, hallowed, hpath, Option.bind_some]
        cases skip with
        | true => simp
        | false =>
          cases type with
          | none => simp [Principal.identity?]
          | some type => cases email <;> simp [Principal.identity?, system, priority]

theorem decision_eq (m : HdfsMapper) (x : Entry) :
    m.decision x = match (m.correlate x.table x.row x.holder).outcome with
      | .ok c? => m.judge.step c?
      | .error e => .error e := by
  rw [decision, outcome_correlate]
  cases m.principals.get? (identityKey x.row x.holder) with
  | none => rfl
  | some principal => cases h : m.binding? x principal <;> simp [h] <;> rfl

theorem outcome_runClasses (m : HdfsMapper) (t : Table) (p : HdfsPermission) (cs : List HdfsClass) :
    (m.runClasses t p cs).outcome = gathered (cs.map fun c => m.decision ⟨t, p, c⟩) := by
  induction cs with
  | nil => rfl
  | cons c cs ih =>
    rw [List.map_cons, decision_eq]
    exact m.judge.outcome_step_cons (m.correlate t p c) ih

/-! ### The pairs -/

theorem outcome_runPairs (m : HdfsMapper) (pairs : List ((String × Table) × HdfsPermission)) :
    (m.runPairs pairs).outcome =
      gathered ((pairs.flatMap fun pair => entriesOf (pair.1.2, pair.2)).map m.decision) := by
  induction pairs with
  | nil => rfl
  | cons pair pairs ih =>
    obtain ⟨⟨_, t⟩, p⟩ := pair
    rw [List.flatMap_cons, List.map_append, runPairs, entriesOf]
    by_cases h : 9 ≤ p.mode.utf8ByteSize
    · rw [if_pos (by simpa [hasFullMode] using h), if_pos h]
      exact outcome_append (m.outcome_runClasses t p HdfsClass.all) ih
    · rw [if_neg (by simpa [hasFullMode] using h), if_neg h]
      exact ih

/-! ### The run -/

/-- Pairs of tables with their paths are the pairs of the tables. -/
theorem pairsAt_map (path : Table → String) (tables : List Table) (rows : List HdfsPermission)
    (k : String) :
    pairsAt Prod.fst (·.path) (tables.map fun t => (path t, t)) rows k =
      (pairsAt path (·.path) tables rows k).map fun pair => ((path pair.1, pair.1), pair.2) := by
  rw [pairsAt, pairsAt, List.filter_map, List.zip_map_left]
  rfl

theorem outcome_run (m : HdfsMapper) {tables : List Table} {rows : List HdfsPermission}
    {path : Table → String} (htables : m.tables = Source.ofList tables)
    (hrows : m.permissions = Source.ofList rows) (hpath : ∀ t ∈ tables, t.fsPath = .ok (path t)) :
    m.run.outcome = gathered ((considered path tables rows).map m.decision) := by
  have hsorted : m.sortedTables = .ok ((tables.map fun t => (path t, t)).mergeSort
      fun a b => (compare a.1 b.1).isLE) := by
    have hpairs : ∀ t ∈ tables, t.fsPath.map (·, t) = .ok (path t, t) := by
      intro t ht
      rw [hpath t ht]
      rfl
    rw [sortedTables, htables, Source.collect_ofList hpairs]
    rfl
  have hsorted' : m.sortedPermissions = .ok (rows.mergeSort
      fun a b => (compare a.path b.path).isLE) := by
    rw [sortedPermissions, hrows, Source.all_ofList]
    rfl
  rw [run, hsorted, hsorted', Run.outcome_bind, Run.outcome_ofExcept]
  simp only [Run.outcome_bind, Run.outcome_ofExcept]
  rw [outcome_runPairs, mergeJoin_mergeSort Prod.fst (fun p : HdfsPermission => p.path),
    considered, List.flatMap_assoc, List.map_map]
  congr 3
  funext k
  rw [pairsAt_map, List.flatMap_map]

/-- **The mapper decides on each class alone.**  If no record and no location is broken, it yields
verdicts exactly if no decision on a considered class fails, and then the verdicts of all classes
that have one, in their order.  It fails exactly with the failure of the first decision that
fails. -/
theorem run_decides_considered (m : HdfsMapper) {tables : List Table} {rows : List HdfsPermission}
    {path : Table → String} (htables : m.tables = Source.ofList tables)
    (hrows : m.permissions = Source.ofList rows) (hpath : ∀ t ∈ tables, t.fsPath = .ok (path t)) :
    (∀ vs, m.run.outcome = .ok vs ↔ ∃ decided : List (Option Verdict),
      (considered path tables rows).map m.decision = decided.map .ok ∧
        vs = decided.filterMap id) ∧
    ∀ e, m.run.outcome = .error e ↔
      ∃ (decided : List (Option Verdict)) (rest : List (Except Failure (Option Verdict))),
        (considered path tables rows).map m.decision = decided.map .ok ++ .error e :: rest := by
  rw [m.outcome_run htables hrows hpath]
  exact ⟨fun _ => gathered_eq_ok_iff, fun _ => gathered_eq_error_iff⟩

/-- Two tables, not in the order of their paths. -/
def auditTables : List Table :=
  [⟨"u", "s", "/b", none, some "p.s.u"⟩, ⟨"t", "s", "/a", none, some "p.s.t"⟩]

/-- A row for the second table comes twice, and one for the first. -/
def auditRows : List HdfsPermission :=
  let row (path mode : String) : HdfsPermission :=
    ⟨path, none, none, "alice", "staff", mode, none, none, none, none⟩
  [row "/a" "r-x------", row "/b" "rw-r-----", row "/a" "rwxrwxrwx"]

/-- A mapper whose only rule maps everything, and which knows one user. -/
def auditMapper : HdfsMapper where
  target := .bq
  roles := ⟨"viewer", "editor"⟩
  judge := ⟨"hdfs",
    ⟨[⟨⟨"true", .literal (.bool true)⟩, ⟨"false", .literal (.bool false)⟩, .map ∅⟩]⟩⟩
  tables := .ofList auditTables
  permissions := .ofList auditRows
  principals :=
    .ofList [(⟨"user", "alice"⟩, .mapped .user "alice@example.org" "hdfs/user" "alice")]

theorem run_decides_considered_audit :
    ∃ vs, auditMapper.run.outcome = .ok vs ∧
      vs.map (fun v => (v.action, v.binding.path, v.binding.principal, v.binding.role)) =
        [(.map, "p.s.t", "user:alice@example.org", "viewer"),
          (.map, "p.s.u", "user:alice@example.org", "editor")] := by
  have hpath : ∀ t ∈ auditTables, t.fsPath = .ok t.location := by
    simp only [auditTables, List.forall_mem_cons]
    exact ⟨rfl, rfl, List.forall_mem_nil _⟩
  have hrun :=
    @run_decides_considered auditMapper auditTables auditRows Table.location rfl rfl hpath
  rcases ok_or_first_error ((considered Table.location auditTables auditRows).map
    auditMapper.decision) with ⟨decided, hdecided⟩ | ⟨decided, e, rest, hdecided⟩
  · refine ⟨_, (hrun.1 _).2 ⟨decided, hdecided, rfl⟩, ?_⟩
    have hvalues : decided.filterMap id = ((considered Table.location auditTables auditRows).map
        auditMapper.decision).filterMap (·.toOption.join) := by
      rw [hdecided, List.filterMap_map]
      rfl
    rw [hvalues]
    decide +kernel
  · have hok : ((considered Table.location auditTables auditRows).map auditMapper.decision).all
        (·.isOk) = true := by decide +kernel
    rw [hdecided] at hok
    simp [Except.isOk, Except.toBool] at hok

end HdfsMapper

end Regrant
