import Regrant.Proofs.Mapping.Hdfs
import Regrant.Proofs.Mapping.Ranger
import Regrant.Proofs.Principal.Mapper
import Regrant.Proofs.Rules.Decision

/-!
# How mappers fail

Once it is built, a mapper fails on its data: a record cannot be read, an evaluation fails, or no
rule applies (`Failure.OfData`).  None of this is fatal.  A mapper of Ranger policies can also meet
an identity that resolves to no principal, and that is the only way in which a run fails fatally
(`run_fatal_iff`).
-/

namespace Regrant

namespace Failure

/-- A source cannot be opened, or a record cannot be read or parsed. -/
def IsReading : Failure → Prop
  | .unreadable _ => True
  | .malformed _ _ => True
  | .io => True
  | _ => False

/-- What a mapper may meet in its data. -/
inductive OfData : Failure → Prop
  | reading {e : Failure} (h : e.IsReading) : OfData e
  | evaluation (fault : EvalFault) : OfData (.evaluation fault)
  | noRuleMatch (source : String) : OfData (.noRuleMatch source)

variable {e : Failure}

/-- **What a mapper meets in its data is not fatal.** -/
theorem OfData.fatal_eq_false (h : e.OfData) : e.fatal = false := by
  cases h with
  | reading h => cases e <;> first | rfl | exact h.elim
  | evaluation => rfl
  | noRuleMatch => rfl

theorem IsEvaluation.ofData (h : e.IsEvaluation) : e.OfData := by
  obtain ⟨fault, rfl⟩ := h
  exact .evaluation fault

end Failure

variable {e : Failure}

/-! ### Sources -/

namespace Source

variable {α β : Type}

/-- The source fails only at reading: when it is opened, or at some of its records. -/
def OnlyReading (s : Source α) : Prop :=
  (∀ e, s = .error e → e.IsReading) ∧
    ∀ records, s = .ok records → ∀ e, .error e ∈ records → e.IsReading

theorem onlyReading_ofList (l : List α) : (Source.ofList l).OnlyReading := by
  refine ⟨fun e h => ?_, fun records h e he => ?_⟩
  · cases h
  · cases h
    obtain ⟨a, -, ha⟩ := List.mem_map.1 he
    cases ha

/-- A pass over records fails at a broken one, or at one that has no value. -/
theorem error_of_traverse {f : α → Except Failure β} {records : List (Except Failure α)}
    (h : traverse f records = .error e) : .error e ∈ records ∨ ∃ a, f a = .error e := by
  induction records with
  | nil => cases h
  | cons record records ih =>
    cases record with
    | error e' =>
      cases h
      exact Or.inl List.mem_cons_self
    | ok a =>
      rw [traverse] at h
      split at h
      · cases h
        exact Or.inr ⟨a, ‹_›⟩
      · split at h
        · cases h
          exact (ih ‹_›).imp_left (List.mem_cons_of_mem _)
        · cases h

theorem error_of_collect {s : Source α} (hs : s.OnlyReading) {f : α → Except Failure β}
    (h : s.collect f = .error e) : e.IsReading ∨ ∃ a, f a = .error e := by
  rcases exceptBind_eq_error_iff.1 h with h | ⟨records, hrecords, h⟩
  · exact Or.inl (hs.1 e h)
  · exact (error_of_traverse h).imp_left (hs.2 records hrecords e)

end Source

theorem Table.isReading_of_fsPath {t : Table} (h : t.fsPath = .error e) : e.IsReading := by
  rw [fsPath] at h
  split at h
  · cases h
  · split at h
    · cases h
    · cases h
      trivial

/-! ### Judges -/

theorem Judge.error_of_action {j : Judge} {c : Candidate} (h : j.action c = .error e) :
    e.IsEvaluation ∨ e = .noRuleMatch j.system := by
  rw [action] at h
  split at h
  · cases h
    exact Or.inl (RuleSet.isEvaluation_of_decide ‹_›)
  · split at h
    · cases h
      exact Or.inr rfl
    · cases h

theorem Judge.ofData_of_action {j : Judge} {c : Candidate} (h : j.action c = .error e) :
    e.OfData := by
  rcases error_of_action h with h | rfl
  · exact h.ofData
  · exact .noRuleMatch j.system

/-! ### Mappers -/

theorem HdfsMapper.ofData_of_decision {m : HdfsMapper} {x : Entry}
    (h : m.decision x = .error e) : e.OfData := by
  rw [decision] at h
  split at h
  · cases h
  · split at h
    · cases h
    · exact Judge.ofData_of_action (exceptMap_eq_error_iff.1 h)

theorem HdfsMapper.ofData_of_run {m : HdfsMapper} (htables : m.tables.OnlyReading)
    (hpermissions : m.permissions.OnlyReading) (h : m.run.outcome = .error e) : e.OfData := by
  rcases Run.bind_eq_error_iff.1 h with h | ⟨tables, -, h⟩
  · rcases Source.error_of_collect htables (exceptMap_eq_error_iff.1 h) with h | ⟨t, h⟩
    · exact .reading h
    · exact .reading (Table.isReading_of_fsPath (exceptMap_eq_error_iff.1 h))
  rcases Run.bind_eq_error_iff.1 h with h | ⟨permissions, -, h⟩
  · rcases Source.error_of_collect hpermissions (exceptMap_eq_error_iff.1 h) with h | ⟨p, h⟩
    · exact .reading h
    · cases h
  rw [outcome_runPairs] at h
  obtain ⟨x, -, hx⟩ := List.mem_map.1 (mem_of_gathered_eq_error h)
  exact ofData_of_decision hx

theorem IdentityMapper.ofData_of_map {m : IdentityMapper} {r : IdentityRecord}
    (h : (m.map r).outcome = .error e) : e.OfData := by
  rcases Run.bind_eq_error_iff.1 h with h | ⟨d, -, h⟩
  · exact (RuleSet.isEvaluation_of_decide h).ofData
  · cases haction : d.action with
    | noMatch =>
      rw [haction] at h
      cases h
      exact .noRuleMatch m.key
    | skip =>
      rw [haction] at h
      cases h
    | map =>
      rw [haction] at h
      rw [Run.outcome_ofExcept, principal] at h
      split at h <;> cases h <;> exact .evaluation _

theorem IdentityMapper.ofData_of_run {m : IdentityMapper} (hrecords : m.records.OnlyReading)
    (h : m.run.outcome = .error e) : e.OfData := by
  rcases Run.bind_eq_error_iff.1 h with h | ⟨records, hopen, h⟩
  · exact .reading (hrecords.1 e h)
  · rw [outcome_mapAll, List.map_map] at h
    obtain ⟨record, hrecord, herror⟩ := List.mem_map.1 (mem_of_gathered_eq_error h)
    cases record with
    | error e' =>
      cases herror
      exact .reading (hrecords.2 records hopen e hrecord)
    | ok r => exact ofData_of_map (exceptMap_eq_error_iff.1 herror)

theorem RangerMapper.isReading_of_entries {m : RangerMapper} (htables : m.tables.OnlyReading)
    (h : .error e ∈ m.entries) : e.IsReading := by
  rw [entries] at h
  split at h
  · rename_i e' hopen
    cases List.mem_singleton.1 h
    exact htables.1 e hopen
  · rename_i tables hopen
    obtain ⟨t?, ht, h⟩ := List.mem_flatMap.1 h
    cases t? with
    | error e' =>
      cases List.mem_singleton.1 h
      exact htables.2 tables hopen e ht
    | ok t =>
      rw [entriesOf] at h
      split at h
      · cases h
      · split at h
        · cases List.mem_singleton.1 h
          exact Table.isReading_of_fsPath ‹_›
        · obtain ⟨x, -, hx⟩ := List.mem_map.1 h
          cases hx

theorem RangerMapper.ofData_or_dangling_of_run {m : RangerMapper} (htables : m.tables.OnlyReading)
    (h : m.run.outcome = .error e) :
    e.OfData ∨ ∃ plugin policy kind name, e = .danglingPrincipal plugin policy kind name := by
  rw [outcome_run] at h
  obtain ⟨x?, hx, he⟩ := List.mem_map.1 (mem_of_gathered_eq_error h)
  cases x? with
  | error e' =>
    cases he
    exact Or.inl (.reading (isReading_of_entries htables hx))
  | ok x =>
    replace he : m.decision x = .error e := he
    rw [decision] at he
    split at he
    · cases he
      exact Or.inr ⟨_, _, _, _, rfl⟩
    · split at he
      · cases he
      · exact Or.inl (Judge.ofData_of_action (exceptMap_eq_error_iff.1 he))

/-- **A run fails fatally only at an identity that a Ranger policy names and that resolves to no
principal**, if the records can fail only at being read.  All that rules can fail with is an
evaluation, so neither a mapper of HDFS permissions nor one of identities ever fails fatally. -/
theorem run_fatal_iff :
    (∀ (s : RuleSet) (facts : Json) (base defaults : Fields) (e : Failure),
      (s.decide facts base defaults).outcome = .error e → ∃ fault, e = .evaluation fault) ∧
    (∀ (m : HdfsMapper) (e : Failure), m.tables.OnlyReading → m.permissions.OnlyReading →
      m.run.outcome = .error e → e.fatal = false) ∧
    (∀ (m : IdentityMapper) (e : Failure), m.records.OnlyReading →
      m.run.outcome = .error e → e.fatal = false) ∧
    ∀ (m : RangerMapper) (e : Failure), m.tables.OnlyReading → m.run.outcome = .error e →
      (e.fatal = true ↔
        ∃ plugin policy kind name, e = .danglingPrincipal plugin policy kind name) := by
  refine ⟨fun s facts base defaults e h => RuleSet.isEvaluation_of_decide h,
    fun m e htables hpermissions h =>
      (HdfsMapper.ofData_of_run htables hpermissions h).fatal_eq_false,
    fun m e hrecords h => (IdentityMapper.ofData_of_run hrecords h).fatal_eq_false,
    fun m e htables h => ⟨fun hfatal => ?_, ?_⟩⟩
  · refine (RangerMapper.ofData_or_dangling_of_run htables h).resolve_left fun hdata => ?_
    rw [hdata.fatal_eq_false] at hfatal
    cases hfatal
  · rintro ⟨plugin, policy, kind, name, rfl⟩
    rfl

/-- One table, and a policy on all tables that names a user who is not indexed. -/
def strayMapper : RangerMapper where
  plugin := .hive
  target := .bq
  roles := ⟨"viewer", "editor"⟩
  judge := ⟨"ranger", ⟨[]⟩⟩
  tables := .ofList [⟨"t", "s", "/t", none, some "p.s.t"⟩]
  principals := ∅
  policies := [⟨0, { (default : Policy) with
    name := "readers", items := [⟨[⟨"select", true⟩], ["bob"], [], [], [], false⟩] },
    .names ["*"] ["*"]⟩]

/-- One user, whom no rule is for. -/
def strayUsers : IdentityMapper where
  system := "ranger"
  kind := "user"
  defaultType := some .user
  rules := ⟨[]⟩
  records := .ofList [⟨"bob", none, .null⟩]

/-- One row for one table, and a rule whose condition is no truth value. -/
def strayRows : HdfsMapper where
  target := .bq
  roles := ⟨"viewer", "editor"⟩
  judge := ⟨"hdfs", ⟨[⟨⟨"1", .literal (.int 1)⟩, ⟨"false", .literal (.bool false)⟩, .skip⟩]⟩⟩
  tables := .ofList [⟨"t", "s", "/t", none, some "p.s.t"⟩]
  permissions := .ofList [{ (default : HdfsPermission) with
    path := "/t", owner := "bob", mode := "rwxr-x---" }]
  principals := .ofList [(⟨"user", "bob"⟩, .mapped .user "bob@example.org" "hdfs/user" "bob")]

theorem run_fatal_iff_stray :
    (∃ fault, (strayRows.judge.rules.decide .null ∅ ∅).outcome = .error (.evaluation fault)) ∧
    (∃ e, strayMapper.run.outcome = .error e ∧ e.fatal = true) ∧
    (∃ e, strayUsers.run.outcome = .error e ∧ e.fatal = false) ∧
    ∃ e, strayRows.run.outcome = .error e ∧ e.fatal = false := by
  obtain ⟨hrules, hrows, husers, hpolicies⟩ := run_fatal_iff
  obtain ⟨e', hcondition⟩ : ∃ e, (strayRows.judge.rules.decide .null ∅ ∅).outcome = .error e :=
    exists_error_of_isOk (by decide +kernel)
  obtain ⟨fault, rfl⟩ := hrules _ _ _ _ e' hcondition
  have hstray : strayMapper.run.outcome =
      .error (.danglingPrincipal "Hive" "readers" "user" "bob") := by rfl
  have hnone : strayUsers.run.outcome = .error (.noRuleMatch "ranger/user") := by rfl
  obtain ⟨e, hvalue⟩ : ∃ e, strayRows.run.outcome = .error e :=
    exists_error_of_isOk (by decide +kernel)
  exact ⟨⟨fault, hcondition⟩,
    ⟨_, hstray,
      (hpolicies strayMapper _ (Source.onlyReading_ofList _) hstray).2 ⟨_, _, _, _, rfl⟩⟩,
    ⟨_, hnone, husers strayUsers _ (Source.onlyReading_ofList _) hnone⟩,
    ⟨e, hvalue, hrows strayRows _ (Source.onlyReading_ofList _) (Source.onlyReading_ofList _)
      hvalue⟩⟩

end Regrant
