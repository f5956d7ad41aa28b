import Regrant.Proofs.Mapping.Hdfs
import Regrant.Proofs.Mapping.Judged
import Regrant.Proofs.Mapping.Ranger

/-!
# Rules filter bindings, and change none

Which candidates a mapper proposes does not depend on its rules (`HdfsMapper.candidates`,
`RangerMapper.candidates`), and a run judges just these (`HdfsMapper.judges_run`,
`RangerMapper.judges_run`).  So two runs that differ in rules only have the same bindings
(`run_keeps_bindings`).
-/

namespace Regrant

/-! ### The candidates of mappers -/

theorem filterMap_cons_toList {α β : Type} (f : α → Option β) (a : α) (l : List α) :
    (a :: l).filterMap f = (f a).toList ++ l.filterMap f := by
  cases h : f a <;> simp [h]

namespace HdfsMapper

theorem quiet_correlate (m : HdfsMapper) (x : Entry) :
    (m.correlate x.table x.row x.holder).Quiet := by
  rw [correlate]
  split
  · simp only
    split
    · rfl
    · split
      · rfl
      · split <;> rfl
  · rfl

/-- The candidate that an entry amounts to. -/
def candidate? (m : HdfsMapper) (x : Entry) : Option Candidate :=
  (m.principals.get? (identityKey x.row x.holder)).bind fun principal =>
    (m.binding? x principal).map (Candidate.of "hdfs" x.table principal
      (x.row.identity x.holder).toJson x.row.toJson)

/-- The candidates that a mapper proposes, whatever its rules are. -/
def candidates (m : HdfsMapper) : List Candidate :=
  match m.sortedTables, m.sortedPermissions with
  | .ok tables, .ok rows =>
    ((mergeJoin (fun t p => compare t.1 p.path) tables rows).flatMap fun pair =>
      entriesOf (pair.1.2, pair.2)).filterMap m.candidate?
  | _, _ => []

theorem judges_runClasses (m : HdfsMapper) (t : Table) (p : HdfsPermission) (cs : List HdfsClass) :
    m.judge.Judges ((cs.map (⟨t, p, ·⟩)).filterMap m.candidate?) (m.runClasses t p cs) := by
  induction cs with
  | nil => exact Judge.judges_pure
  | cons c cs ih =>
    have hcorrelate : ∀ c?, (m.correlate t p c).outcome = .ok c? → c? = m.candidate? ⟨t, p, c⟩ := by
      intro c? h
      rw [m.outcome_correlate ⟨t, p, c⟩] at h
      exact (Except.ok.inj h).symm
    rw [List.map_cons, filterMap_cons_toList]
    exact Judge.judges_step (m.quiet_correlate ⟨t, p, c⟩) hcorrelate ih

theorem judges_runPairs (m : HdfsMapper) (pairs : List ((String × Table) × HdfsPermission)) :
    m.judge.Judges ((pairs.flatMap fun pair => entriesOf (pair.1.2, pair.2)).filterMap m.candidate?)
      (m.runPairs pairs) := by
  induction pairs with
  | nil => exact Judge.judges_pure
  | cons pair pairs ih =>
    obtain ⟨⟨_, t⟩, p⟩ := pair
    rw [List.flatMap_cons, List.filterMap_append, runPairs, entriesOf]
    by_cases h : 9 ≤ p.mode.utf8ByteSize
    · have hmode : hasFullMode p = true := by simpa [hasFullMode] using h
      rw [if_pos h, if_pos hmode]
      exact Judge.judges_append (m.judges_runClasses t p HdfsClass.all) ih
    · have hmode : ¬ hasFullMode p = true := by simpa [hasFullMode] using h
      rw [if_neg h, if_neg hmode]
      exact Judge.judges_bind rfl fun _ _ => ih

/-- **A run judges the candidates.** -/
theorem judges_run (m : HdfsMapper) : m.judge.Judges m.candidates m.run := by
  refine Judge.judges_bind (Run.quiet_ofExcept _) fun tables htables => ?_
  refine Judge.judges_bind (Run.quiet_ofExcept _) fun rows hrows => ?_
  rw [Run.outcome_ofExcept] at htables hrows
  rw [candidates, htables, hrows]
  exact m.judges_runPairs _

end HdfsMapper

namespace RangerMapper

theorem quiet_correlate (m : RangerMapper) (x : Entry) :
    (m.correlate x.site x.policy x.item x.identity).Quiet := by
  rw [correlate]
  split
  · rfl
  · split
    · rfl
    · split
      · rfl
      · split <;> rfl

/-- The candidate that an entry amounts to. -/
def candidate? (m : RangerMapper) (x : Entry) : Option Candidate :=
  (m.principals.get? ⟨x.identity.type.key, x.identity.name⟩).bind fun principal =>
    (m.binding? x principal).map
      (Candidate.of "ranger" x.site.table principal x.identity.toJson x.policy.toJson)

/-- The candidates that a mapper proposes, whatever its rules are. -/
def candidates (m : RangerMapper) : List Candidate :=
  m.entries.filterMap (·.toOption.bind m.candidate?)

theorem judges_runIdentities (m : RangerMapper) (s : Site) (p : Policy) (item : PolicyItem)
    (is : List RangerIdentity) :
    m.judge.Judges ((is.map (⟨s, p, item, ·⟩)).filterMap m.candidate?)
      (m.runIdentities s p item is) := by
  induction is with
  | nil => exact Judge.judges_pure
  | cons i is ih =>
    have hcorrelate : ∀ c?, (m.correlate s p item i).outcome = .ok c? →
        c? = m.candidate? ⟨s, p, item, i⟩ := by
      intro c? h
      rw [m.outcome_correlate ⟨s, p, item, i⟩] at h
      rw [candidate?]
      split at h
      · cases h
      · rename_i hget
        rw [hget]
        exact (Except.ok.inj h).symm
    rw [List.map_cons, filterMap_cons_toList]
    exact Judge.judges_step (m.quiet_correlate ⟨s, p, item, i⟩) hcorrelate ih

theorem judges_runItems (m : RangerMapper) (s : Site) (p : Policy) (items : List PolicyItem) :
    m.judge.Judges ((items.flatMap fun item =>
      item.identities.map (⟨s, p, item, ·⟩)).filterMap m.candidate?) (m.runItems s p items) := by
  induction items with
  | nil => exact Judge.judges_pure
  | cons item items ih =>
    rw [List.flatMap_cons, List.filterMap_append]
    exact Judge.judges_append (m.judges_runIdentities s p item item.identities) ih

theorem quiet_unsupported (p : NumberedPolicy) :
    (Run.reportAll (p.policy.unsupported.map (.unsupportedFeature p.policy.name))).Quiet := by
  show overridden (p.policy.unsupported.map (.unsupportedFeature p.policy.name)) = []
  rw [overridden, List.filterMap_map]
  exact List.filterMap_eq_nil_iff.2 fun _ _ => rfl

theorem judged_runPolicies (m : RangerMapper) (s : Site) (seen : List Nat)
    (ps : List NumberedPolicy) {vs : List Verdict} {seen' : List Nat}
    (h : (m.runPolicies s seen ps).outcome = .ok (vs, seen')) :
    m.judge.Judged (((ps.filter (covers s)).flatMap fun p => entriesIn s p.policy).filterMap
      m.candidate?) (m.runPolicies s seen ps).notices vs := by
  induction ps generalizing seen vs seen' with
  | nil =>
    cases h
    exact .nil rfl
  | cons p ps ih =>
    rw [runPolicies] at h ⊢
    by_cases hcovers : p.coverage.covers s.table s.fsPath = true
    · have hentries : (entriesIn s p.policy).filterMap m.candidate? =
          (p.policy.items.flatMap fun item =>
            item.identities.map (⟨s, p.policy, item, ·⟩)).filterMap m.candidate? := by
        rw [entriesIn]
        simp [PolicyItem.identities, Function.comp_def]
      rw [if_pos hcovers] at h ⊢
      rw [List.filter_cons_of_pos (p := covers s) hcovers, List.flatMap_cons,
        List.filterMap_append, hentries]
      have hitems := m.judges_runItems s p.policy p.policy.items
      -- What is reported about the policy comes before its items, and is no override.
      split at h
      · rename_i hnew
        rw [if_pos hnew]
        obtain ⟨_, -, h, hnotices⟩ := Run.exists_of_bind_eq_ok h
        rw [hnotices]
        exact (Judge.Judged.nil (quiet_unsupported p)).append
          (Judge.judged_append_state hitems (fun _ _ => ih _) h)
      · rename_i hnew
        rw [if_neg hnew]
        exact Judge.judged_append_state hitems (fun _ _ => ih _) h
    · rw [if_neg hcovers] at h ⊢
      rw [List.filter_cons_of_neg (p := covers s) hcovers]
      exact ih seen h

theorem judges_runTables (m : RangerMapper) (seen : List Nat)
    (tables : List (Except Failure Table)) :
    m.judge.Judges ((tables.flatMap m.entriesOf).filterMap (·.toOption.bind m.candidate?))
      (m.runTables seen tables) := by
  have hok : ∀ xs : List Entry, (xs.map (.ok : Entry → Except Failure Entry)).filterMap
      (·.toOption.bind m.candidate?) = xs.filterMap m.candidate? := by
    intro xs
    rw [List.filterMap_map]
    rfl
  induction tables generalizing seen with
  | nil => exact Judge.judges_pure
  | cons t? tables ih =>
    rw [List.flatMap_cons, List.filterMap_append]
    cases t? with
    | error e => exact fun _ h => nomatch h
    | ok t =>
      rw [runTables]
      refine Judge.judges_bind (Run.quiet_ofExcept _) fun site? hsite => ?_
      rw [Run.outcome_ofExcept, site] at hsite
      rw [entriesOf]
      cases hpath : m.target.path? t with
      | none =>
        rw [hpath] at hsite
        cases hsite
        exact ih seen
      | some path =>
        rw [hpath] at hsite
        obtain ⟨fsPath, hfs, rfl⟩ := exceptMap_eq_ok_iff.1 hsite
        simp only [hfs, hok]
        intro vs hvs
        obtain ⟨⟨vs₁, seen'⟩, h₁, hvs, hnotices⟩ := Run.exists_of_bind_eq_ok hvs
        obtain ⟨vs₂, h₂, hvs, hnotices'⟩ := Run.exists_of_bind_eq_ok hvs
        cases hvs
        rw [hnotices, hnotices']
        exact (m.judged_runPolicies _ _ _ h₁).append
          (by simpa using ih seen' vs₂ h₂)

/-- **A run judges the candidates.** -/
theorem judges_run (m : RangerMapper) : m.judge.Judges m.candidates m.run := by
  refine Judge.judges_bind (Run.quiet_ofExcept _) fun tables htables => ?_
  rw [Run.outcome_ofExcept] at htables
  rw [candidates, entries, htables]
  exact m.judges_runTables [] tables

end RangerMapper

/-! ### Two runs -/

/-- **Rules filter bindings, and change none.**  Two runs that differ in rules only, and that both
succeed, have the same bindings one by one, and no verdict is that no rule matches.  The log of a
run holds for each candidate the fields of its binding for which the evaluated object has another
value, in the order of their names. -/
theorem run_keeps_bindings :
    (∀ (m : HdfsMapper) (j j' : Judge) (vs vs' : List Verdict),
      ({ m with judge := j } : HdfsMapper).run.outcome = .ok vs →
      ({ m with judge := j' } : HdfsMapper).run.outcome = .ok vs' →
      vs.map (·.binding) = vs'.map (·.binding)) ∧
    (∀ (m : RangerMapper) (j j' : Judge) (vs vs' : List Verdict),
      ({ m with judge := j } : RangerMapper).run.outcome = .ok vs →
      ({ m with judge := j' } : RangerMapper).run.outcome = .ok vs' →
      vs.map (·.binding) = vs'.map (·.binding)) ∧
    (∀ (m : HdfsMapper) (vs : List Verdict), m.run.outcome = .ok vs →
      m.judge.Judged m.candidates m.run.notices vs ∧ ∀ v ∈ vs, v.action ≠ .noMatch) ∧
    (∀ (m : RangerMapper) (vs : List Verdict), m.run.outcome = .ok vs →
      m.judge.Judged m.candidates m.run.notices vs ∧ ∀ v ∈ vs, v.action ≠ .noMatch) ∧
    ∀ (j : Judge) (c : Candidate) (d : Decision),
      (j.rules.decide c.facts c.reserved c.defaults).outcome = .ok d →
      (overridden (j.judge c).notices).Sublist
        ["principal", "priority", "resource_path", "resource_type", "role"] ∧
      ∀ e ∈ c.binding.fields,
        e.1 ∈ overridden (j.judge c).notices ↔ d.object.get? e.1 ≠ some e.2 := by
  refine ⟨fun m j j' vs vs' h h' => ?_, fun m j j' vs vs' h h' => ?_, fun m vs h => ?_,
    fun m vs h => ?_, fun j c d h => ?_⟩
  · have hbindings := (HdfsMapper.judges_run { m with judge := j } vs h).bindings
    have hbindings' := (HdfsMapper.judges_run { m with judge := j' } vs' h').bindings
    exact hbindings.trans hbindings'.symm
  · have hbindings := (RangerMapper.judges_run { m with judge := j } vs h).bindings
    have hbindings' := (RangerMapper.judges_run { m with judge := j' } vs' h').bindings
    exact hbindings.trans hbindings'.symm
  · exact ⟨m.judges_run vs h, (m.judges_run vs h).action_ne⟩
  · exact ⟨m.judges_run vs h, (m.judges_run vs h).action_ne⟩
  · rw [Judge.overridden_judge h]
    exact ⟨c.sublist_overrides d.object, fun e he =>
      Candidate.mem_overrides he (RuleSet.exists_get?_of_decide h ⟨e.2, c.get?_defaults he⟩)⟩

/-- A rule that gives another priority and another principal. -/
def forgingJudge : Judge :=
  ⟨"hdfs", ⟨[⟨⟨"true", .literal (.bool true)⟩, ⟨"false", .literal (.bool false)⟩,
    .map (.ofList [("priority", .constant (.int 99)),
      ("principal", .constant (.text "user:eve@example.org"))])⟩]⟩⟩

/-- A rule that skips everything. -/
def skippingJudge : Judge :=
  ⟨"hdfs", ⟨[⟨⟨"true", .literal (.bool true)⟩, ⟨"false", .literal (.bool false)⟩, .skip⟩]⟩⟩

/-- One row for one table, which its owner may read. -/
def forgedRows : HdfsMapper where
  target := .bq
  roles := ⟨"viewer", "editor"⟩
  judge := forgingJudge
  tables := .ofList [⟨"t", "s", "/t", none, some "p.s.t"⟩]
  permissions := .ofList [{ (default : HdfsPermission) with
    path := "/t", owner := "bob", mode := "r--------" }]
  principals := .ofList [(⟨"user", "bob"⟩, .mapped .user "bob@example.org" "hdfs/user" "bob")]

/-- The log is in the order of the names, in which principals come before priorities. -/
theorem overridden_forgedRows :
    (∃ vs, forgedRows.run.outcome = .ok vs) ∧
      overridden forgedRows.run.notices = ["principal", "priority"] ∧
      ¬ (overridden forgedRows.run.notices).Sublist
        ["priority", "principal", "resource_path", "resource_type", "role"] := by
  have hlog : overridden forgedRows.run.notices = ["principal", "priority"] := by decide +kernel
  refine ⟨exists_ok_of_isOk (by decide +kernel), hlog, ?_⟩
  rw [hlog]
  decide

/-- One table, and a policy on all tables that lets a user read. -/
def forgedPolicies : RangerMapper where
  plugin := .hive
  target := .bq
  roles := ⟨"viewer", "editor"⟩
  judge := forgingJudge
  tables := .ofList [⟨"t", "s", "/t", none, some "p.s.t"⟩]
  principals := .ofList [(⟨"user", "bob"⟩, .mapped .user "bob@example.org" "ranger/user" "bob")]
  policies := [⟨0, { (default : Policy) with
    name := "readers", items := [⟨[⟨"select", true⟩], ["bob"], [], [], [], false⟩] },
    .names ["*"] ["*"]⟩]

def forgedCandidate : Candidate :=
  ⟨.null, ⟨.bqTable, "p.s.t", "user:bob@example.org", "viewer", 10, ∅, ∅⟩⟩

theorem run_keeps_bindings_forged :
    (∃ vs vs', forgedRows.run.outcome = .ok vs ∧
      ({ forgedRows with judge := skippingJudge } : HdfsMapper).run.outcome = .ok vs' ∧
      vs.map (·.binding) = vs'.map (·.binding) ∧ (∀ v ∈ vs, v.action ≠ .noMatch)) ∧
    (∃ vs vs', forgedPolicies.run.outcome = .ok vs ∧
      ({ forgedPolicies with judge := skippingJudge } : RangerMapper).run.outcome = .ok vs' ∧
      vs.map (·.binding) = vs'.map (·.binding) ∧ (∀ v ∈ vs, v.action ≠ .noMatch)) ∧
    ∃ d, (forgingJudge.rules.decide forgedCandidate.facts forgedCandidate.reserved
        forgedCandidate.defaults).outcome = .ok d ∧
      ∀ e ∈ forgedCandidate.binding.fields,
        e.1 ∈ overridden (forgingJudge.judge forgedCandidate).notices ↔
          d.object.get? e.1 ≠ some e.2 := by
  obtain ⟨hrows, hpolicies, hrows', hpolicies', hcandidate⟩ := run_keeps_bindings
  obtain ⟨vs, h⟩ := exists_ok_of_isOk (x := forgedRows.run.outcome) (by decide +kernel)
  obtain ⟨vs', h'⟩ := exists_ok_of_isOk
    (x := ({ forgedRows with judge := skippingJudge } : HdfsMapper).run.outcome) (by decide +kernel)
  obtain ⟨ws, hw⟩ := exists_ok_of_isOk (x := forgedPolicies.run.outcome) (by decide +kernel)
  obtain ⟨ws', hw'⟩ := exists_ok_of_isOk
    (x := ({ forgedPolicies with judge := skippingJudge } : RangerMapper).run.outcome)
    (by decide +kernel)
  obtain ⟨d, hd⟩ := exists_ok_of_isOk (x := (forgingJudge.rules.decide forgedCandidate.facts
    forgedCandidate.reserved forgedCandidate.defaults).outcome) (by decide +kernel)
  exact ⟨⟨vs, vs', h, h', hrows forgedRows _ _ vs vs' h h', (hrows' forgedRows vs h).2⟩,
    ⟨ws, ws', hw, hw', hpolicies forgedPolicies _ _ ws ws' hw hw',
      (hpolicies' forgedPolicies ws hw).2⟩,
    ⟨d, hd, (hcandidate forgingJudge forgedCandidate d hd).2⟩⟩

end Regrant
