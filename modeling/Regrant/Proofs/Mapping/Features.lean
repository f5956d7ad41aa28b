import Regrant.Proofs.Mapping.Coverage
import Regrant.Proofs.Mapping.Judged

/-!
# Features that are reported once

A policy of Ranger may use features that bindings cannot express.  A run goes through the policies
table by table (`visits`) up to the first failure (`Reaches`), and reports these features when it
first comes to the policy, before anything that the items of the policy cause.  What was reported is
kept by numbers of policies, not by their names or contents, and only for one run
(`run_warns_once`).
-/

namespace Regrant

/-! ### Features -/

namespace Policy

/-- The features that bindings cannot express, in the order in which they are reported. -/
def inexpressible : List String :=
  ["allowExceptions", "denyPolicyItems", "denyExceptions", "rowFilterPolicyItems",
    "dataMaskPolicyItems", "resource isExcludes"]

/-- The policy uses a feature that bindings cannot express. -/
inductive Uses (p : Policy) : String → Prop
  | allowExceptions : p.allowExceptions ≠ [] → Uses p "allowExceptions"
  | denyItems : p.denyItems ≠ [] → Uses p "denyPolicyItems"
  | denyExceptions : p.denyExceptions ≠ [] → Uses p "denyExceptions"
  | rowFilterItems : p.rowFilterItems ≠ [] → Uses p "rowFilterPolicyItems"
  | dataMaskItems : p.dataMaskItems ≠ [] → Uses p "dataMaskPolicyItems"
  | excludes {resources : SortedMap String PolicyResource} {r : PolicyResource} :
      p.resources = some resources → r ∈ resources.values → r.excludes →
      Uses p "resource isExcludes"

theorem unsupported_sublist (p : Policy) : p.unsupported.Sublist inexpressible := by
  have hnames : ∀ l : List (String × Bool),
      (l.filterMap fun e => if e.2 then some e.1 else none).Sublist (l.map (·.1)) := by
    intro l
    induction l with
    | nil => exact .slnil
    | cons e l ih =>
      obtain ⟨name, used⟩ := e
      cases used with
      | false => exact ih.cons name
      | true => exact ih.cons_cons name
  exact hnames _

theorem mem_unsupported_iff {p : Policy} {feature : String} :
    feature ∈ p.unsupported ↔ p.Uses feature := by
  simp only [unsupported, List.mem_filterMap, List.exists_mem_cons_iff, List.not_mem_nil, false_and,
    exists_false, or_false, Option.ite_none_right_eq_some, Option.some.injEq, Bool.not_eq_true',
    List.isEmpty_eq_false_iff, Option.any_eq_true, List.any_eq_true]
  constructor
  · rintro (⟨h, rfl⟩ | ⟨h, rfl⟩ | ⟨h, rfl⟩ | ⟨h, rfl⟩ | ⟨h, rfl⟩ | ⟨⟨rs, hrs, r, hr, h⟩, rfl⟩)
    · exact .allowExceptions h
    · exact .denyItems h
    · exact .denyExceptions h
    · exact .rowFilterItems h
    · exact .dataMaskItems h
    · exact .excludes hrs hr h
  · intro h
    cases h with
    | excludes hrs hr h => simpa using ⟨_, hrs, _, hr, h⟩
    | _ h => simpa using h

end Policy

namespace RangerMapper

/-! ### Visits -/

/-- A policy on a table that it covers. -/
structure Visit where
  site : Site
  policy : NumberedPolicy

variable {m : RangerMapper} {v : Visit}

/-- The visits on a record of a table, by policies.  A table without a path on the target has none,
and a record or a location that is broken is a failure in their place. -/
def visitsOf (m : RangerMapper) : Except Failure Table → List (Except Failure Visit)
  | .error e => [.error e]
  | .ok t => match m.site t with
    | .error e => [.error e]
    | .ok none => []
    | .ok (some s) => (m.policies.filter (covers s)).map fun p => .ok ⟨s, p⟩

/-- All visits by tables; that the tables cannot be read is the only failure then. -/
def visits (m : RangerMapper) : List (Except Failure Visit) :=
  match m.tables with
  | .error e => [.error e]
  | .ok tables => tables.flatMap m.visitsOf

/-- The run goes on after a visit: no decision on an identity that the policy names fails. -/
def Passes (m : RangerMapper) : Except Failure Visit → Prop
  | .error _ => False
  | .ok v => ∀ x ∈ entriesIn v.site v.policy.policy, (m.decision x).isOk = true

instance (m : RangerMapper) : DecidablePred m.Passes
  | .error _ => inferInstanceAs (Decidable False)
  | .ok v => inferInstanceAs
      (Decidable (∀ x ∈ entriesIn v.site v.policy.policy, (m.decision x).isOk = true))

/-- The run gets as far as a visit: it goes on after all before. -/
def Reaches (m : RangerMapper) (v : Visit) : Prop :=
  ∃ before after, m.visits = before ++ .ok v :: after ∧ ∀ x ∈ before, m.Passes x

/-- The visits up to the first after which the run does not go on. -/
def reached (m : RangerMapper) : List (Except Failure Visit) → List Visit
  | [] => []
  | .error _ :: _ => []
  | .ok v :: rest => v :: if m.Passes (.ok v) then m.reached rest else []

theorem mem_reached_iff {steps : List (Except Failure Visit)} : v ∈ m.reached steps ↔
    ∃ before after, steps = before ++ .ok v :: after ∧ ∀ x ∈ before, m.Passes x := by
  induction steps with
  | nil => simp [reached]
  | cons step steps ih =>
    cases step with
    | error e =>
      rw [reached]
      refine iff_of_false List.not_mem_nil ?_
      rintro ⟨before, after, hsteps, hbefore⟩
      cases before with
      | nil => cases hsteps
      | cons x before =>
        obtain ⟨rfl, -⟩ := List.cons.inj hsteps
        exact hbefore _ List.mem_cons_self
    | ok u =>
      rw [reached, List.mem_cons]
      constructor
      · rintro (rfl | hv)
        · exact ⟨[], steps, rfl, fun _ hx => nomatch hx⟩
        · split at hv
          · rename_i hu
            obtain ⟨before, after, rfl, hbefore⟩ := ih.1 hv
            exact ⟨.ok u :: before, after, rfl, List.forall_mem_cons.2 ⟨hu, hbefore⟩⟩
          · cases hv
      · rintro ⟨before, after, hsteps, hbefore⟩
        cases before with
        | nil =>
          cases hsteps
          exact Or.inl rfl
        | cons x before =>
          obtain ⟨rfl, rfl⟩ := List.cons.inj hsteps
          obtain ⟨hu, hbefore⟩ := List.forall_mem_cons.1 hbefore
          rw [if_pos hu]
          exact Or.inr (ih.2 ⟨before, after, rfl, hbefore⟩)

/-! ### The log -/

/-- A line of the log, with the number of the policy that caused it. -/
structure Line where
  index : Nat
  /-- Whether an item of the policy caused the line, or else a feature. -/
  ofItem : Bool
  notice : Notice

/-- What is reported of the features of a policy. -/
def warnings (i : Nat) (p : Policy) : List Line :=
  p.unsupported.map fun feature => ⟨i, false, .unsupportedFeature p.name feature⟩

/-- What the items of a policy cause on a table. -/
def itemLines (m : RangerMapper) (v : Visit) : List Line :=
  (m.runItems v.site v.policy.policy v.policy.policy.items).notices.map (⟨v.policy.index, true, ·⟩)

/-- The lines of a run that comes to some steps when some policies have been reported. -/
def linesFrom (m : RangerMapper) (seen : List Nat) : List (Except Failure Visit) → List Line
  | [] => []
  | .error _ :: _ => []
  | .ok v :: rest =>
    (if v.policy.index ∈ seen then [] else warnings v.policy.index v.policy.policy) ++
      (m.itemLines v ++
        if m.Passes (.ok v) then m.linesFrom (v.policy.index :: seen) rest else [])

theorem isOk_gathered_iff {α : Type} {l : List (Except Failure (Option α))} :
    (gathered l).isOk = true ↔ ∀ x ∈ l, x.isOk = true := by
  induction l with
  | nil => simp [Except.isOk, Except.toBool]
  | cons x l ih =>
    cases x with
    | error e => simp [gathered, Except.isOk, Except.toBool]
    | ok a? =>
      rw [gathered_ok, List.forall_mem_cons, ← ih]
      cases gathered l <;> simp [Except.map, Except.isOk, Except.toBool]

theorem passes_iff : m.Passes (.ok v) ↔
    (m.runItems v.site v.policy.policy v.policy.policy.items).outcome.isOk = true := by
  rw [outcome_runItems_items, isOk_gathered_iff, List.forall_mem_map]
  rfl

theorem runPolicies_of_covers {s : Site} {p : NumberedPolicy} {seen : List Nat}
    {ps : List NumberedPolicy} (h : p.coverage.covers s.table s.fsPath = true) :
    m.runPolicies s seen (p :: ps) = (do
      Run.reportAll
        ((if p.index ∈ seen then [] else warnings p.index p.policy).map (·.notice))
      let vs ← m.runItems s p.policy p.policy.items
      let (rest, seen) ← m.runPolicies s (p.index :: seen) ps
      return (vs ++ rest, seen)) := by
  rw [runPolicies, if_pos h]
  by_cases hseen : p.index ∈ seen
  · simp only [List.contains_eq_mem, hseen, decide_true, Bool.not_true, Bool.false_eq_true,
      if_false, if_true]
    rfl
  · simp only [List.contains_eq_mem, hseen, decide_false, Bool.not_false, if_true, if_false,
      warnings, List.map_map]
    rfl

/-- What running some policies on a table reports are the lines of these visits, and the run goes on
after them exactly if it succeeds on them. -/
theorem notices_runPolicies (m : RangerMapper) (s : Site) (seen : List Nat)
    (ps : List NumberedPolicy) (rest : List (Except Failure Visit)) :
    (m.linesFrom seen (((ps.filter (covers s)).map fun p => .ok ⟨s, p⟩) ++ rest)).map (·.notice) =
      (m.runPolicies s seen ps).notices ++ match (m.runPolicies s seen ps).outcome with
        | .ok (_, seen') => (m.linesFrom seen' rest).map (·.notice)
        | .error _ => [] := by
  induction ps generalizing seen with
  | nil => rfl
  | cons p ps ih =>
    by_cases h : p.coverage.covers s.table s.fsPath = true
    · rw [List.filter_cons_of_pos (p := covers s) h, List.map_cons, List.cons_append, linesFrom,
        runPolicies_of_covers h, List.map_append, List.map_append, Run.notices_bind,
        Run.outcome_bind, Run.outcome_reportAll, Run.notices_reportAll, List.append_assoc]
      congr 1
      have hitems : (m.itemLines ⟨s, p⟩).map (·.notice) =
          (m.runItems s p.policy p.policy.items).notices := by
        rw [itemLines, List.map_map]
        exact List.map_id _
      have hpasses := passes_iff (m := m) (v := ⟨s, p⟩)
      simp only
      rw [hitems, Run.notices_bind, Run.outcome_bind, List.append_assoc]
      congr 1
      -- Up to here both logs are the same, and they go on exactly if the items succeed.
      cases houtcome : (m.runItems s p.policy p.policy.items).outcome with
      | error e =>
        rw [houtcome] at hpasses
        rw [if_neg fun h => Bool.false_ne_true (hpasses.1 h)]
        rfl
      | ok vs =>
        rw [houtcome] at hpasses
        rw [if_pos (hpasses.2 rfl), ih]
        simp only
        rw [Run.notices_bind, Run.outcome_bind]
        cases (m.runPolicies s (p.index :: seen) ps).outcome with
        | error e => simp
        | ok rest => simp
    · rw [runPolicies, if_neg h, List.filter_cons_of_neg (p := covers s) h]
      exact ih seen

theorem notices_runTables (m : RangerMapper) (seen : List Nat)
    (tables : List (Except Failure Table)) :
    (m.linesFrom seen (tables.flatMap m.visitsOf)).map (·.notice) =
      (m.runTables seen tables).notices := by
  induction tables generalizing seen with
  | nil => rfl
  | cons t? tables ih =>
    rw [List.flatMap_cons]
    cases t? with
    | error e => rfl
    | ok t =>
      rw [runTables, Run.notices_bind, Run.outcome_ofExcept, visitsOf]
      cases m.site t with
      | error e => rfl
      | ok s? =>
        cases s? with
        | none => exact ih seen
        | some s =>
          simp only
          rw [notices_runPolicies, Run.notices_bind]
          cases (m.runPolicies s seen m.policies).outcome with
          | error e => rfl
          | ok answer =>
            obtain ⟨vs, seen'⟩ := answer
            simp only
            rw [ih, Run.notices_bind]
            cases (m.runTables seen' tables).outcome <;> simp [Run.ofExcept]

/-- The log of a run is that of its visits. -/
theorem notices_run (m : RangerMapper) :
    (m.linesFrom [] m.visits).map (·.notice) = m.run.notices := by
  rw [run, Run.notices_bind, Run.outcome_ofExcept, visits]
  cases m.tables with
  | error e => rfl
  | ok tables => exact m.notices_runTables [] tables

/-! ### What items report -/

/-- The notices that an item of a policy can cause. -/
inductive OfItem : Notice → Prop
  | ruleMatched (index : Nat) : OfItem (.ruleMatched index)
  | overrideIgnored (field : String) : OfItem (.overrideIgnored field)
  | principalSkipped (policy : Option String) : OfItem (.principalSkipped policy)
  | noRoleForAccesses (policy : String) : OfItem (.noRoleForAccesses policy)
  | principalIncomplete (policy : Option String) : OfItem (.principalIncomplete policy)

theorem says_judge (j : Judge) (c : Candidate) : (j.judge c).Says OfItem := by
  have hdecide : (j.rules.decide c.facts c.reserved c.defaults).Says OfItem := by
    intro n hn
    obtain ⟨i, rfl⟩ := j.rules.says_decide _ _ _ n hn
    exact .ruleMatched i
  have hreport : ∀ fields : List String,
      (Run.reportAll (fields.map .overrideIgnored)).Says OfItem :=
    fun _ => List.forall_mem_map.2 fun field _ => .overrideIgnored field
  rw [Judge.judge]
  refine hdecide.bind fun d _ => ?_
  split
  · exact (Run.says_ofExcept _ (.error _)).bind fun _ _ =>
      (hreport _).bind fun _ _ => Run.says_ofExcept _ (.ok _)
  · exact (hreport _).bind fun _ _ => Run.says_ofExcept _ (.ok _)

theorem says_correlate (m : RangerMapper) (s : Site) (p : Policy) (item : PolicyItem)
    (i : RangerIdentity) : (m.correlate s p item i).Says OfItem := by
  have hreport : ∀ {n : Notice}, OfItem n →
      (do Run.report n; return none : Run (Option Candidate)).Says OfItem :=
    fun hn => List.forall_mem_singleton.2 hn
  rw [correlate]
  split
  · exact Run.says_ofExcept _ (.error _)
  · split
    · exact hreport (.principalSkipped _)
    · split
      · exact hreport (.noRoleForAccesses _)
      · split
        · exact hreport (.principalIncomplete _)
        · exact Run.says_ofExcept _ (.ok _)

theorem says_runIdentities (m : RangerMapper) (s : Site) (p : Policy) (item : PolicyItem)
    (is : List RangerIdentity) : (m.runIdentities s p item is).Says OfItem := by
  induction is with
  | nil => exact Run.says_ofExcept _ (.ok _)
  | cons i is ih =>
    refine (m.says_correlate s p item i).bind fun c? _ => ?_
    cases c? with
    | none => exact ih
    | some c =>
      exact (says_judge _ c).bind fun _ _ => ih.bind fun _ _ => Run.says_ofExcept _ (.ok _)

theorem says_runItems (m : RangerMapper) (s : Site) (p : Policy) (items : List PolicyItem) :
    (m.runItems s p items).Says OfItem := by
  induction items with
  | nil => exact Run.says_ofExcept _ (.ok _)
  | cons item items ih =>
    exact (m.says_runIdentities s p item item.identities).bind fun _ _ =>
      ih.bind fun _ _ => Run.says_ofExcept _ (.ok _)

/-! ### The lines of a policy -/

variable {seen : List Nat} {steps : List (Except Failure Visit)} {l : Line} {i : Nat} {p : Policy}

theorem mem_warnings (h : l ∈ warnings i p) : l.index = i ∧ l.ofItem = false ∧
    ∃ feature, l.notice = .unsupportedFeature p.name feature := by
  obtain ⟨feature, -, rfl⟩ := List.mem_map.1 h
  exact ⟨rfl, rfl, feature, rfl⟩

theorem mem_itemLines (h : l ∈ m.itemLines v) :
    l.index = v.policy.index ∧ l.ofItem = true ∧ OfItem l.notice := by
  obtain ⟨n, hn, rfl⟩ := List.mem_map.1 h
  exact ⟨rfl, rfl, m.says_runItems _ _ _ n hn⟩

/-- A line is caused by a policy that the run comes to: by its items, or by its features if it has
not been reported. -/
theorem exists_of_mem_linesFrom (h : l ∈ m.linesFrom seen steps) : ∃ v ∈ m.reached steps,
    l ∈ m.itemLines v ∨ v.policy.index ∉ seen ∧ l ∈ warnings v.policy.index v.policy.policy := by
  induction steps generalizing seen with
  | nil => cases h
  | cons step steps ih =>
    cases step with
    | error e => cases h
    | ok v =>
      rw [linesFrom, List.mem_append, List.mem_append] at h
      rw [reached]
      rcases h with h | h | h
      · split at h
        · cases h
        · exact ⟨v, List.mem_cons_self, Or.inr ⟨‹_›, h⟩⟩
      · exact ⟨v, List.mem_cons_self, Or.inl h⟩
      · split at h
        · rename_i hpasses
          obtain ⟨u, hu, hl⟩ := ih h
          rw [if_pos hpasses]
          refine ⟨u, List.mem_cons_of_mem _ hu, hl.imp_right ?_⟩
          exact And.imp_left (mt (List.mem_cons_of_mem _))
        · cases h

/-- A line is about a feature exactly if no item caused it. -/
theorem ofItem_eq_false_iff (h : l ∈ m.linesFrom seen steps) :
    l.ofItem = false ↔ ∃ policy feature, l.notice = .unsupportedFeature policy feature := by
  obtain ⟨v, -, hl | ⟨-, hl⟩⟩ := exists_of_mem_linesFrom h
  · obtain ⟨-, hitem, hnotice⟩ := mem_itemLines hl
    refine iff_of_false (by simp [hitem]) ?_
    rintro ⟨policy, feature, h⟩
    rw [h] at hnotice
    cases hnotice
  · obtain ⟨-, hitem, feature, hnotice⟩ := mem_warnings hl
    exact iff_of_true hitem ⟨_, feature, hnotice⟩

/-- Of a policy that has been reported there are only lines that items cause. -/
theorem ofItem_of_seen (hseen : l.index ∈ seen) (h : l ∈ m.linesFrom seen steps) :
    l.ofItem = true := by
  obtain ⟨v, -, hl | ⟨hv, hl⟩⟩ := exists_of_mem_linesFrom h
  · exact (mem_itemLines hl).2.1
  · exact absurd ((mem_warnings hl).1 ▸ hseen) hv

/-- Lines caused by items stand as the visits do. -/
theorem filter_linesFrom (m : RangerMapper) (seen : List Nat)
    (steps : List (Except Failure Visit)) :
    (m.linesFrom seen steps).filter (·.ofItem) = (m.reached steps).flatMap m.itemLines := by
  have hwarnings : ∀ i p, (warnings i p).filter (·.ofItem) = [] := fun i p =>
    List.filter_eq_nil_iff.2 fun l hl => by simp [(mem_warnings hl).2.1]
  have hitems : ∀ v, (m.itemLines v).filter (·.ofItem) = m.itemLines v := fun v =>
    List.filter_eq_self.2 fun l hl => (mem_itemLines hl).2.1
  induction steps generalizing seen with
  | nil => rfl
  | cons step steps ih =>
    cases step with
    | error e => rfl
    | ok v =>
      rw [linesFrom, reached, List.flatMap_cons, List.filter_append, List.filter_append, hitems,
        apply_ite (List.filter _), hwarnings, List.filter_nil, ite_self, List.nil_append]
      by_cases hpasses : m.Passes (.ok v)
      · rw [if_pos hpasses, if_pos hpasses, ih]
      · rw [if_neg hpasses, if_neg hpasses]
        rfl

/-- The features of a policy are reported when the run first comes to it. -/
theorem exists_warnings (hsteps : ∀ v, .ok v ∈ steps → v.policy.index = i → v.policy.policy = p)
    (hseen : i ∉ seen) (hv : ∃ v ∈ m.reached steps, v.policy.index = i) :
    ∃ before after, m.linesFrom seen steps = before ++ (warnings i p ++ after) ∧
      (∀ l ∈ before, l.index ≠ i) ∧ ∀ l ∈ after, l.index = i → l.ofItem = true := by
  induction steps generalizing seen with
  | nil =>
    obtain ⟨v, hv, -⟩ := hv
    cases hv
  | cons step steps ih =>
    cases step with
    | error e =>
      obtain ⟨v, hv, -⟩ := hv
      cases hv
    | ok u =>
      rw [linesFrom]
      by_cases hu : u.policy.index = i
      · -- The run comes to the policy here, and from here on it has been reported.
        obtain rfl := hsteps u List.mem_cons_self hu
        rw [hu, if_neg hseen]
        refine ⟨[], _, rfl, fun _ hl => absurd hl List.not_mem_nil, fun l hl hi => ?_⟩
        rcases List.mem_append.1 hl with hl | hl
        · exact (mem_itemLines hl).2.1
        · split at hl
          · exact ofItem_of_seen (hi ▸ List.mem_cons_self) hl
          · cases hl
      · -- Another policy comes first, so its lines stand before.
        rw [reached, List.exists_mem_cons_iff] at hv
        have hrest := hv.resolve_left hu
        by_cases hpasses : m.Passes (.ok u)
        · rw [if_pos hpasses] at hrest ⊢
          have hnot : i ∉ u.policy.index :: seen :=
            fun h => (List.mem_cons.1 h).elim (fun h => hu h.symm) hseen
          obtain ⟨before, after, hlines, hbefore, hafter⟩ :=
            ih (fun v hv => hsteps v (List.mem_cons_of_mem _ hv)) hnot hrest
          rw [hlines, ← List.append_assoc, ← List.append_assoc]
          refine ⟨_, after, rfl, fun l hl => ?_, hafter⟩
          rw [List.mem_append, List.mem_append] at hl
          rcases hl with (hl | hl) | hl
          · split at hl
            · cases hl
            · exact (mem_warnings hl).1.trans_ne hu
          · exact (mem_itemLines hl).1.trans_ne hu
          · exact hbefore l hl
        · rw [if_neg hpasses] at hrest
          obtain ⟨v, hv, -⟩ := hrest
          cases hv

/-! ### The whole log -/

/-- The log of a run, each line with the policy that caused it. -/
structure Account (m : RangerMapper) (ps : List Policy) (lines : List Line) : Prop where
  log : lines.map (·.notice) = m.run.notices
  /-- What items cause stands in the order of visits. -/
  items : lines.filter (·.ofItem) = (m.reached m.visits).flatMap m.itemLines
  /-- Nothing else says that a policy uses a feature. -/
  features : ∀ l ∈ lines,
    l.ofItem = false ↔ ∃ policy feature, l.notice = .unsupportedFeature policy feature
  /-- If the run comes to a policy on some table, its features are reported, all together and before
  anything else that it causes. -/
  reported : ∀ i p, ps[i]? = some p → (∃ v, m.Reaches v ∧ v.policy.index = i) →
    ∃ before after, lines = before ++ (warnings i p ++ after) ∧ (∀ l ∈ before, l.index ≠ i) ∧
      ∀ l ∈ after, l.index = i → l.ofItem = true
  /-- If it does not, nothing is reported of the policy. -/
  silent : ∀ i, (¬ ∃ v, m.Reaches v ∧ v.policy.index = i) → ∀ l ∈ lines, l.index ≠ i

theorem policy_mem_of_mem_visits (h : .ok v ∈ m.visits) : v.policy ∈ m.policies := by
  rw [visits] at h
  split at h
  · simp at h
  · obtain ⟨t?, -, h⟩ := List.mem_flatMap.1 h
    cases t? with
    | error e => simp [visitsOf] at h
    | ok t =>
      rw [visitsOf] at h
      split at h
      · simp at h
      · cases h
      · obtain ⟨p, hp, hv⟩ := List.mem_map.1 h
        cases hv
        exact (List.mem_filter.1 hp).1

/-- The log of a mapper whose policies are numbered by their places. -/
theorem account_linesFrom {ps : List Policy}
    (hm : m.policies = number ps (ps.map m.plugin.extent)) :
    m.Account ps (m.linesFrom [] m.visits) where
  log := m.notices_run
  items := m.filter_linesFrom [] m.visits
  features _ := ofItem_eq_false_iff
  reported i p hp hv := by
    refine exists_warnings (fun v hv hi => ?_) List.not_mem_nil ?_
    · obtain ⟨j, hj⟩ := List.mem_iff_getElem?.1 (hm ▸ policy_mem_of_mem_visits hv)
      rw [RangerPlugin.getElem?_number] at hj
      obtain ⟨q, hq, hv⟩ := Option.map_eq_some_iff.1 hj
      rw [← hv] at hi ⊢
      obtain rfl : j = i := hi
      exact Option.some.inj (hq.symm.trans hp)
    · obtain ⟨v, hv, hi⟩ := hv
      exact ⟨v, mem_reached_iff.2 hv, hi⟩
  silent i hi l hl hindex := by
    obtain ⟨v, hv, h⟩ := exists_of_mem_linesFrom hl
    refine hi ⟨v, mem_reached_iff.1 hv, ?_⟩
    rcases h with h | ⟨-, h⟩
    · exact (mem_itemLines h).1.symm.trans hindex
    · exact (mem_warnings h).1.symm.trans hindex

/-- **Features are reported once for each policy and run.**  The log of a mapper that was built of
some policies accounts for each of those that govern its services by their places: a policy that the
run comes to on some table has its features reported once, together and before its items, and any
other has none.  The features are those that the policy uses, in their fixed order.  A second run
reports all of it again. -/
theorem run_warns_once {plugin : RangerPlugin} {target : Target} {roles : TargetRoles}
    {rules : List Rule} {tables : Source Table} {principals : Source Principal}
    {services : Source RangerService} {policies : Source Policy}
    (h : (build plugin target roles rules tables principals services policies).outcome = .ok m) :
    ∃ ss ps, services.all = .ok ss ∧ policies.all = .ok ps ∧
      (∃ lines, m.Account (governing plugin ss ps) lines) ∧
      (∀ p ∈ governing plugin ss ps, p.unsupported.Sublist Policy.inexpressible ∧
        ∀ feature, feature ∈ p.unsupported ↔ p.Uses feature) ∧
      (m.run.attempt >>= fun _ => m.run).notices = m.run.notices ++ m.run.notices := by
  obtain ⟨judge, known, ss, ps, -, -, hss, hps, rfl⟩ := build_eq_ok_iff.1 h
  refine ⟨ss, ps, hss, hps, ⟨_, account_linesFrom rfl⟩, fun p _ => ?_, rfl⟩
  exact ⟨p.unsupported_sublist, fun _ => Policy.mem_unsupported_iff⟩

/-- A policy on all tables of a database that excludes some and denies others. -/
def denyingPolicy : Policy := { (default : Policy) with
  name := "deny"
  service := "cm_hive"
  serviceType := some "hive"
  type := some 0
  enabled := true
  resources := some (.ofList [("database", ⟨["s"], true, false⟩)])
  denyItems := [default] }

/-- The same policy with an item for a user who is not indexed. -/
def strayPolicy : Policy := { denyingPolicy with
  items := [⟨[⟨"select", true⟩], ["bob"], [], [], [], false⟩] }

/-- Two equal policies, one that ends the run on the first table, and one that it never comes to. -/
def warnedPolicies : List Policy := [denyingPolicy, denyingPolicy, strayPolicy, denyingPolicy]

def warnedMapper : RangerMapper where
  plugin := .hive
  target := .bq
  roles := ⟨"viewer", "editor"⟩
  judge := ⟨"ranger", ⟨[]⟩⟩
  tables := .ofList [⟨"t", "s", "/t", none, some "p.s.t"⟩, ⟨"u", "s", "/u", none, some "p.s.u"⟩]
  principals := ∅
  policies := number warnedPolicies (warnedPolicies.map RangerPlugin.hive.extent)

theorem run_warns_once_warned :
    (build .hive .bq ⟨"viewer", "editor"⟩ [] warnedMapper.tables (.ofList [])
      (.ofList [⟨none, "cm_hive", "hive", none, none, true⟩])
      (.ofList warnedPolicies)).outcome = .ok warnedMapper ∧
    (∃ lines, warnedMapper.Account warnedPolicies lines) ∧
    warnedMapper.run.notices = (List.replicate 3
      [.unsupportedFeature "deny" "denyPolicyItems",
        .unsupportedFeature "deny" "resource isExcludes"]).flatten := by
  have hbuild : (build .hive .bq ⟨"viewer", "editor"⟩ [] warnedMapper.tables (.ofList [])
      (.ofList [⟨none, "cm_hive", "hive", none, none, true⟩])
      (.ofList warnedPolicies)).outcome = .ok warnedMapper := by rfl
  obtain ⟨ss, ps, hss, hps, hlines, -⟩ := run_warns_once hbuild
  rw [Source.all_ofList] at hss hps
  cases hss
  cases hps
  exact ⟨hbuild, hlines, by decide +kernel⟩

end RangerMapper

end Regrant
