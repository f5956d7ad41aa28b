import Regrant.Binding.Ranger
import Regrant.Proofs.Mapping.Judging

/-!
# What a Ranger mapper yields

The run of a mapper goes through tables, policies, items and identities one inside the other, and it
stops at the first failure wherever that occurs.  `outcome_run` says the same without a run: list
the identities that the policies name on the tables (`entries`), decide on each of them alone
(`decision`), and the mapper yields the verdicts in the order of this list, or the first failure.
-/

namespace Regrant

namespace RangerMapper

/-! ### The definition -/

/-- An identity that an item of a policy names, on a table that the policy covers. -/
structure Entry where
  site : Site
  policy : Policy
  item : PolicyItem
  identity : RangerIdentity

/-- The identities that a policy names: by items, and in an item users before groups before
roles. -/
def entriesIn (s : Site) (p : Policy) : List Entry :=
  p.items.flatMap fun item =>
    item.users.map (⟨s, p, item, ⟨.user, ·⟩⟩) ++ item.groups.map (⟨s, p, item, ⟨.group, ·⟩⟩) ++
      item.roles.map (⟨s, p, item, ⟨.role, ·⟩⟩)

/-- The policy covers the table of a site. -/
def covers (s : Site) (p : NumberedPolicy) : Bool := p.coverage.covers s.table s.fsPath

/-- The identities that the policies that cover a table name, by policies. -/
def entriesOn (m : RangerMapper) (s : Site) : List Entry :=
  (m.policies.filter (covers s)).flatMap fun p => entriesIn s p.policy

/-- The entries of a record of a table.  A table without a path on the target has none, and a record
or a location that is broken is a failure in their place. -/
def entriesOf (m : RangerMapper) : Except Failure Table → List (Except Failure Entry)
  | .error e => [.error e]
  | .ok t => match m.target.path? t with
    | none => []
    | some path => match t.fsPath with
      | .error e => [.error e]
      | .ok fsPath => (m.entriesOn ⟨t, fsPath, path⟩).map .ok

/-- All entries by tables; that the tables cannot be read is the only one then. -/
def entries (m : RangerMapper) : List (Except Failure Entry) :=
  match m.tables with
  | .error e => [.error e]
  | .ok tables => tables.flatMap m.entriesOf

/-- The role for what an item allows: for writing if it allows to write, else for reading. -/
def role? (m : RangerMapper) (item : PolicyItem) : Option String :=
  if ∃ a ∈ item.accesses, a.allowed ∧ a.type ∈ m.plugin.writing then some m.roles.write
  else if ∃ a ∈ item.accesses, a.allowed ∧ a.type ∈ m.plugin.reading then some m.roles.read
  else none

/-- The binding for an entry whose identity resolves to a principal, unless the principal is
skipped or has no type or no address, or the item allows nothing that a role is for. -/
def binding? (m : RangerMapper) (x : Entry) (principal : Principal) : Option IamBinding :=
  match principal.skip, principal.type, principal.email, m.role? x.item with
  | false, some type, some email, some role =>
    some ⟨m.target.resourceType, x.site.path, type.name ++ ":" ++ email, role, 0, ∅, ∅⟩
  | _, _, _, _ => none

/-- What an entry amounts to.  An identity that resolves to no principal is a failure, even where
nothing would be granted to it.  The verdict is that of the rules on the binding, with the policy
and the identity as its records. -/
def decision (m : RangerMapper) (x : Entry) : Except Failure (Option Verdict) :=
  match m.principals.get? ⟨x.identity.type.key, x.identity.name⟩ with
  | none => .error
      (.danglingPrincipal m.plugin.label x.policy.name x.identity.type.key x.identity.name)
  | some principal => match m.binding? x principal with
    | none => .ok none
    | some b =>
      let candidate :=
        Candidate.of "ranger" x.site.table principal x.identity.toJson x.policy.toJson b
      (m.judge.action candidate).map fun action => some ⟨action,
        b.withRecord "ranger" x.policy.toJson.sortKeys x.identity.toJson.sortKeys⟩

/-! ### The run -/

theorem role?_eq (m : RangerMapper) (item : PolicyItem) :
    m.role? item = (m.plugin.access? item).map m.roles.role := by
  have hany : ∀ names : List String,
      names.any (item.allowed.contains ·) = true ↔
        ∃ a ∈ item.accesses, a.allowed ∧ a.type ∈ names := by
    intro names
    simp only [List.any_eq_true, List.contains_iff_mem, PolicyItem.allowed, List.mem_map,
      List.mem_filter]
    constructor
    · rintro ⟨_, hname, a, ⟨ha, hallowed⟩, rfl⟩
      exact ⟨a, ha, hallowed, hname⟩
    · rintro ⟨a, ha, hallowed, hname⟩
      exact ⟨a.type, hname, a, ⟨ha, hallowed⟩, rfl⟩
  rw [role?, RangerPlugin.access?]
  simp only [hany]
  split
  · rfl
  · split <;> rfl

/-- An identity is correlated to the candidate of its binding. -/
theorem outcome_correlate (m : RangerMapper) (x : Entry) :
    (m.correlate x.site x.policy x.item x.identity).outcome =
      match m.principals.get? ⟨x.identity.type.key, x.identity.name⟩ with
      | none => .error
          (.danglingPrincipal m.plugin.label x.policy.name x.identity.type.key x.identity.name)
      | some principal => .ok ((m.binding? x principal).map
          (Candidate.of "ranger" x.site.table principal x.identity.toJson x.policy.toJson)) := by
  rw [correlate]
  cases m.principals.get? ⟨x.identity.type.key, x.identity.name⟩ with
  | none => rfl
  | some principal =>
    obtain ⟨skip, email, type, sources⟩ := principal
    simp only [binding?, role?_eq]
    cases skip with
    | true => simp
    | false =>
      cases m.plugin.access? x.item with
      | none => simp
      | some access =>
        cases type with
        | none => simp [Principal.identity?]
        | some type => cases email <;> simp [Principal.identity?, system, priority]

theorem decision_eq (m : RangerMapper) (x : Entry) :
    m.decision x = match (m.correlate x.site x.policy x.item x.identity).outcome with
      | .ok c? => m.judge.step c?
      | .error e => .error e := by
  rw [decision, outcome_correlate]
  cases m.principals.get? ⟨x.identity.type.key, x.identity.name⟩ with
  | none => rfl
  | some principal => cases h : m.binding? x principal <;> simp [h] <;> rfl

theorem outcome_runIdentities (m : RangerMapper) (s : Site) (p : Policy) (item : PolicyItem)
    (is : List RangerIdentity) :
    (m.runIdentities s p item is).outcome =
      gathered (is.map fun i => m.decision ⟨s, p, item, i⟩) := by
  induction is with
  | nil => rfl
  | cons i is ih =>
    rw [List.map_cons, decision_eq]
    exact m.judge.outcome_step_cons (m.correlate s p item i) ih

theorem outcome_runItems (m : RangerMapper) (s : Site) (p : Policy) (items : List PolicyItem) :
    (m.runItems s p items).outcome = gathered (items.flatMap fun item =>
      item.identities.map fun i => m.decision ⟨s, p, item, i⟩) := by
  induction items with
  | nil => rfl
  | cons item items ih =>
    rw [List.flatMap_cons]
    exact outcome_append (m.outcome_runIdentities s p item item.identities) ih

/-- Running the items of a policy decides on what the policy names. -/
theorem outcome_runItems_items (m : RangerMapper) (s : Site) (p : Policy) :
    (m.runItems s p p.items).outcome = gathered ((entriesIn s p).map m.decision) := by
  rw [outcome_runItems, entriesIn, List.map_flatMap]
  simp [PolicyItem.identities, Function.comp_def]

theorem outcome_runPolicies (m : RangerMapper) (s : Site) (seen : List Nat)
    (ps : List NumberedPolicy) :
    ∃ seen', (m.runPolicies s seen ps).outcome =
      (gathered (((ps.filter (covers s)).flatMap fun p => entriesIn s p.policy).map m.decision)).map
        (·, seen') := by
  induction ps generalizing seen with
  | nil => exact ⟨seen, rfl⟩
  | cons p ps ih =>
    rw [runPolicies]
    by_cases h : p.coverage.covers s.table s.fsPath = true
    · obtain ⟨seen', hrest⟩ := ih (p.index :: seen)
      have hitems := m.outcome_runItems_items s p.policy
      refine ⟨seen', ?_⟩
      rw [if_pos h, List.filter_cons_of_pos (p := covers s) h, List.flatMap_cons, List.map_append,
        gathered_append, ← hitems]
      generalize gathered (((ps.filter (covers s)).flatMap fun p => entriesIn s p.policy).map
        m.decision) = rest at hrest
      split <;> simp only [Run.outcome_bind, Run.outcome_reportAll, hrest] <;>
        cases (m.runItems s p.policy p.policy.items).outcome <;> cases rest <;> rfl
    · rw [if_neg h, List.filter_cons_of_neg (p := covers s) h]
      exact ih seen

/-- The decisions on the entries of a table that has a path on the target. -/
theorem decisions_entriesOn (m : RangerMapper) (s : Site) :
    ((m.entriesOn s).map Except.ok).map (Except.bind · m.decision) =
      (m.entriesOn s).map m.decision := by
  rw [List.map_map]
  rfl

theorem outcome_runTables (m : RangerMapper) (seen : List Nat)
    (tables : List (Except Failure Table)) :
    (m.runTables seen tables).outcome =
      gathered ((tables.flatMap m.entriesOf).map (Except.bind · m.decision)) := by
  induction tables generalizing seen with
  | nil => rfl
  | cons t? tables ih =>
    rw [List.flatMap_cons, List.map_append]
    cases t? with
    | error e => rfl
    | ok t =>
      rw [runTables, Run.outcome_bind, Run.outcome_ofExcept, site, entriesOf]
      cases m.target.path? t with
      | none => exact ih seen
      | some path =>
        cases t.fsPath with
        | error e => rfl
        | ok fsPath =>
          obtain ⟨seen', hs⟩ := m.outcome_runPolicies ⟨t, fsPath, path⟩ seen m.policies
          simp only [Except.map, Run.outcome_bind, hs, decisions_entriesOn, gathered_append, ih]
          rw [entriesOn]
          cases gathered (((m.policies.filter (covers ⟨t, fsPath, path⟩)).flatMap fun p =>
            entriesIn ⟨t, fsPath, path⟩ p.policy).map m.decision) with
          | error e => rfl
          | ok vs =>
            cases gathered ((tables.flatMap m.entriesOf).map (Except.bind · m.decision)) <;> rfl

theorem outcome_run (m : RangerMapper) :
    m.run.outcome = gathered (m.entries.map (Except.bind · m.decision)) := by
  rw [run, Run.outcome_bind, Run.outcome_ofExcept, entries]
  cases m.tables with
  | error e => rfl
  | ok tables => exact m.outcome_runTables [] tables

/-- **The mapper decides on each entry alone.**  It yields verdicts exactly if no entry is broken
and no decision fails, and then the verdicts of all entries that have one, in their order.  It fails
exactly with the failure of the first entry that is broken or whose decision fails. -/
theorem run_decides_entries (m : RangerMapper) :
    (∀ vs, m.run.outcome = .ok vs ↔ ∃ decided : List (Option Verdict),
      m.entries.map (Except.bind · m.decision) = decided.map .ok ∧ vs = decided.filterMap id) ∧
    ∀ e, m.run.outcome = .error e ↔
      ∃ (decided : List (Option Verdict)) (rest : List (Except Failure (Option Verdict))),
        m.entries.map (Except.bind · m.decision) = decided.map .ok ++ .error e :: rest := by
  rw [outcome_run]
  exact ⟨fun _ => gathered_eq_ok_iff, fun _ => gathered_eq_error_iff⟩

end RangerMapper

end Regrant
