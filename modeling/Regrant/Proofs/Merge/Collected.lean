import Regrant.Binding.Merge
import Regrant.Proofs.Run

/-!
# What the merge collects

The failure of a mapper is confined to it unless it is fatal (`confined`).  So what is collected from
some mappers is what those of them that succeed map (`mem_collect_iff`), and collecting from two lists
of mappers is collecting from each (`outcome_collect_append`).
-/

namespace Regrant

/-! ### Confined failures -/

/-- A failure that is not fatal is confined: there is no value then, and nothing else. -/
def confined {α : Type} : Except Failure α → Except Failure (Option α)
  | .ok a => .ok (some a)
  | .error e => if e.fatal then .error e else .ok none

theorem confined_error {α : Type} {e : Failure} (h : e.fatal = false) :
    confined (.error e : Except Failure α) = .ok none := by
  rw [confined, if_neg (by simp [h])]

theorem confined_eq_ok_some_iff {α : Type} {x : Except Failure α} {a : α} :
    confined x = .ok (some a) ↔ x = .ok a := by
  cases x with
  | ok b => simp [confined]
  | error e => by_cases he : e.fatal = true <;> simp [confined, he]

namespace Merge

/-! ### What is collected -/

/-- What a mapper maps. -/
def mapped (m : BindingMapper) : Except Failure (List IamBinding) :=
  m.run.outcome.map fun verdicts => (verdicts.filter (·.action = .map)).map (·.binding)

theorem outcome_candidates (m : BindingMapper) :
    (candidates m).outcome = (confined (mapped m)).map (·.getD []) := by
  rw [candidates, Run.outcome_bind, mapped]
  simp only [Run.attempt]
  cases m.run.outcome with
  | ok verdicts => rfl
  | error e => by_cases he : e.fatal = true <;> simp [Except.map, confined, he]

/-- A mapper that succeeds adds what it maps. -/
theorem outcome_collect_cons {m : BindingMapper} {ms : List BindingMapper} {vs : List Verdict}
    {cs : List IamBinding} (hm : m.run.outcome = .ok vs) (hms : (collect ms).outcome = .ok cs) :
    (collect (m :: ms)).outcome = .ok ((vs.filter (·.action = .map)).map (·.binding) ++ cs) := by
  rw [collect, Run.outcome_bind, outcome_candidates, mapped, hm]
  simp only [Except.map, confined, Option.getD_some, Run.outcome_bind, hms]
  rfl

/-- **Collecting confines the failures of mappers.** -/
theorem outcome_collect (ms : List BindingMapper) :
    (collect ms).outcome = (gathered (ms.map fun m => confined (mapped m))).map List.flatten := by
  induction ms with
  | nil => rfl
  | cons m ms ih =>
    rw [List.map_cons, collect, Run.outcome_bind, outcome_candidates]
    cases confined (mapped m) with
    | error e => rfl
    | ok l? =>
      simp only [Except.map, Run.outcome_bind, ih]
      cases l? with
      | none =>
        rw [gathered_none]
        cases gathered (ms.map fun m => confined (mapped m)) <;> rfl
      | some l =>
        rw [gathered_some]
        cases gathered (ms.map fun m => confined (mapped m)) <;> rfl

/-- If no failure is fatal, what succeeds is collected. -/
theorem outcome_collect_of_confined {ms : List BindingMapper}
    (h : ∀ m ∈ ms, confined (mapped m) = .ok (mapped m).toOption) :
    (collect ms).outcome = .ok (ms.flatMap fun m => (mapped m).toOption.getD []) := by
  induction ms with
  | nil => rfl
  | cons m ms ih =>
    obtain ⟨hm, hms⟩ := List.forall_mem_cons.1 h
    rw [collect, Run.outcome_bind, outcome_candidates, hm]
    simp only [Except.map, Run.outcome_bind, ih hms]
    rfl

/-- Collecting from two lists of mappers. -/
theorem outcome_collect_append {ms ms' : List BindingMapper} {cs cs' : List IamBinding}
    (h : (collect ms).outcome = .ok cs) (h' : (collect ms').outcome = .ok cs') :
    (collect (ms ++ ms')).outcome = .ok (cs ++ cs') := by
  rw [outcome_collect] at h h' ⊢
  obtain ⟨ls, hls, rfl⟩ := exceptMap_eq_ok_iff.1 h
  obtain ⟨ls', hls', rfl⟩ := exceptMap_eq_ok_iff.1 h'
  rw [List.map_append, gathered_append, hls, ← List.flatten_append]
  simp only [hls', Except.map]

/-- The mapper succeeds, and it maps the binding. -/
def Maps (m : BindingMapper) (c : IamBinding) : Prop :=
  ∃ vs, m.run.outcome = .ok vs ∧ ∃ v ∈ vs, v.action = .map ∧ v.binding = c

theorem maps_iff {m : BindingMapper} {c : IamBinding} :
    Maps m c ↔ ∃ l, confined (mapped m) = .ok (some l) ∧ c ∈ l := by
  simp only [confined_eq_ok_some_iff, mapped, exceptMap_eq_ok_iff, Maps]
  constructor
  · rintro ⟨vs, hvs, v, hv, haction, rfl⟩
    exact ⟨_, ⟨vs, hvs, rfl⟩, List.mem_map_of_mem (List.mem_filter.2 ⟨hv, decide_eq_true haction⟩)⟩
  · rintro ⟨_, ⟨vs, hvs, rfl⟩, hc⟩
    obtain ⟨v, hv, rfl⟩ := List.mem_map.1 hc
    obtain ⟨hv, haction⟩ := List.mem_filter.1 hv
    exact ⟨vs, hvs, v, hv, of_decide_eq_true haction, rfl⟩

/-- **What is collected** is what mappers that succeed map. -/
theorem mem_collect_iff {ms : List BindingMapper} {cs : List IamBinding}
    (h : (collect ms).outcome = .ok cs) {c : IamBinding} : c ∈ cs ↔ ∃ m ∈ ms, Maps m c := by
  rw [outcome_collect] at h
  obtain ⟨ls, hls, rfl⟩ := exceptMap_eq_ok_iff.1 h
  obtain ⟨values, hvalues, rfl⟩ := gathered_eq_ok_iff.1 hls
  have hmem : ∀ l, some l ∈ values ↔ ∃ m ∈ ms, confined (mapped m) = .ok (some l) := by
    intro l
    have hmap : .ok (some l) ∈ values.map (.ok : _ → Except Failure (Option (List IamBinding))) ↔
        .ok (some l) ∈ ms.map fun m => confined (mapped m) := by rw [hvalues]
    simpa using hmap
  simp only [List.mem_flatten, List.mem_filterMap, id_eq, exists_eq_right, hmem, maps_iff]
  constructor
  · rintro ⟨l, ⟨m, hm, hl⟩, hc⟩
    exact ⟨m, hm, l, hl, hc⟩
  · rintro ⟨m, hm, l, hl, hc⟩
    exact ⟨l, ⟨m, hm, hl⟩, hc⟩

/-- Merging resolves what is collected, if there is a mapper. -/
theorem outcome_run (ms : List BindingMapper) (roles : RoleMappings) :
    (run ms roles).outcome = if ms = [] then .error (.invalidConfig .noPermissionMappers)
      else (collect ms).outcome.map fun l => (resolve (.ofMappings roles) l).2 := by
  rw [run]
  cases ms with
  | nil => rfl
  | cons m ms =>
    simp only [List.isEmpty_cons, Bool.false_eq_true, if_false, reduceCtorEq]
    rw [Run.outcome_bind]
    cases (collect (m :: ms)).outcome <;> rfl

theorem run_eq_ok_iff {ms : List BindingMapper} {roles : RoleMappings} {bs : List IamBinding} :
    (run ms roles).outcome = .ok bs ↔ ms ≠ [] ∧
      ∃ cs, (collect ms).outcome = .ok cs ∧ (resolve (.ofMappings roles) cs).2 = bs := by
  rw [outcome_run]
  split
  · simp [*]
  · rw [exceptMap_eq_ok_iff]
    exact (and_iff_right ‹_›).symm

variable {m : BindingMapper} {ms ms' : List BindingMapper} {e : Failure}

/-- **A mapper that fails is as good as none**, if there are others. -/
theorem outcome_run_append_cons (h : m.run.outcome = .error e) (he : e.fatal = false)
    (hne : ms ++ ms' ≠ []) (roles : RoleMappings) :
    (run (ms ++ m :: ms') roles).outcome = (run (ms ++ ms') roles).outcome := by
  have hm : confined (mapped m) = .ok none := by
    rw [mapped, h]
    exact confined_error he
  rw [outcome_run, outcome_run, if_neg (by simp), if_neg hne, outcome_collect, outcome_collect,
    List.map_append, List.map_append, List.map_cons, hm, gathered_append, gathered_append,
    gathered_none]

end Merge

end Regrant
