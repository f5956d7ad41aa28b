import Regrant.Proofs.Mapping.Judging
import Regrant.Proofs.Rules.Decision

/-!
# What is reported of candidates

Judging a candidate reports the fields of its binding to which rules gave another value
(`overridden_judge`, `Candidate.mem_overrides`).  A run that judges some candidates, and reports no
such field besides, has a verdict on the binding of each (`Judges`).
-/

namespace Regrant

/-! ### The log -/

/-- The fields whose other values a log says were ignored. -/
def overridden (notices : List Notice) : List String :=
  notices.filterMap fun
    | .overrideIgnored field => some field
    | _ => none

@[simp] theorem overridden_append (ns ns' : List Notice) :
    overridden (ns ++ ns') = overridden ns ++ overridden ns' := List.filterMap_append

theorem overridden_overrideIgnored (fields : List String) :
    overridden (fields.map .overrideIgnored) = fields := by
  induction fields with
  | nil => rfl
  | cons field fields ih => exact congrArg (field :: ·) ih

namespace Run

variable {α β : Type}

/-- Nothing that rules gave is reported to be ignored. -/
def Quiet (r : Run α) : Prop := overridden r.notices = []

theorem Quiet.bind {r : Run α} {f : α → Run β} (hr : r.Quiet) (hf : ∀ a, (f a).Quiet) :
    (r >>= f).Quiet := by
  rw [Quiet, notices_bind, overridden_append, hr]
  cases r.outcome with
  | ok a => exact hf a
  | error e => rfl

theorem quiet_ofExcept (x : Except Failure α) : (ofExcept x).Quiet := rfl

end Run

/-! ### Deciding -/

namespace RuleSet

theorem says_decideFrom (facts : Json) (base object : Fields) (index : Nat)
    (rules : List CompiledRule) :
    (decideFrom facts base object index rules).Says fun n => ∃ i, n = .ruleMatched i := by
  induction rules generalizing index with
  | nil => exact Run.says_ofExcept _ (.ok _)
  | cons r rules ih =>
    rw [decideFrom]
    split
    · exact Run.says_ofExcept _ (.error _)
    · exact ih (index + 1)
    · refine (Run.says_ofExcept _ _).bind fun _ _ => (Run.says_ofExcept _ _).bind fun logged _ => ?_
      cases logged with
      | false => exact Run.says_ofExcept _ (.ok _)
      | true => exact List.forall_mem_singleton.2 ⟨index, rfl⟩

/-- Deciding reports nothing but the rule that applied. -/
theorem says_decide (s : RuleSet) (facts : Json) (base defaults : Fields) :
    (s.decide facts base defaults).Says fun n => ∃ i, n = .ruleMatched i :=
  (Run.says_ofExcept _ _).bind fun object _ => says_decideFrom facts base object 0 s.rules

theorem quiet_decide (s : RuleSet) (facts : Json) (base defaults : Fields) :
    (s.decide facts base defaults).Quiet := by
  refine List.filterMap_eq_nil_iff.2 fun n hn => ?_
  obtain ⟨i, rfl⟩ := s.says_decide facts base defaults n hn
  rfl

end RuleSet

/-! ### Judging a candidate -/

/-- The fields of a binding that rules may give, with their values. -/
def IamBinding.fields (b : IamBinding) : List (String × Json) :=
  [("principal", .text b.principal), ("priority", .int b.priority), ("resource_path", .text b.path),
    ("resource_type", .text b.type.name), ("role", .text b.role)]

theorem IamBinding.ascending_fields (b : IamBinding) : Ascending (b.fields.map (·.1)) := by
  simp only [fields, List.map_cons, List.map_nil, Ascending]
  decide

theorem IamBinding.same_iff {b : IamBinding} {e : String × Json} (he : e ∈ b.fields)
    (value : Json) : value.same e.2 = true ↔ value = e.2 := by
  have htext : ∀ s, value.same (.text s) = true ↔ value = .text s := by
    intro s
    cases value <;> simp [Json.same]
  have hint : ∀ n, value.same (.int n) = true ↔ value = .int n := by
    intro n
    cases value with
    | number m => cases m <;> simp [Json.same, Json.int, Number.same]
    | _ => simp [Json.same, Json.int]
  simp only [fields, List.mem_cons, List.not_mem_nil, or_false] at he
  rcases he with rfl | rfl | rfl | rfl | rfl
  · exact htext _
  · exact hint _
  · exact htext _
  · exact htext _
  · exact htext _

namespace Candidate

/-- The fields come in the order of their names. -/
theorem entries_defaults (c : Candidate) : c.defaults.entries = c.binding.fields := by
  refine Ascending.eq_of_mem_iff (f := Prod.fst) c.defaults.ascending_keys
    c.binding.ascending_fields ?_
  rintro ⟨key, value⟩
  rw [← SortedMap.get?_eq_some_iff, defaults, SortedMap.get?_ofList,
    SortedMap.lookup_eq_some_iff (by simp), List.mem_reverse]
  simp [IamBinding.fields, or_left_comm, or_comm]

theorem get?_defaults (c : Candidate) {e : String × Json} (he : e ∈ c.binding.fields) :
    c.defaults.get? e.1 = some e.2 := by
  rw [SortedMap.get?_eq_some_iff, entries_defaults]
  exact he

theorem sublist_overrides (c : Candidate) (object : Fields) :
    (c.overrides object).Sublist (c.binding.fields.map (·.1)) := by
  rw [overrides, entries_defaults]
  exact List.filter_sublist.map _

theorem overrides_eq_nil (c : Candidate) {object : Fields}
    (h : ∀ e ∈ c.binding.fields, object.get? e.1 = some e.2) : c.overrides object = [] := by
  rw [overrides, entries_defaults, List.map_eq_nil_iff, List.filter_eq_nil_iff]
  intro e he
  rw [h e he]
  simp [(IamBinding.same_iff he e.2).2 rfl]

/-- A field of the binding is overridden if the object holds another value for it. -/
theorem mem_overrides {c : Candidate} {object : Fields} {e : String × Json}
    (he : e ∈ c.binding.fields) (hobject : ∃ value, object.get? e.1 = some value) :
    e.1 ∈ c.overrides object ↔ object.get? e.1 ≠ some e.2 := by
  obtain ⟨value, hvalue⟩ := hobject
  have hsame := IamBinding.same_iff he value
  rw [overrides, entries_defaults, List.mem_map]
  constructor
  · rintro ⟨e', he', hkey⟩
    obtain ⟨hmem, hother⟩ := List.mem_filter.1 he'
    obtain rfl := List.inj_on_of_nodup_map c.binding.ascending_fields.nodup hmem he hkey
    rw [hvalue] at hother
    rw [hvalue, Ne, Option.some.injEq, ← hsame]
    simpa using hother
  · intro hne
    refine ⟨e, List.mem_filter.2 ⟨he, ?_⟩, rfl⟩
    rw [hvalue, Ne, Option.some.injEq, ← hsame] at hne
    rw [hvalue]
    simpa using hne

end Candidate

namespace Judge

variable {j : Judge} {c : Candidate} {d : Decision}

/-- What a judge reports to be ignored are the overrides. -/
theorem overridden_judge (h : (j.rules.decide c.facts c.reserved c.defaults).outcome = .ok d) :
    overridden (j.judge c).notices = c.overrides d.object := by
  have hquiet : overridden (j.rules.decide c.facts c.reserved c.defaults).notices = [] :=
    RuleSet.quiet_decide _ _ _ _
  rw [judge, Run.notices_bind, h, overridden_append, hquiet, List.nil_append]
  by_cases haction : d.action = .noMatch
  · -- No rule was there to override anything.
    simp only [if_pos haction]
    rw [Run.notices_bind, c.overrides_eq_nil fun e he => ?_]
    · rfl
    · rw [RuleSet.get?_of_decide_noMatch h haction (c.get?_defaults he)]
  · simp only [if_neg haction]
    rw [Run.notices_bind, Run.outcome_reportAll, Run.notices_reportAll]
    simp only [Run.notices_pure, List.append_nil, overridden_overrideIgnored]

/-- Some candidates were judged: there is a verdict on each, and what was reported to be ignored is
what judging each of them reports. -/
structure Judged (j : Judge) (cs : List Candidate) (notices : List Notice) (vs : List Verdict) :
    Prop where
  verdicts : vs.map .ok = cs.map fun c => (j.judge c).outcome
  log : overridden notices = cs.flatMap fun c => overridden (j.judge c).notices

/-- If the run succeeds, it has judged these candidates. -/
def Judges (j : Judge) (cs : List Candidate) (r : Run (List Verdict)) : Prop :=
  ∀ vs, r.outcome = .ok vs → j.Judged cs r.notices vs

variable {cs cs' : List Candidate} {r r' : Run (List Verdict)}

theorem Judged.nil {notices : List Notice} (h : overridden notices = []) : j.Judged [] notices [] :=
  ⟨rfl, h⟩

theorem Judged.append {ns ns' : List Notice} {vs vs' : List Verdict} (h : j.Judged cs ns vs)
    (h' : j.Judged cs' ns' vs') : j.Judged (cs ++ cs') (ns ++ ns') (vs ++ vs') :=
  ⟨by rw [List.map_append, List.map_append, h.verdicts, h'.verdicts],
    by rw [overridden_append, List.flatMap_append, h.log, h'.log]⟩

theorem judges_pure : j.Judges [] (.pure []) := by
  intro vs h
  cases h
  exact .nil rfl

theorem judges_bind {α : Type} {s : Run α} {f : α → Run (List Verdict)} (hs : s.Quiet)
    (h : ∀ a, s.outcome = .ok a → j.Judges cs (f a)) : j.Judges cs (s >>= f) := by
  intro vs hvs
  obtain ⟨a, ha, hvs, hnotices⟩ := Run.exists_of_bind_eq_ok hvs
  rw [hnotices]
  exact (Judged.nil hs).append (h a ha vs hvs)

theorem judges_append (h : j.Judges cs r) (h' : j.Judges cs' r') :
    j.Judges (cs ++ cs') (do
      let vs ← r
      return vs ++ (← r')) := by
  intro vs hvs
  obtain ⟨vs₁, h₁, hvs, hnotices⟩ := Run.exists_of_bind_eq_ok hvs
  obtain ⟨vs₂, h₂, hvs, hnotices'⟩ := Run.exists_of_bind_eq_ok hvs
  cases hvs
  rw [hnotices, hnotices']
  exact (h vs₁ h₁).append (by simpa using h' vs₂ h₂)

/-- Runs that also hand on some state. -/
theorem judged_append_state {σ : Type} {b : σ} {vs : List Verdict} {r' : Run (List Verdict × σ)}
    (h : j.Judges cs r)
    (h' : ∀ vs b, r'.outcome = .ok (vs, b) → j.Judged cs' r'.notices vs)
    (hvs : (do
      let vs ← r
      let (rest, b) ← r'
      return (vs ++ rest, b) : Run (List Verdict × σ)).outcome = .ok (vs, b)) :
    j.Judged (cs ++ cs') (do
      let vs ← r
      let (rest, b) ← r'
      return (vs ++ rest, b) : Run (List Verdict × σ)).notices vs := by
  obtain ⟨vs₁, h₁, hvs, hnotices⟩ := Run.exists_of_bind_eq_ok hvs
  obtain ⟨⟨vs₂, _⟩, h₂, hvs, hnotices'⟩ := Run.exists_of_bind_eq_ok hvs
  cases hvs
  rw [hnotices, hnotices']
  exact (h vs₁ h₁).append (by simpa using h' vs₂ _ h₂)

/-- Judging a candidate, if there is one, before the rest. -/
theorem judges_step {s : Run (Option Candidate)} {c? : Option Candidate} (hs : s.Quiet)
    (hc : ∀ c?', s.outcome = .ok c?' → c?' = c?) (h : j.Judges cs r) :
    j.Judges (c?.toList ++ cs) (do
      match ← s with
      | none => r
      | some c => do
        let v ← j.judge c
        return v :: (← r)) := by
  refine judges_bind hs fun c?' hc' => ?_
  obtain rfl := hc c?' hc'
  cases c?' with
  | none => exact h
  | some c =>
    intro vs hvs
    obtain ⟨v, hv, hvs, hnotices⟩ := Run.exists_of_bind_eq_ok hvs
    obtain ⟨vs', hvs', hvs, hnotices'⟩ := Run.exists_of_bind_eq_ok hvs
    cases hvs
    have hone : j.Judged [c] (j.judge c).notices [v] :=
      ⟨by rw [List.map_singleton, List.map_singleton, hv], by rw [List.flatMap_singleton]⟩
    rw [hnotices, hnotices']
    exact hone.append (by simpa using h vs' hvs')

/-- A verdict is on the binding of its candidate, and some rule led to it. -/
theorem binding_of_judge {v : Verdict} (h : (j.judge c).outcome = .ok v) :
    v.binding = c.binding ∧ v.action ≠ .noMatch := by
  rw [outcome_judge] at h
  obtain ⟨action, haction, rfl⟩ := exceptMap_eq_ok_iff.1 h
  rw [Judge.action] at haction
  split at haction
  · cases haction
  · split at haction
    · cases haction
    · cases haction
      exact ⟨rfl, ‹_›⟩

theorem Judged.bindings (h : j.Judged cs notices vs) :
    vs.map (·.binding) = cs.map (·.binding) := by
  have hverdicts := h.verdicts
  clear h
  induction cs generalizing vs with
  | nil => rw [List.map_eq_nil_iff.1 hverdicts, List.map_nil, List.map_nil]
  | cons c cs ih =>
    obtain ⟨v, vs, rfl⟩ : ∃ v vs', vs = v :: vs' := by
      cases vs with
      | nil => cases hverdicts
      | cons v vs => exact ⟨v, vs, rfl⟩
    obtain ⟨hv, hvs⟩ := List.cons.inj hverdicts
    rw [List.map_cons, List.map_cons, (binding_of_judge hv.symm).1, ih hvs]

theorem Judged.action_ne (h : j.Judged cs notices vs) : ∀ v ∈ vs, v.action ≠ .noMatch := by
  intro v hv
  have hmem : (.ok v : Except Failure Verdict) ∈ cs.map fun c => (j.judge c).outcome := by
    rw [← h.verdicts]
    exact List.mem_map_of_mem hv
  obtain ⟨c, -, hc⟩ := List.mem_map.1 hmem
  exact (binding_of_judge hc).2

end Judge

end Regrant
