import Regrant.Proofs.Rules.Layers

/-!
# When rules come to a decision

The first rule that applies comes to a decision exactly if all that it says has a value and it gives
no reserved field (`Rule.Evaluates`, `exists_decide_iff`).  Exactly if the conditions of all rules
are false, what they come to is that nothing is decided (`decide_noMatch_iff`).
-/

namespace Regrant

variable {scope : List String} {facts : Json} {base object defaults : Fields} {index : Nat}

/-- Whether a rule wants to be logged: the value of its condition for this. -/
def Rule.logged (scope : List String) (facts : Json) (r : Rule) : Except Failure Bool :=
  (Formula.ofSource scope r.log).bind (·.holds facts)

/-- All fields that a rule gives have values and none of them is reserved, and the rule says whether
it wants to be logged. -/
structure Rule.Evaluates (scope : List String) (facts : Json) (reserved : List String) (r : Rule) :
    Prop where
  given : ∀ key f, r.map.bind (·.get? key) = some f →
    key ∉ reserved ∧ ∃ value, f.given? scope facts = some value
  logged : ∃ b, r.logged scope facts = .ok b

namespace RuleSet

/-! ### The effect of a rule -/

/-- Fields can be given exactly if they have values and are not reserved. -/
theorem exists_give_iff {fields : List (String × CompiledField)} :
    (∃ object', give facts base object fields = .ok object') ↔
      ∀ field ∈ fields, base.contains field.1 = false ∧
        ∃ value, field.2.value facts = .ok value := by
  constructor
  · rintro ⟨_, h⟩
    exact given_of_give h
  · intro h
    induction fields generalizing object with
    | nil => exact ⟨object, rfl⟩
    | cons field fields ih =>
      obtain ⟨⟨hfree, value, hvalue⟩, hfields⟩ := List.forall_mem_cons.1 h
      rw [give, hfree, hvalue]
      exact ih hfields

/-- Fields have values after they were compiled exactly if they had before. -/
theorem forall_compiled_iff {fields : SortedMap String MapField}
    {compiled : SortedMap String CompiledField}
    (h : MapField.CompilesAll scope fields.entries compiled.entries) :
    (∀ field ∈ compiled.entries, base.contains field.1 = false ∧
        ∃ value, field.2.value facts = .ok value) ↔
      ∀ key f, fields.get? key = some f →
        key ∉ base.keys ∧ ∃ value, f.given? scope facts = some value := by
  have hget := h.map_get? facts
  constructor
  · intro hcompiled key f hf
    have hkey := hget key
    rw [hf, Option.map_some] at hkey
    obtain ⟨c, hc, hvalue⟩ := Option.map_eq_some_iff.1 hkey
    obtain ⟨hfree, value, hok⟩ := hcompiled _ (SortedMap.get?_eq_some_iff.1 hc)
    refine ⟨SortedMap.contains_eq_false_iff.1 hfree, value, ?_⟩
    rw [← hvalue, hok]
    rfl
  · rintro hfields ⟨key, c⟩ hmem
    have hkey := hget key
    rw [SortedMap.get?_eq_some_iff.2 hmem, Option.map_some] at hkey
    obtain ⟨f, hf, hvalue⟩ := Option.map_eq_some_iff.1 hkey.symm
    obtain ⟨hfree, value, hgiven⟩ := hfields key f hf
    exact ⟨SortedMap.contains_eq_false_iff.2 hfree, value,
      eq_ok_of_toOption (hvalue.symm.trans hgiven)⟩

/-- A rule that maps gives its fields. -/
theorem exists_applyEffect_map_iff {fields : SortedMap String CompiledField} :
    (∃ x, applyEffect facts base object (.map fields) = .ok x) ↔
      ∃ object', give facts base object fields.entries = .ok object' := by
  simp only [applyEffect, exceptMap_eq_ok_iff]
  constructor
  · rintro ⟨_, object', hgive, -⟩
    exact ⟨object', hgive⟩
  · rintro ⟨object', hgive⟩
    exact ⟨_, object', hgive, rfl⟩

theorem exists_applyEffect_iff {r : Rule} {effect : RuleEffect}
    (h : r.CompilesEffect scope effect) :
    (∃ x, applyEffect facts base object effect = .ok x) ↔
      ∀ key f, r.map.bind (·.get? key) = some f →
        key ∉ base.keys ∧ ∃ value, f.given? scope facts = some value := by
  cases h with
  | skip hskip hmap =>
    refine iff_of_true ⟨_, rfl⟩ fun key f hf => ?_
    rw [hmap] at hf
    cases hf
  | map hskip hfields =>
    simp only [r.bind_get?_map]
    rw [exists_applyEffect_map_iff, exists_give_iff]
    exact forall_compiled_iff hfields

/-! ### The rules that were compiled -/

section

variable {r : Rule} {rules : List Rule} {c : CompiledRule} {compiled : List CompiledRule}

theorem holds_log_of_compiles (h : r.Compiles scope c) :
    c.log.holds facts = r.logged scope facts := by
  rw [Rule.logged, Formula.ofSource_eq_ok_iff.2 h.log]
  rfl

theorem forall_holds_iff (h : List.Forall₂ (Rule.Compiles scope) rules compiled) :
    (∀ c ∈ compiled, c.condition.holds facts = .ok false) ↔
      ∀ r ∈ rules, r.applies scope facts = .ok false := by
  induction h with
  | nil => exact iff_of_true (List.forall_mem_nil _) (List.forall_mem_nil _)
  | cons hc _ ih => rw [List.forall_mem_cons, List.forall_mem_cons, ih, hc.holds_condition]

/-- The first rule that applies is the first of the compiled ones whose condition is not false. -/
theorem exists_compiled_of_firstMatch (hfirst : FirstMatch scope facts rules r)
    (h : List.Forall₂ (Rule.Compiles scope) rules compiled) :
    ∃ before c after, compiled = before ++ c :: after ∧
      (∀ c' ∈ before, c'.condition.holds facts = .ok false) ∧
      c.condition.holds facts = .ok true ∧ r.Compiles scope c := by
  induction hfirst generalizing compiled with
  | here happlies =>
    obtain ⟨c, compiled, hc, -, rfl⟩ := List.forall₂_cons_left_iff.1 h
    exact ⟨[], c, compiled, rfl, List.forall_mem_nil _,
      (hc.holds_condition facts).trans happlies, hc⟩
  | later hpass _ ih =>
    obtain ⟨c, compiled, hc, hcompiled, rfl⟩ := List.forall₂_cons_left_iff.1 h
    obtain ⟨before, c', after, rfl, hbefore, hrule⟩ := ih hcompiled
    exact ⟨c :: before, c', after, rfl,
      List.forall_mem_cons.2 ⟨(hc.holds_condition facts).trans hpass, hbefore⟩, hrule⟩

end

/-! ### Decisions -/

/-- A rule that applies decides if its effect does, and it says whether to log this. -/
theorem exists_decideFrom_iff {c : CompiledRule} {rest : List CompiledRule}
    (h : c.condition.holds facts = .ok true) :
    (∃ d, (decideFrom facts base object index (c :: rest)).outcome = .ok d) ↔
      (∃ x, applyEffect facts base object c.effect = .ok x) ∧ ∃ b, c.log.holds facts = .ok b := by
  rw [decideFrom, h]
  constructor
  · rintro ⟨d, hd⟩
    obtain ⟨x, happly, hd⟩ := Run.bind_eq_ok_iff.1 hd
    obtain ⟨b, hlog, -⟩ := Run.bind_eq_ok_iff.1 hd
    exact ⟨⟨x, happly⟩, b, hlog⟩
  · rintro ⟨⟨⟨action, object'⟩, happly⟩, b, hlog⟩
    refine ⟨⟨action, object', some index⟩, Run.bind_eq_ok_iff.2 ⟨_, happly, ?_⟩⟩
    refine Run.bind_eq_ok_iff.2 ⟨b, hlog, ?_⟩
    cases b <;> rfl

variable {rules : List Rule} {s : RuleSet}

/-- **The first rule that applies decides exactly if it evaluates.** -/
theorem exists_decide_iff {r : Rule} (hcompile : compile scope rules = .ok s)
    (hdisjoint : base.keys.Disjoint defaults.keys) (hfirst : FirstMatch scope facts rules r) :
    (∃ d, (s.decide facts base defaults).outcome = .ok d) ↔
      r.Evaluates scope facts base.keys := by
  obtain ⟨object, hdecide⟩ := exists_decide_eq s facts hdisjoint
  obtain ⟨before, c, after, hcompiled, hbefore, hholds, hc⟩ :=
    exists_compiled_of_firstMatch hfirst (compile_eq_ok_iff.1 hcompile)
  rw [hdecide, hcompiled, decideFrom_append hbefore, exists_decideFrom_iff hholds,
    exists_applyEffect_iff hc.effect, holds_log_of_compiles hc]
  exact ⟨fun ⟨hgiven, hlog⟩ => ⟨hgiven, hlog⟩, fun h => ⟨h.given, h.logged⟩⟩

/-- **Nothing is decided exactly if the conditions of all rules are false.** -/
theorem decide_noMatch_iff (hcompile : compile scope rules = .ok s)
    (hdisjoint : base.keys.Disjoint defaults.keys) :
    (∃ d, (s.decide facts base defaults).outcome = .ok d ∧ d.action = .noMatch) ↔
      ∀ r ∈ rules, r.applies scope facts = .ok false := by
  rw [← forall_holds_iff (compile_eq_ok_iff.1 hcompile)]
  constructor
  · rintro ⟨d, hd, haction⟩
    obtain ⟨_, -, ⟨hfalse, -⟩ | ⟨_, _, -, -, happly⟩⟩ := decided_of_decide hd
    · exact hfalse
    · exact absurd haction (ne_noMatch_of_applyEffect happly)
  · intro hfalse
    obtain ⟨object, hdecide⟩ := exists_decide_eq s facts hdisjoint
    rw [hdecide, decideFrom_of_forall_false hfalse]
    exact ⟨_, rfl, rfl⟩

end RuleSet

end Regrant
