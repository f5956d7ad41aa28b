import Regrant.Proofs.Expr.Scope
import Regrant.Proofs.Rules.Compilation

/-!
# Rules see only the variables in scope

Every formula of compiled rules was checked against the scope that they were compiled for
(`RuleSet.agrees_of_compiles`).  So on facts that agree in this scope the same rule decides,
it gives the same fields, and the same is reported (`RuleSet.decide_congr`).
-/

namespace Regrant

variable {scope : List String} {facts facts' : Json} {base object : Fields} {index : Nat}

/-- A compiled rule does on some facts what it does on others. -/
structure CompiledRule.Agrees (facts facts' : Json) (r : CompiledRule) : Prop where
  condition : r.condition.holds facts = r.condition.holds facts'
  log : r.log.holds facts = r.log.holds facts'
  effect : ∀ base object, RuleSet.applyEffect facts base object r.effect =
    RuleSet.applyEffect facts' base object r.effect

namespace RuleSet

/-! ### Fields -/

theorem value_congr_of_compiles {f : MapField} {c : CompiledField} (hc : f.Compiles scope c)
    (h : Json.AgreeOn scope facts facts') : c.value facts = c.value facts' := by
  cases hc with
  | formula hf => exact Formula.value_congr (Formula.ofSource_eq_ok_iff.2 hf) h
  | constant => rfl

theorem give_congr {fields : List (String × CompiledField)}
    (h : ∀ field ∈ fields, field.2.value facts = field.2.value facts') :
    give facts base object fields = give facts' base object fields := by
  induction fields generalizing object with
  | nil => rfl
  | cons field fields ih =>
    obtain ⟨hfield, hfields⟩ := List.forall_mem_cons.1 h
    rw [give, give, hfield]
    simp only [ih hfields]

/-! ### Rules -/

theorem applyEffect_congr_of_compiles {r : Rule} {effect : RuleEffect}
    (hc : r.CompilesEffect scope effect) (h : Json.AgreeOn scope facts facts') :
    applyEffect facts base object effect = applyEffect facts' base object effect := by
  cases hc with
  | skip => rfl
  | @map compiled hskip hfields =>
    have hvalues : ∀ field ∈ compiled.entries, field.2.value facts = field.2.value facts' := by
      intro field hfield
      obtain ⟨f, -, hf⟩ := exists_of_forall₂_right hfields hfield
      exact value_congr_of_compiles hf.2 h
    rw [applyEffect, applyEffect, give_congr hvalues]

theorem agrees_of_compiles {r : Rule} {c : CompiledRule} (hc : r.Compiles scope c)
    (h : Json.AgreeOn scope facts facts') : c.Agrees facts facts' where
  condition := Formula.holds_congr (Formula.ofSource_eq_ok_iff.2 hc.condition) h
  log := Formula.holds_congr (Formula.ofSource_eq_ok_iff.2 hc.log) h
  effect _ _ := applyEffect_congr_of_compiles hc.effect h

theorem agrees_of_compileFrom {rules : List Rule} {compiled : List CompiledRule}
    (hc : compileFrom scope index rules = .ok compiled) (h : Json.AgreeOn scope facts facts') :
    ∀ c ∈ compiled, c.Agrees facts facts' := by
  intro c hmem
  obtain ⟨r, -, hr⟩ := exists_of_forall₂_right (compileFrom_eq_ok_iff.1 hc) hmem
  exact agrees_of_compiles hr h

/-- Rules that agree on two facts one by one decide alike, and report alike. -/
theorem decideFrom_congr {rules : List CompiledRule} (h : ∀ c ∈ rules, c.Agrees facts facts') :
    decideFrom facts base object index rules = decideFrom facts' base object index rules := by
  induction rules generalizing index with
  | nil => rfl
  | cons c rules ih =>
    obtain ⟨hc, hrules⟩ := List.forall_mem_cons.1 h
    rw [decideFrom, decideFrom, hc.condition, hc.log, hc.effect, ih hrules]

/-- **Rules see only their declared variables.**  On facts that have the same values at all
variables of a scope, every formula over this scope has the same value or fails the same way, and
compiled rules decide the same on the same reserved fields and defaults, fail the same way, and
report the same. -/
theorem decide_congr (scope : List String) (facts facts' : Json)
    (h : Json.AgreeOn scope facts facts') :
    (∀ (source : String) (f : Formula), Formula.ofSource scope source = .ok f →
      f.value facts = f.value facts' ∧ f.holds facts = f.holds facts') ∧
    ∀ (rules : List Rule) (s : RuleSet), compile scope rules = .ok s → ∀ base defaults : Fields,
      s.decide facts base defaults = s.decide facts' base defaults := by
  refine ⟨fun source f hf => ?_, fun rules s hs base defaults => ?_⟩
  · exact ⟨Formula.value_congr hf h, Formula.holds_congr hf h⟩
  · obtain ⟨compiled, hcompiled, rfl⟩ := exceptMap_eq_ok_iff.1 hs
    have hrules := agrees_of_compileFrom hcompiled h
    rw [decide, decide]
    simp only [decideFrom_congr hrules]

/-- A rule that compares what is in scope, and gives a field that is computed from it. -/
def scopedRule : Rule :=
  ⟨"owner == null && size([group]) == 1", "owner in [group]", false,
    some (.ofList [("note", ⟨some "owner == null ? group + '!' : owner", none⟩)])⟩

/-- One owner is missing and one is null, and a field out of scope is there in one only. -/
theorem decide_congr_hidden :
    Json.AgreeOn ["owner", "group"] (.ofFields [("group", .text "staff"), ("hidden", .int 1)])
      (.ofFields [("group", .text "staff"), ("owner", .null)]) ∧
    (∃ f, Formula.ofSource ["owner", "group"] scopedRule.condition = .ok f ∧
      f.value (.ofFields [("group", .text "staff"), ("hidden", .int 1)]) =
        f.value (.ofFields [("group", .text "staff"), ("owner", .null)])) ∧
    ∃ s, compile ["owner", "group"] [scopedRule] = .ok s ∧
      s.decide (.ofFields [("group", .text "staff"), ("hidden", .int 1)]) ∅ ∅ =
        s.decide (.ofFields [("group", .text "staff"), ("owner", .null)]) ∅ ∅ := by
  have hagree : Json.AgreeOn ["owner", "group"]
      (.ofFields [("group", .text "staff"), ("hidden", .int 1)])
      (.ofFields [("group", .text "staff"), ("owner", .null)]) := by
    intro v hv
    rcases List.mem_cons.1 hv with rfl | hv
    · rfl
    · rcases List.mem_singleton.1 hv with rfl
      rfl
  obtain ⟨hformulas, hrules⟩ := decide_congr _ _ _ hagree
  obtain ⟨f, hf⟩ := exists_ok_of_isOk
    (x := Formula.ofSource ["owner", "group"] scopedRule.condition) (by decide +kernel)
  obtain ⟨s, hs⟩ := exists_ok_of_isOk (x := compile ["owner", "group"] [scopedRule])
    (by decide +kernel)
  exact ⟨hagree, ⟨f, hf, (hformulas _ f hf).1⟩, s, hs, hrules _ s hs ∅ ∅⟩

end RuleSet

end Regrant
