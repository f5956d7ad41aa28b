import Regrant.Proofs.Expr.Checking
import Regrant.Proofs.Related
import Regrant.Proofs.SortedMap
import Regrant.Rules.Decision

/-!
# Which rules compile

A rule compiles if it is well-formed (`Rule.WellFormed`): its expressions are, it does not skip and
map at once, and each of its fields is either computed or constant.  `Rule.Compiles` says what it
compiles to.  Each function of the compiler is described by such a relation, and which rules are
related to anything at all is then a matter of the relations alone (`Rule.exists_compiles_iff`).
-/

namespace Regrant

variable {scope : List String} {index : Nat}

/-! ### What compiles -/

/-- The field is either computed, by a well-formed expression, or constant. -/
structure MapField.WellFormed (scope : List String) (f : MapField) : Prop where
  exactlyOne : f.expression.isSome ≠ f.value.isSome
  expression : ∀ source ∈ f.expression, Formula.WellFormed scope source

structure Rule.WellFormed (scope : List String) (r : Rule) : Prop where
  condition : Formula.WellFormed scope r.condition
  log : Formula.WellFormed scope r.log
  /-- A rule that skips has no map, not even an empty one. -/
  skip : r.skip = true → r.map = none
  fields : ∀ fields ∈ r.map, ∀ f ∈ fields.entries, f.2.WellFormed scope

/-! ### What it compiles to -/

inductive MapField.Compiles (scope : List String) : MapField → CompiledField → Prop
  | formula {source : String} {f : Formula} (h : Formula.Compiles scope source f) :
      Compiles scope ⟨some source, none⟩ (.formula f)
  | constant {value : Json} : Compiles scope ⟨none, some value⟩ (.constant value)

/-- Field by field under the same names. -/
abbrev MapField.CompilesAll (scope : List String) :
    List (String × MapField) → List (String × CompiledField) → Prop :=
  List.Forall₂ fun f c => c.1 = f.1 ∧ f.2.Compiles scope c.2

inductive Rule.CompilesEffect (scope : List String) (r : Rule) : RuleEffect → Prop
  | skip (hskip : r.skip = true) (hmap : r.map = none) : CompilesEffect scope r .skip
  | map {compiled : SortedMap String CompiledField} (hskip : r.skip = false)
      (h : MapField.CompilesAll scope (r.map.getD ∅).entries compiled.entries) :
      CompilesEffect scope r (.map compiled)

structure Rule.Compiles (scope : List String) (r : Rule) (c : CompiledRule) : Prop where
  condition : Formula.Compiles scope r.condition c.condition
  log : Formula.Compiles scope r.log c.log
  effect : r.CompilesEffect scope c.effect

theorem MapField.exists_compiles_iff {f : MapField} :
    (∃ c, f.Compiles scope c) ↔ f.WellFormed scope := by
  constructor
  · rintro ⟨_, h⟩
    cases h with
    | formula h =>
      refine ⟨by simp, ?_⟩
      rintro _ ⟨⟩
      exact Formula.exists_compiles_iff.1 ⟨_, h⟩
    | constant => exact ⟨by simp, by simp⟩
  · rintro ⟨hone, hexpression⟩
    obtain ⟨expression, value⟩ := f
    cases expression with
    | none =>
      cases value with
      | none => simp at hone
      | some value => exact ⟨_, .constant⟩
    | some source =>
      cases value with
      | none =>
        obtain ⟨f, hf⟩ := Formula.exists_compiles_iff.2 (hexpression source rfl)
        exact ⟨_, .formula hf⟩
      | some value => simp at hone

theorem MapField.CompilesAll.map_fst {fields : List (String × MapField)}
    {compiled : List (String × CompiledField)} (h : MapField.CompilesAll scope fields compiled) :
    compiled.map (·.1) = fields.map (·.1) := by
  induction h with
  | nil => rfl
  | cons hc _ ih => rw [List.map_cons, List.map_cons, hc.1, ih]

/-- Fields that were listed by name are listed so when they are compiled. -/
theorem MapField.CompilesAll.entries_ofList {fields : SortedMap String MapField}
    {compiled : List (String × CompiledField)}
    (h : MapField.CompilesAll scope fields.entries compiled) :
    (SortedMap.ofList compiled).entries = compiled := by
  apply SortedMap.entries_ofList
  rw [h.map_fst]
  exact fields.ascending_keys

theorem MapField.exists_compilesAll_iff {fields : SortedMap String MapField} :
    (∃ compiled : SortedMap String CompiledField,
      MapField.CompilesAll scope fields.entries compiled.entries) ↔
        ∀ f ∈ fields.entries, f.2.WellFormed scope := by
  simp only [← MapField.exists_compiles_iff]
  constructor
  · rintro ⟨compiled, h⟩ f hf
    obtain ⟨c, -, hc⟩ := exists_forall₂_right_iff.1 ⟨_, h⟩ f hf
    exact ⟨c.2, hc⟩
  · intro h
    have hfields : ∀ f ∈ fields.entries, ∃ c : String × CompiledField,
        c.1 = f.1 ∧ f.2.Compiles scope c.2 := by
      intro f hf
      obtain ⟨c, hc⟩ := h f hf
      exact ⟨(f.1, c), rfl, hc⟩
    obtain ⟨compiled, hcompiled⟩ := exists_forall₂_right_iff.2 hfields
    refine ⟨.ofList compiled, ?_⟩
    rw [MapField.CompilesAll.entries_ofList hcompiled]
    exact hcompiled

theorem Rule.exists_compilesEffect_iff {r : Rule} :
    (∃ effect, r.CompilesEffect scope effect) ↔ (r.skip = true → r.map = none) ∧
      ∀ fields ∈ r.map, ∀ f ∈ fields.entries, f.2.WellFormed scope := by
  constructor
  · rintro ⟨_, ⟨hskip, hmap⟩ | ⟨hskip, h⟩⟩
    · exact ⟨fun _ => hmap, by simp [hmap]⟩
    · refine ⟨by simp [hskip], fun fields hfields => ?_⟩
      rw [Option.mem_def.1 hfields] at h
      exact MapField.exists_compilesAll_iff.1 ⟨_, h⟩
  · rintro ⟨hskip, hfields⟩
    cases hs : r.skip with
    | true => exact ⟨_, .skip hs (hskip hs)⟩
    | false =>
      have hall : ∀ f ∈ (r.map.getD ∅).entries, f.2.WellFormed scope := by
        cases hmap : r.map with
        | none => exact List.forall_mem_nil _
        | some fields => exact hfields fields hmap
      obtain ⟨compiled, h⟩ := MapField.exists_compilesAll_iff.2 hall
      exact ⟨_, .map hs h⟩

theorem Rule.exists_compiles_iff {r : Rule} :
    (∃ c, r.Compiles scope c) ↔ r.WellFormed scope := by
  constructor
  · rintro ⟨c, h⟩
    obtain ⟨hskip, hfields⟩ := exists_compilesEffect_iff.1 ⟨_, h.effect⟩
    exact ⟨Formula.exists_compiles_iff.1 ⟨_, h.condition⟩,
      Formula.exists_compiles_iff.1 ⟨_, h.log⟩, hskip, hfields⟩
  · intro h
    obtain ⟨condition, hcondition⟩ := Formula.exists_compiles_iff.2 h.condition
    obtain ⟨log, hlog⟩ := Formula.exists_compiles_iff.2 h.log
    obtain ⟨effect, heffect⟩ := exists_compilesEffect_iff.2 ⟨h.skip, h.fields⟩
    exact ⟨⟨condition, log, effect⟩, hcondition, hlog, heffect⟩

namespace RuleSet

/-! ### Compiling -/

theorem compileField_eq_ok_iff {name : String} {f : MapField} {c : CompiledField} :
    compileField scope index name f = .ok c ↔ f.Compiles scope c := by
  constructor
  · intro h
    obtain ⟨expression, value⟩ := f
    rw [compileField] at h
    split at h
    · rename_i hexpression hvalue
      cases hexpression
      cases hvalue
      obtain ⟨f, hf, rfl⟩ := exceptMap_eq_ok_iff.1 h
      exact .formula (Formula.ofSource_eq_ok_iff.1 hf)
    · rename_i hexpression hvalue
      cases hexpression
      cases hvalue
      cases h
      exact .constant
    · cases h
  · intro h
    cases h with
    | formula h => exact exceptMap_eq_ok_iff.2 ⟨_, Formula.ofSource_eq_ok_iff.2 h, rfl⟩
    | constant => rfl

theorem compileFields_eq_ok_iff {fields : List (String × MapField)}
    {compiled : List (String × CompiledField)} :
    compileFields scope index fields = .ok compiled ↔
      MapField.CompilesAll scope fields compiled := by
  induction fields generalizing compiled with
  | nil =>
    rw [compileFields, MapField.CompilesAll, List.forall₂_nil_left_iff]
    exact ⟨fun h => by cases h; rfl, fun h => by rw [h]⟩
  | cons field fields ih =>
    rw [compileFields]
    constructor
    · intro h
      obtain ⟨c, hc, h⟩ := exceptBind_eq_ok_iff.1 h
      obtain ⟨cs, hcs, h⟩ := exceptBind_eq_ok_iff.1 h
      cases h
      exact .cons ⟨rfl, compileField_eq_ok_iff.1 hc⟩ (ih.1 hcs)
    · intro h
      obtain ⟨⟨_, c⟩, cs, ⟨rfl, hc⟩, hcs, rfl⟩ := List.forall₂_cons_left_iff.1 h
      exact exceptBind_eq_ok_iff.2 ⟨c, compileField_eq_ok_iff.2 hc,
        exceptBind_eq_ok_iff.2 ⟨cs, ih.2 hcs, rfl⟩⟩

/-- A rule without a map gives no fields. -/
theorem compileEffect_of_not_skip {r : Rule} (h : r.skip = false) :
    compileEffect scope index r = (do
      return .map (.ofList (← compileFields scope index (r.map.getD ∅).entries))) := by
  rw [compileEffect, h]
  cases r.map <;> rfl

theorem compileEffect_eq_ok_iff {r : Rule} {effect : RuleEffect} :
    compileEffect scope index r = .ok effect ↔ r.CompilesEffect scope effect := by
  constructor
  · intro h
    cases hskip : r.skip with
    | true =>
      rw [compileEffect, hskip] at h
      cases hmap : r.map with
      | none =>
        rw [hmap] at h
        cases h
        exact .skip hskip hmap
      | some fields =>
        rw [hmap] at h
        cases h
    | false =>
      rw [compileEffect_of_not_skip hskip] at h
      obtain ⟨compiled, hcompiled, h⟩ := exceptBind_eq_ok_iff.1 h
      cases h
      have hfields := compileFields_eq_ok_iff.1 hcompiled
      refine .map hskip ?_
      rw [hfields.entries_ofList]
      exact hfields
  · intro h
    cases h with
    | skip hskip hmap => rw [compileEffect, hskip, hmap]
    | @map compiled hskip h =>
      rw [compileEffect_of_not_skip hskip]
      refine exceptBind_eq_ok_iff.2 ⟨_, compileFields_eq_ok_iff.2 h, ?_⟩
      rw [SortedMap.ofList_entries]
      rfl

theorem compileRule_eq_ok_iff {r : Rule} {c : CompiledRule} :
    compileRule scope index r = .ok c ↔ r.Compiles scope c := by
  constructor
  · intro h
    obtain ⟨condition, hcondition, h⟩ := exceptBind_eq_ok_iff.1 h
    obtain ⟨log, hlog, h⟩ := exceptBind_eq_ok_iff.1 h
    obtain ⟨effect, heffect, h⟩ := exceptBind_eq_ok_iff.1 h
    cases h
    exact ⟨Formula.ofSource_eq_ok_iff.1 hcondition, Formula.ofSource_eq_ok_iff.1 hlog,
      compileEffect_eq_ok_iff.1 heffect⟩
  · intro h
    refine exceptBind_eq_ok_iff.2 ⟨_, Formula.ofSource_eq_ok_iff.2 h.condition, ?_⟩
    refine exceptBind_eq_ok_iff.2 ⟨_, Formula.ofSource_eq_ok_iff.2 h.log, ?_⟩
    exact exceptBind_eq_ok_iff.2 ⟨_, compileEffect_eq_ok_iff.2 h.effect, rfl⟩

theorem compileFrom_eq_ok_iff {rules : List Rule} {compiled : List CompiledRule} :
    compileFrom scope index rules = .ok compiled ↔
      List.Forall₂ (Rule.Compiles scope) rules compiled := by
  induction rules generalizing index compiled with
  | nil =>
    rw [compileFrom, List.forall₂_nil_left_iff]
    exact ⟨fun h => by cases h; rfl, fun h => by rw [h]⟩
  | cons r rules ih =>
    rw [compileFrom]
    constructor
    · intro h
      obtain ⟨c, hc, h⟩ := exceptBind_eq_ok_iff.1 h
      obtain ⟨cs, hcs, h⟩ := exceptBind_eq_ok_iff.1 h
      cases h
      exact .cons (compileRule_eq_ok_iff.1 hc) (ih.1 hcs)
    · intro h
      obtain ⟨c, cs, hc, hcs, rfl⟩ := List.forall₂_cons_left_iff.1 h
      exact exceptBind_eq_ok_iff.2 ⟨c, compileRule_eq_ok_iff.2 hc,
        exceptBind_eq_ok_iff.2 ⟨cs, ih.2 hcs, rfl⟩⟩

/-- Rules compile to one list only. -/
theorem compiles_unique {rules : List Rule} {compiled compiled' : List CompiledRule}
    (h : List.Forall₂ (Rule.Compiles scope) rules compiled)
    (h' : List.Forall₂ (Rule.Compiles scope) rules compiled') : compiled = compiled' := by
  have hok : compileFrom scope 0 rules = .ok compiled := compileFrom_eq_ok_iff.2 h
  rw [compileFrom_eq_ok_iff.2 h'] at hok
  exact (Except.ok.inj hok).symm

theorem compile_eq_ok_iff {rules : List Rule} {s : RuleSet} :
    compile scope rules = .ok s ↔ List.Forall₂ (Rule.Compiles scope) rules s.rules := by
  rw [compile, exceptMap_eq_ok_iff]
  simp only [compileFrom_eq_ok_iff]
  constructor
  · rintro ⟨compiled, h, rfl⟩
    exact h
  · intro h
    exact ⟨s.rules, h, rfl⟩

/-! ### How compiling fails -/

section

variable {e : Failure}

theorem fatal_of_compileField {name : String} {f : MapField}
    (h : compileField scope index name f = .error e) : e.fatal = true := by
  rw [compileField] at h
  split at h
  · exact Formula.fatal_of_ofSource (exceptMap_eq_error_iff.1 h)
  · cases h
  · cases h
    rfl

theorem fatal_of_compileFields {fields : List (String × MapField)}
    (h : compileFields scope index fields = .error e) : e.fatal = true := by
  induction fields with
  | nil => cases h
  | cons field fields ih =>
    rcases exceptBind_eq_error_iff.1 h with h | ⟨_, -, h⟩
    · exact fatal_of_compileField h
    · rcases exceptBind_eq_error_iff.1 h with h | ⟨_, -, h⟩
      · exact ih h
      · cases h

theorem fatal_of_compileEffect {r : Rule} (h : compileEffect scope index r = .error e) :
    e.fatal = true := by
  rw [compileEffect] at h
  split at h
  · cases h
    rfl
  · cases h
  · cases h
  · rcases exceptBind_eq_error_iff.1 h with h | ⟨_, -, h⟩
    · exact fatal_of_compileFields h
    · cases h

theorem fatal_of_compileRule {r : Rule} (h : compileRule scope index r = .error e) :
    e.fatal = true := by
  rcases exceptBind_eq_error_iff.1 h with h | ⟨_, -, h⟩
  · exact Formula.fatal_of_ofSource h
  · rcases exceptBind_eq_error_iff.1 h with h | ⟨_, -, h⟩
    · exact Formula.fatal_of_ofSource h
    · rcases exceptBind_eq_error_iff.1 h with h | ⟨_, -, h⟩
      · exact fatal_of_compileEffect h
      · cases h

theorem fatal_of_compileFrom {rules : List Rule} (h : compileFrom scope index rules = .error e) :
    e.fatal = true := by
  induction rules generalizing index with
  | nil => cases h
  | cons r rules ih =>
    rcases exceptBind_eq_error_iff.1 h with h | ⟨_, -, h⟩
    · exact fatal_of_compileRule h
    · rcases exceptBind_eq_error_iff.1 h with h | ⟨_, -, h⟩
      · exact ih h
      · cases h

/-- **Rules that cannot be compiled are an error of the configuration.** -/
theorem fatal_of_compile {rules : List Rule} (h : compile scope rules = .error e) :
    e.fatal = true :=
  fatal_of_compileFrom (exceptMap_eq_error_iff.1 h)

end

/-- Patterns are found in calls of both styles, deep in an expression. -/
example : ∀ c ∈ [("(", false), ("a+", true)],
    (Formula.ofSource ["name"]
      ("true || !(size([matches(name, '" ++ c.1 ++ "')]) == 1)")).isOk = c.2 ∧
    (Formula.ofSource ["name"]
      ("name == '' ? false : [name.matches('" ++ c.1 ++ "')] == [true]")).isOk = c.2 := by
  decide +kernel

end RuleSet

end Regrant
