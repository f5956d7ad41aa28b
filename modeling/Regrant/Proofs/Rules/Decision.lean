import Regrant.Proofs.Rules.Compilation

/-!
# What rules decide

The first rule that applies decides (`FirstMatch`), and it leaves under each key what it gives for
it, or else the default (`Rule.field?`).  `exists_firstMatch` says that compiled rules decide so,
in terms of the rules that were compiled.

What was compiled fails only by an evaluation (`isEvaluation_of_decide`): whether that happens
depends on the data.
-/

namespace Regrant

/-- The failure of an evaluation. -/
def Failure.IsEvaluation (e : Failure) : Prop := ∃ fault, e = .evaluation fault

/-! ### How an evaluation fails -/

section

variable {facts : Json} {base object : Fields} {e : Failure}

theorem Formula.isEvaluation_of_value {f : Formula} (h : f.value facts = .error e) :
    e.IsEvaluation := by
  rw [value] at h
  cases heval : f.expr.eval facts with
  | ok value =>
    rw [heval] at h
    cases h
  | error fault =>
    rw [heval] at h
    cases h
    exact ⟨fault, rfl⟩

theorem Formula.isEvaluation_of_holds {f : Formula} (h : f.holds facts = .error e) :
    e.IsEvaluation := by
  rw [holds] at h
  split at h
  · cases h
  · cases h
    exact ⟨_, rfl⟩
  · cases h
    exact isEvaluation_of_value ‹_›

theorem CompiledField.isEvaluation_of_value {f : CompiledField} (h : f.value facts = .error e) :
    e.IsEvaluation := by
  cases f with
  | formula f => exact f.isEvaluation_of_value h
  | constant value => cases h

namespace RuleSet

theorem isEvaluation_of_layer {defaults : List (String × Json)}
    (h : layer base object defaults = .error e) : e.IsEvaluation := by
  induction defaults generalizing object with
  | nil => cases h
  | cons entry defaults ih =>
    rw [layer] at h
    split at h
    · cases h
      exact ⟨_, rfl⟩
    · exact ih h

theorem isEvaluation_of_give {fields : List (String × CompiledField)}
    (h : give facts base object fields = .error e) : e.IsEvaluation := by
  induction fields generalizing object with
  | nil => cases h
  | cons entry fields ih =>
    rw [give] at h
    split at h
    · cases h
      exact ⟨_, rfl⟩
    · split at h
      · exact ih h
      · cases h
        exact CompiledField.isEvaluation_of_value ‹_›

theorem isEvaluation_of_applyEffect {effect : RuleEffect}
    (h : applyEffect facts base object effect = .error e) : e.IsEvaluation := by
  cases effect with
  | skip => cases h
  | map fields => exact isEvaluation_of_give (exceptMap_eq_error_iff.1 h)

theorem isEvaluation_of_decideFrom {index : Nat} {rules : List CompiledRule}
    (h : (decideFrom facts base object index rules).outcome = .error e) : e.IsEvaluation := by
  induction rules generalizing index with
  | nil => cases h
  | cons r rules ih =>
    rw [decideFrom] at h
    split at h
    · cases h
      exact r.condition.isEvaluation_of_holds ‹_›
    · exact ih h
    · rcases Run.bind_eq_error_iff.1 h with h | ⟨_, -, h⟩
      · exact isEvaluation_of_applyEffect h
      · rcases Run.bind_eq_error_iff.1 h with h | ⟨logged, -, h⟩
        · exact r.log.isEvaluation_of_holds h
        · cases logged <;> cases h

/-- **Compiled rules fail only by an evaluation.** -/
theorem isEvaluation_of_decide {s : RuleSet} {defaults : Fields}
    (h : (s.decide facts base defaults).outcome = .error e) : e.IsEvaluation := by
  rcases Run.bind_eq_error_iff.1 h with h | ⟨_, -, h⟩
  · exact isEvaluation_of_layer h
  · exact isEvaluation_of_decideFrom h

end RuleSet

end

/-! ### The first rule that applies -/

/-- Whether a rule applies: the value of its condition. -/
def Rule.applies (scope : List String) (facts : Json) (r : Rule) : Except Failure Bool :=
  (Formula.ofSource scope r.condition).bind (·.holds facts)

/-- The first rule of a list that applies; the conditions of those before it are false. -/
inductive FirstMatch (scope : List String) (facts : Json) : List Rule → Rule → Prop
  | here {r : Rule} {rules : List Rule} (h : r.applies scope facts = .ok true) :
      FirstMatch scope facts (r :: rules) r
  | later {r r' : Rule} {rules : List Rule} (h : r.applies scope facts = .ok false)
      (hlater : FirstMatch scope facts rules r') : FirstMatch scope facts (r :: rules) r'

namespace FirstMatch

variable {scope : List String} {facts : Json} {rules : List Rule} {r r' : Rule}

theorem mem (h : FirstMatch scope facts rules r) : r ∈ rules := by
  induction h with
  | here => exact List.mem_cons_self
  | later _ _ ih => exact List.mem_cons_of_mem _ ih

theorem applies (h : FirstMatch scope facts rules r) : r.applies scope facts = .ok true := by
  induction h with
  | here happlies => exact happlies
  | later _ _ ih => exact ih

/-- There is only one. -/
theorem unique (h : FirstMatch scope facts rules r) (h' : FirstMatch scope facts rules r') :
    r = r' := by
  induction h with
  | here happlies =>
    cases h' with
    | here => rfl
    | later hnot =>
      rw [happlies] at hnot
      cases hnot
  | later hnot _ ih =>
    cases h' with
    | here happlies =>
      rw [happlies] at hnot
      cases hnot
    | later _ h' => exact ih h'

end FirstMatch

/-- The value that is given for a field: that of an expression, or a constant. -/
def MapField.given? (scope : List String) (facts : Json) (f : MapField) : Option Json :=
  match f.expression with
  | some source => ((Formula.ofSource scope source).bind (·.value facts)).toOption
  | none => f.value

/-- What a rule leaves under a key: what it gives for it, or else the default. -/
def Rule.field? (scope : List String) (facts : Json) (defaults : Fields) (r : Rule) (key : String) :
    Option Json :=
  match r.map.bind (·.get? key) with
  | some f => f.given? scope facts
  | none => defaults.get? key

/-- A rule without a map gives nothing. -/
theorem Rule.bind_get?_map (r : Rule) (key : String) :
    r.map.bind (·.get? key) = (r.map.getD ∅).get? key := by
  cases r.map <;> rfl

/-! ### What was compiled, by the rules -/

section

variable {scope : List String}

theorem Rule.Compiles.holds_condition {r : Rule} {c : CompiledRule} (h : r.Compiles scope c)
    (facts : Json) : c.condition.holds facts = r.applies scope facts := by
  rw [Rule.applies, Formula.ofSource_eq_ok_iff.2 h.condition]
  rfl

/-- A field is compiled to what gives its value. -/
theorem MapField.Compiles.toOption_value {f : MapField} {c : CompiledField}
    (h : f.Compiles scope c) (facts : Json) :
    (c.value facts).toOption = f.given? scope facts := by
  cases h with
  | formula h =>
    simp only [MapField.given?, Formula.ofSource_eq_ok_iff.2 h]
    rfl
  | constant => rfl

theorem MapField.CompilesAll.map_lookup {fields : List (String × MapField)}
    {compiled : List (String × CompiledField)} (h : MapField.CompilesAll scope fields compiled)
    (facts : Json) (key : String) :
    (SortedMap.lookup key compiled).map (fun c => (c.value facts).toOption) =
      (SortedMap.lookup key fields).map (·.given? scope facts) := by
  induction h with
  | nil => rfl
  | cons hc _ ih =>
    rw [SortedMap.lookup_cons, SortedMap.lookup_cons, hc.1]
    split
    · rw [Option.map_some, Option.map_some, hc.2.toOption_value]
    · exact ih

/-- Fields are compiled under their names. -/
theorem MapField.CompilesAll.map_get? {fields : SortedMap String MapField}
    {compiled : SortedMap String CompiledField}
    (h : MapField.CompilesAll scope fields.entries compiled.entries) (facts : Json)
    (key : String) :
    (compiled.get? key).map (fun c => (c.value facts).toOption) =
      (fields.get? key).map (·.given? scope facts) :=
  h.map_lookup facts key

end

/-! ### What is decided -/

section

variable {scope : List String} {facts : Json} {base object object' defaults : Fields} {index : Nat}
  {r : Rule}

theorem Rule.field?_congr {key : String} (h : object.get? key = defaults.get? key) :
    r.field? scope facts object key = r.field? scope facts defaults key := by
  rw [field?, field?, h]

namespace RuleSet

theorem get?_of_layer {entries : List (String × Json)} (hn : (entries.map (·.1)).Nodup)
    (h : layer base object entries = .ok object') (key : String) :
    object'.get? key = (SortedMap.lookup key entries).or (object.get? key) := by
  induction entries generalizing object with
  | nil => cases h; rfl
  | cons entry entries ih =>
    obtain ⟨key', value⟩ := entry
    obtain ⟨hnot, hn⟩ := List.nodup_cons.1 hn
    rw [layer] at h
    split at h
    · cases h
    · rw [ih hn h, SortedMap.lookup_cons, SortedMap.insert, SortedMap.get?_alter]
      by_cases hkey : key = key'
      · subst hkey
        rw [SortedMap.lookup_eq_none hnot, if_pos rfl, if_pos rfl]
        rfl
      · rw [if_neg hkey, if_neg hkey]

/-- Every default is in the object that rules begin with. -/
theorem get?_of_layer_default (h : layer base base defaults.entries = .ok object) {key : String}
    {value : Json} (hkey : defaults.get? key = some value) : object.get? key = some value := by
  rw [get?_of_layer defaults.ascending_keys.nodup h key,
    show SortedMap.lookup key defaults.entries = some value from hkey, Option.some_or]

theorem get?_of_give {fields : List (String × CompiledField)} (hn : (fields.map (·.1)).Nodup)
    (h : give facts base object fields = .ok object') (key : String) :
    object'.get? key = match SortedMap.lookup key fields with
      | some f => (f.value facts).toOption
      | none => object.get? key := by
  induction fields generalizing object with
  | nil => cases h; rfl
  | cons field fields ih =>
    obtain ⟨key', f⟩ := field
    obtain ⟨hnot, hn⟩ := List.nodup_cons.1 hn
    rw [give] at h
    split at h
    · cases h
    · split at h
      · rename_i value hvalue
        rw [ih hn h, SortedMap.lookup_cons, SortedMap.insert, SortedMap.get?_alter]
        by_cases hkey : key = key'
        · subst hkey
          rw [SortedMap.lookup_eq_none hnot, if_pos rfl, if_pos rfl]
          simp only [hvalue]
          rfl
        · rw [if_neg hkey, if_neg hkey]
      · cases h

/-- Rules take no field away. -/
theorem exists_get?_of_give {fields : List (String × CompiledField)}
    (h : give facts base object fields = .ok object') {key : String}
    (hkey : ∃ value, object.get? key = some value) : ∃ value, object'.get? key = some value := by
  induction fields generalizing object with
  | nil =>
    cases h
    exact hkey
  | cons field fields ih =>
    obtain ⟨key', f⟩ := field
    rw [give] at h
    split at h
    · cases h
    · split at h
      · refine ih h ?_
        rw [SortedMap.insert, SortedMap.get?_alter]
        split
        · exact ⟨_, rfl⟩
        · exact hkey
      · cases h

theorem exists_get?_of_applyEffect {effect : RuleEffect} {action : Action}
    (h : applyEffect facts base object effect = .ok (action, object')) {key : String}
    (hkey : ∃ value, object.get? key = some value) : ∃ value, object'.get? key = some value := by
  cases effect with
  | skip =>
    cases h
    exact hkey
  | map fields =>
    obtain ⟨_, hgive, h⟩ := exceptMap_eq_ok_iff.1 h
    cases h
    exact exists_get?_of_give hgive hkey

theorem ne_noMatch_of_applyEffect {effect : RuleEffect} {action : Action}
    (h : applyEffect facts base object effect = .ok (action, object')) : action ≠ .noMatch := by
  cases effect with
  | skip =>
    cases h
    nofun
  | map fields =>
    obtain ⟨_, -, h⟩ := exceptMap_eq_ok_iff.1 h
    cases h
    nofun

/-- What is decided is the effect of a rule, unless none applies. -/
theorem applyEffect_of_decideFrom {rules : List CompiledRule} {d : Decision}
    (h : (decideFrom facts base object index rules).outcome = .ok d) :
    (d.action = .noMatch ∧ d.object = object) ∨
      ∃ r ∈ rules, applyEffect facts base object r.effect = .ok (d.action, d.object) := by
  induction rules generalizing index with
  | nil =>
    cases h
    exact .inl ⟨rfl, rfl⟩
  | cons r rules ih =>
    rw [decideFrom] at h
    split at h
    · cases h
    · exact (ih h).imp_right fun ⟨r', hr', happly⟩ => ⟨r', List.mem_cons_of_mem _ hr', happly⟩
    · obtain ⟨⟨action, object'⟩, happly, h⟩ := Run.bind_eq_ok_iff.1 h
      obtain ⟨logged, -, h⟩ := Run.bind_eq_ok_iff.1 h
      obtain rfl : ⟨action, object', some index⟩ = d := by cases logged <;> cases h <;> rfl
      exact .inr ⟨r, List.mem_cons_self, happly⟩

/-- **The object that rules decide on holds every default**, or another value for it. -/
theorem exists_get?_of_decide {s : RuleSet} {d : Decision}
    (h : (s.decide facts base defaults).outcome = .ok d) {key : String}
    (hkey : ∃ value, defaults.get? key = some value) : ∃ value, d.object.get? key = some value := by
  obtain ⟨object, hlayer, h⟩ := Run.bind_eq_ok_iff.1 h
  obtain ⟨value, hvalue⟩ := hkey
  have hobject := get?_of_layer_default hlayer hvalue
  rcases applyEffect_of_decideFrom h with ⟨-, hsame⟩ | ⟨r, -, happly⟩
  · exact ⟨value, hsame ▸ hobject⟩
  · exact exists_get?_of_applyEffect happly ⟨value, hobject⟩

/-- If no rule applies, the defaults stay as they are. -/
theorem get?_of_decide_noMatch {s : RuleSet} {d : Decision}
    (h : (s.decide facts base defaults).outcome = .ok d) (haction : d.action = .noMatch)
    {key : String} {value : Json} (hkey : defaults.get? key = some value) :
    d.object.get? key = some value := by
  obtain ⟨object, hlayer, h⟩ := Run.bind_eq_ok_iff.1 h
  rcases applyEffect_of_decideFrom h with ⟨-, hsame⟩ | ⟨r, -, happly⟩
  · rw [hsame]
    exact get?_of_layer_default hlayer hkey
  · exact absurd haction (ne_noMatch_of_applyEffect happly)

/-- The effect of a compiled rule: it skips if the rule says so, and else leaves the fields that
the rule gives in the place of those that are there. -/
theorem applyEffect_of_compiles {effect : RuleEffect} {action : Action}
    (hc : r.CompilesEffect scope effect)
    (h : applyEffect facts base object effect = .ok (action, object')) :
    action = (if r.skip then .skip else .map) ∧
      ∀ key, object'.get? key = r.field? scope facts object key := by
  cases hc with
  | skip hskip hmap =>
    cases h
    refine ⟨by rw [hskip]; rfl, fun key => ?_⟩
    rw [Rule.field?, hmap]
    rfl
  | @map compiled hskip hfields =>
    obtain ⟨_, hgive, h⟩ := exceptMap_eq_ok_iff.1 h
    cases h
    refine ⟨by rw [hskip]; rfl, fun key => ?_⟩
    have hgiven := hfields.map_get? facts key
    rw [get?_of_give compiled.ascending_keys.nodup hgive key, Rule.field?, r.bind_get?_map]
    show (match compiled.get? key with
      | some c => (c.value facts).toOption
      | none => object.get? key) = _
    cases hc : compiled.get? key with
    | none =>
      rw [hc, Option.map_none] at hgiven
      rw [Option.map_eq_none_iff.1 hgiven.symm]
    | some c =>
      rw [hc, Option.map_some] at hgiven
      obtain ⟨f, hf, hvalue⟩ := Option.map_eq_some_iff.1 hgiven.symm
      rw [hf]
      exact hvalue.symm

theorem exists_firstMatch_of_decideFrom {rules : List Rule} {compiled : List CompiledRule}
    {d : Decision} (hc : List.Forall₂ (Rule.Compiles scope) rules compiled)
    (h : (decideFrom facts base object index compiled).outcome = .ok d)
    (haction : d.action ≠ .noMatch) :
    ∃ r, FirstMatch scope facts rules r ∧ d.action = (if r.skip then .skip else .map) ∧
      ∀ key, d.object.get? key = r.field? scope facts object key := by
  induction hc generalizing index with
  | nil =>
    cases h
    exact absurd rfl haction
  | @cons r c rules compiled hrule _ ih =>
    have happlies := hrule.holds_condition facts
    rw [decideFrom] at h
    split at h
    · cases h
    · rename_i hholds
      obtain ⟨r', hfirst, hdecided⟩ := ih h
      exact ⟨r', .later (happlies.symm.trans hholds) hfirst, hdecided⟩
    · rename_i hholds
      obtain ⟨⟨action, object'⟩, happly, h⟩ := Run.bind_eq_ok_iff.1 h
      obtain ⟨logged, -, h⟩ := Run.bind_eq_ok_iff.1 h
      obtain rfl : ⟨action, object', some index⟩ = d := by cases logged <;> cases h <;> rfl
      exact ⟨r, .here (happlies.symm.trans hholds), applyEffect_of_compiles hrule.effect happly⟩

/-- **The first rule that applies decides.**  If the rules that were compiled decide at all, it
says whether to skip, and what is left under each key that is not reserved. -/
theorem exists_firstMatch {rules : List Rule} {s : RuleSet} {d : Decision}
    (hs : compile scope rules = .ok s) (h : (s.decide facts base defaults).outcome = .ok d)
    (haction : d.action ≠ .noMatch) :
    ∃ r, FirstMatch scope facts rules r ∧ d.action = (if r.skip then .skip else .map) ∧
      ∀ key, base.get? key = none → d.object.get? key = r.field? scope facts defaults key := by
  obtain ⟨object, hlayer, h⟩ := Run.bind_eq_ok_iff.1 h
  obtain ⟨r, hfirst, hdecided, hobject⟩ :=
    exists_firstMatch_of_decideFrom (compile_eq_ok_iff.1 hs) h haction
  refine ⟨r, hfirst, hdecided, fun key hbase => ?_⟩
  rw [hobject key]
  apply Rule.field?_congr
  rw [get?_of_layer defaults.ascending_keys.nodup hlayer key, hbase, Option.or_none]
  rfl

end RuleSet

end

end Regrant
