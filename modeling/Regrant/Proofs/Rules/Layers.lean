import Regrant.Proofs.Rules.Precedence

/-!
# The layers of what rules decide on

The object of a decision has three layers (`Layered`).  Reserved fields stay as they are; of the
other fields, those that the deciding rule gives have the values that it gives, and the rest are the
defaults.  Defaults and rules that would touch a reserved field make the run fail instead, wherever
the field comes among the others (`not_reserved_of_layer`, `given_of_give`), so no decision comes
out of them.  `decide_layers` puts this together.
-/

namespace Regrant

/-- Reserved fields, the fields that a rule gives, and below these the defaults. -/
structure Layered (facts : Json) (base defaults : Fields) (fields : SortedMap String CompiledField)
    (object : Fields) : Prop where
  keys : ∀ key, key ∈ object.keys ↔ key ∈ base.keys ∨ key ∈ defaults.keys ∨ key ∈ fields.keys
  reserved : ∀ key value, base.get? key = some value → object.get? key = some value
  given : ∀ key field, fields.get? key = some field →
    ∃ value, field.value facts = .ok value ∧ object.get? key = some value
  rest : ∀ key value, defaults.get? key = some value → key ∉ fields.keys →
    object.get? key = some value

namespace RuleSet

variable {facts : Json} {base object object' defaults : Fields}

/-! ### What has to hold for the layers -/

/-- Defaults that are laid on reserved fields are none of them. -/
theorem not_reserved_of_layer {entries : List (String × Json)}
    (h : layer base object entries = .ok object') :
    ∀ entry ∈ entries, base.contains entry.1 = false := by
  induction entries generalizing object with
  | nil => exact List.forall_mem_nil _
  | cons entry entries ih =>
    rw [layer] at h
    split at h
    · cases h
    · exact List.forall_mem_cons.2 ⟨Bool.eq_false_iff.2 ‹_›, ih h⟩

/-- Fields that are given are not reserved, and all of them have values. -/
theorem given_of_give {fields : List (String × CompiledField)}
    (h : give facts base object fields = .ok object') :
    ∀ field ∈ fields, base.contains field.1 = false ∧
      ∃ value, field.2.value facts = .ok value := by
  induction fields generalizing object with
  | nil => exact List.forall_mem_nil _
  | cons field fields ih =>
    rw [give] at h
    split at h
    · cases h
    · split at h
      · exact List.forall_mem_cons.2 ⟨⟨Bool.eq_false_iff.2 ‹_›, _, ‹_›⟩, ih h⟩
      · cases h

theorem disjoint_of_layer (h : layer base object defaults.entries = .ok object') :
    base.keys.Disjoint defaults.keys := by
  intro key hbase hkey
  obtain ⟨entry, hentry, rfl⟩ := List.mem_map.1 hkey
  exact SortedMap.contains_eq_false_iff.1 (not_reserved_of_layer h entry hentry) hbase

theorem disjoint_of_give {fields : SortedMap String CompiledField}
    (h : give facts base object fields.entries = .ok object') :
    base.keys.Disjoint fields.keys := by
  intro key hbase hkey
  obtain ⟨field, hfield, rfl⟩ := List.mem_map.1 hkey
  exact SortedMap.contains_eq_false_iff.1 (given_of_give h field hfield).1 hbase

/-! ### The layers of an object -/

theorem get?_of_disjoint {m n : SortedMap String Json} (h : m.keys.Disjoint n.keys) {key : String}
    {value : Json} (hm : m.get? key = some value) : n.get? key = none := by
  rw [Option.eq_none_iff_forall_not_mem]
  intro value' hn
  exact h (SortedMap.mem_keys_iff.2 ⟨value, hm⟩) (SortedMap.mem_keys_iff.2 ⟨value', hn⟩)

theorem mem_keys_of_layer (h : layer base base defaults.entries = .ok object) {key : String} :
    key ∈ object.keys ↔ key ∈ base.keys ∨ key ∈ defaults.keys := by
  have hget : object.get? key = (defaults.get? key).or (base.get? key) :=
    get?_of_layer defaults.ascending_keys.nodup h key
  simp only [SortedMap.mem_keys_iff, hget]
  cases defaults.get? key with
  | some value => simp
  | none => simp

section

variable {fields : SortedMap String CompiledField} {key : String}

theorem exists_value_of_give (h : give facts base object fields.entries = .ok object')
    {field : CompiledField} (hfield : fields.get? key = some field) :
    ∃ value, field.value facts = .ok value ∧ object'.get? key = some value := by
  obtain ⟨-, value, hvalue⟩ := given_of_give h _ (SortedMap.get?_eq_some_iff.1 hfield)
  refine ⟨value, hvalue, ?_⟩
  have hget := get?_of_give fields.ascending_keys.nodup h key
  rw [show SortedMap.lookup key fields.entries = some field from hfield] at hget
  exact hget.trans (congrArg Except.toOption hvalue)

theorem get?_of_give_of_notMem (h : give facts base object fields.entries = .ok object')
    (hkey : key ∉ fields.keys) : object'.get? key = object.get? key := by
  have hget := get?_of_give fields.ascending_keys.nodup h key
  rwa [SortedMap.lookup_eq_none hkey] at hget

theorem mem_keys_of_give (h : give facts base object fields.entries = .ok object') :
    key ∈ object'.keys ↔ key ∈ object.keys ∨ key ∈ fields.keys := by
  by_cases hkey : key ∈ fields.keys
  · obtain ⟨field, hfield⟩ := SortedMap.mem_keys_iff.1 hkey
    obtain ⟨value, -, hvalue⟩ := exists_value_of_give h hfield
    exact iff_of_true (SortedMap.mem_keys_iff.2 ⟨value, hvalue⟩) (Or.inr hkey)
  · rw [or_iff_left hkey, SortedMap.mem_keys_iff, SortedMap.mem_keys_iff,
      get?_of_give_of_notMem h hkey]

/-- Defaults laid on the reserved fields, and on them the fields of a rule. -/
theorem layered_of_give (hlayer : layer base base defaults.entries = .ok object)
    (hgive : give facts base object fields.entries = .ok object') :
    Layered facts base defaults fields object' := by
  have hobject : ∀ key, object.get? key = (defaults.get? key).or (base.get? key) :=
    get?_of_layer defaults.ascending_keys.nodup hlayer
  refine ⟨fun key => ?_, fun key value hbase => ?_, fun key field => exists_value_of_give hgive,
    fun key value hdefault hkey => ?_⟩
  · rw [mem_keys_of_give hgive, mem_keys_of_layer hlayer, or_assoc]
  · have hmem : key ∈ base.keys := SortedMap.mem_keys_iff.2 ⟨value, hbase⟩
    have hkey : key ∉ fields.keys := fun hfields => disjoint_of_give hgive hmem hfields
    have hdefault : defaults.get? key = none := get?_of_disjoint (disjoint_of_layer hlayer) hbase
    rw [get?_of_give_of_notMem hgive hkey, hobject, hdefault, Option.none_or, hbase]
  · rw [get?_of_give_of_notMem hgive hkey, hobject, hdefault, Option.some_or]

end

/-! ### Decisions -/

/-- A rule skips and leaves the object as it is, or it maps and gives its fields. -/
theorem applyEffect_eq_ok_iff {effect : RuleEffect} {action : Action} :
    applyEffect facts base object effect = .ok (action, object') ↔
      (effect = .skip ∧ action = .skip ∧ object' = object) ∨
      ∃ fields, effect = .map fields ∧ action = .map ∧
        give facts base object fields.entries = .ok object' := by
  cases effect with
  | skip => simp [applyEffect, eq_comm]
  | map fields =>
    simp only [applyEffect, exceptMap_eq_ok_iff, Prod.mk.injEq]
    constructor
    · rintro ⟨_, hgive, rfl, rfl⟩
      exact Or.inr ⟨fields, rfl, rfl, hgive⟩
    · rintro (⟨heffect, -⟩ | ⟨_, heffect, rfl, hgive⟩)
      · cases heffect
      · cases heffect
        exact ⟨object', hgive, rfl, rfl⟩

/-- A run of rules that does not succeed fails by an evaluation. -/
theorem exists_evaluation_of_forall_ne {s : RuleSet}
    (h : ∀ d, (s.decide facts base defaults).outcome ≠ .ok d) :
    ∃ fault, (s.decide facts base defaults).outcome = .error (.evaluation fault) := by
  cases houtcome : (s.decide facts base defaults).outcome with
  | ok d => exact absurd houtcome (h d)
  | error e =>
    obtain ⟨fault, rfl⟩ := isEvaluation_of_decide houtcome
    exact ⟨fault, rfl⟩

/-- **What rules decide on has three layers, and no rule gets past the reserved fields.**  If the
rules decide, their object has the reserved fields as they are, the fields of the rule that decided
if it maps, and the defaults for the rest.  If a default is reserved, or the first rule that applies
gives a field that is, the evaluation fails, whatever else there is in the rule. -/
theorem decide_layers (s : RuleSet) (facts : Json) (base defaults : Fields) :
    (∀ d, (s.decide facts base defaults).outcome = .ok d → d.action ≠ .map →
      Layered facts base defaults ∅ d.object) ∧
    (∀ d, (s.decide facts base defaults).outcome = .ok d → d.action = .map →
      ∃ i r fields, d.index = some i ∧ DecidesAt facts s.rules i r ∧ r.effect = .map fields ∧
        Layered facts base defaults fields d.object) ∧
    (¬ base.keys.Disjoint defaults.keys →
      ∃ fault, (s.decide facts base defaults).outcome = .error (.evaluation fault)) ∧
    ∀ i r fields, DecidesAt facts s.rules i r → r.effect = .map fields →
      ¬ base.keys.Disjoint fields.keys →
      ∃ fault, (s.decide facts base defaults).outcome = .error (.evaluation fault) := by
  refine ⟨fun d hd haction => ?_, fun d hd haction => ?_, fun hshared => ?_,
    fun i r fields hdecides heffect hshared => ?_⟩
  · obtain ⟨object, hlayer, ⟨-, rfl⟩ | ⟨i, r, -, -, happly⟩⟩ := decided_of_decide hd
    · exact layered_of_give hlayer rfl
    · rcases applyEffect_eq_ok_iff.1 happly with ⟨-, -, hobject⟩ | ⟨fields, -, hmap, -⟩
      · rw [hobject]
        exact layered_of_give hlayer rfl
      · exact absurd hmap haction
  · obtain ⟨object, hlayer, ⟨-, rfl⟩ | ⟨i, r, hdecides, hindex, happly⟩⟩ := decided_of_decide hd
    · cases haction
    · rcases applyEffect_eq_ok_iff.1 happly with ⟨-, hskip, -⟩ | ⟨fields, heffect, -, hgive⟩
      · rw [haction] at hskip
        cases hskip
      · exact ⟨i, r, fields, hindex, hdecides, heffect, layered_of_give hlayer hgive⟩
  · refine exists_evaluation_of_forall_ne fun d hd => hshared ?_
    obtain ⟨object, hlayer, -⟩ := decided_of_decide hd
    exact disjoint_of_layer hlayer
  · refine exists_evaluation_of_forall_ne fun d hd => hshared ?_
    obtain ⟨object, -, ⟨hfalse, -⟩ | ⟨i', r', hdecides', -, happly⟩⟩ := decided_of_decide hd
    · have hcondition := hfalse r (List.mem_of_getElem? hdecides.rule)
      rw [hdecides.holds] at hcondition
      cases hcondition
    · obtain ⟨-, rfl⟩ := hdecides.unique hdecides'
      rcases applyEffect_eq_ok_iff.1 happly with ⟨hskip, -⟩ | ⟨_, hmap, -, hgive⟩
      · rw [heffect] at hskip
        cases hskip
      · rw [heffect] at hmap
        cases hmap
        exact disjoint_of_give hgive

/-- One of the group that the first rule skips. -/
def rootFacts : Json := .ofFields [("group", .text "root")]

/-- The first rule skips, or the second one maps; a default that is reserved, and a field of the
second rule that is. -/
theorem decide_layers_staff :
    (∃ d, (activeRules.decide rootFacts annFields noteDefaults).outcome = .ok d ∧
      d.action ≠ .map ∧ Layered rootFacts annFields noteDefaults ∅ d.object) ∧
    (∃ d fields, (activeRules.decide (staffFacts (.bool true)) annFields noteDefaults).outcome =
        .ok d ∧ d.action = .map ∧
      Layered (staffFacts (.bool true)) annFields noteDefaults fields d.object) ∧
    (¬ annFields.keys.Disjoint annFields.keys ∧
      ∃ fault, (activeRules.decide rootFacts annFields annFields).outcome =
        .error (.evaluation fault)) ∧
    ∃ r fields, DecidesAt (staffFacts (.bool true)) activeRules.rules 1 r ∧
      r.effect = .map fields ∧ ¬ noteDefaults.keys.Disjoint fields.keys ∧
      ∃ fault, (activeRules.decide (staffFacts (.bool true)) noteDefaults ∅).outcome =
        .error (.evaluation fault) := by
  obtain ⟨hskips, -⟩ := decide_layers activeRules rootFacts annFields noteDefaults
  obtain ⟨-, hmaps, -⟩ := decide_layers activeRules (staffFacts (.bool true)) annFields noteDefaults
  obtain ⟨-, -, hshared, -⟩ := decide_layers activeRules rootFacts annFields annFields
  obtain ⟨-, -, -, hnamed⟩ := decide_layers activeRules (staffFacts (.bool true)) noteDefaults ∅
  obtain ⟨skipped, hskip⟩ : ∃ object, (activeRules.decide rootFacts annFields
      noteDefaults).outcome = .ok ⟨.skip, object, some 0⟩ := ⟨_, by rfl⟩
  obtain ⟨mapped, hmap⟩ : ∃ object, (activeRules.decide (staffFacts (.bool true)) annFields
      noteDefaults).outcome = .ok ⟨.map, object, some 1⟩ := ⟨_, by rfl⟩
  have hname : ¬ annFields.keys.Disjoint annFields.keys :=
    fun h => h List.mem_cons_self List.mem_cons_self
  have hnote : ¬ noteDefaults.keys.Disjoint
      (SortedMap.ofList [("note", CompiledField.constant (.text "active"))]).keys :=
    fun h => h List.mem_cons_self List.mem_cons_self
  have hdecides : DecidesAt (staffFacts (.bool true)) activeRules.rules 1
      ⟨⟨"active", .path "active" []⟩, ⟨"true", .literal (.bool true)⟩,
        .map (.ofList [("note", .constant (.text "active"))])⟩ :=
    ⟨rfl, List.forall_mem_singleton.2 rfl, rfl⟩
  refine ⟨⟨_, hskip, nofun, hskips _ hskip nofun⟩, ?_, ⟨hname, hshared hname⟩,
    _, _, hdecides, rfl, hnote, hnamed _ _ _ hdecides rfl hnote⟩
  obtain ⟨i, r, fields, -, -, -, hlayered⟩ := hmaps _ hmap rfl
  exact ⟨_, fields, hmap, rfl, hlayered⟩

end RuleSet

end Regrant
