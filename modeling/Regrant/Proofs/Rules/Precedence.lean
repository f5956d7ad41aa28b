import Regrant.Proofs.Rules.Decision

/-!
# Rules by precedence

The rules of a list are asked in order.  One whose condition is false leaves the question to those
behind it (`decideFrom_append`); the first whose condition is not false settles it, by a decision or
a failure, and the rules behind it are not asked (`decideFrom_append_eq`).  So a decision names the
rule that took it and says that all rules before have passed (`decided_of_decideFrom`).

`decide_first` puts this together for compiled rules, and for the rules that they were compiled
from.
-/

namespace Regrant

/-- A condition fails if it has no value, and also if the value is not true or false. -/
theorem Formula.holds_eq_error_iff {f : Formula} {facts : Json} {e : Failure} :
    f.holds facts = .error e ↔ f.value facts = .error e ∨
      ∃ v, f.value facts = .ok v ∧ (∀ b, v ≠ .bool b) ∧ e = .evaluation (.notBool f.source v) := by
  rw [holds]
  cases f.value facts with
  | error e' => simp
  | ok v => cases v <;> simp [eq_comm]

namespace RuleSet

variable {facts : Json} {base object defaults : Fields} {index : Nat}

/-- The rule at this position is the first whose condition is not false, and it is true. -/
structure DecidesAt (facts : Json) (rules : List CompiledRule) (i : Nat) (r : CompiledRule) :
    Prop where
  rule : rules[i]? = some r
  before : ∀ r' ∈ rules.take i, r'.condition.holds facts = .ok false
  holds : r.condition.holds facts = .ok true

section

variable {rules : List CompiledRule} {r r' : CompiledRule} {i i' : Nat}

theorem DecidesAt.head (h : r.condition.holds facts = .ok true) :
    DecidesAt facts (r :: rules) 0 r where
  rule := rfl
  before := List.forall_mem_nil _
  holds := h

theorem DecidesAt.tail (h : DecidesAt facts rules i r')
    (hpass : r.condition.holds facts = .ok false) : DecidesAt facts (r :: rules) (i + 1) r' where
  rule := h.rule
  before := List.forall_mem_cons.2 ⟨hpass, h.before⟩
  holds := h.holds

/-- Nothing before a rule that decides can decide. -/
theorem DecidesAt.le (h : DecidesAt facts rules i r) (h' : DecidesAt facts rules i' r') :
    i ≤ i' := by
  by_contra hlt
  have hmem : r' ∈ rules.take i := by
    refine List.mem_of_getElem? (i := i') ?_
    rw [List.getElem?_take_of_lt (by omega), h'.rule]
  have hfalse := h.before r' hmem
  rw [h'.holds] at hfalse
  cases hfalse

theorem DecidesAt.unique (h : DecidesAt facts rules i r) (h' : DecidesAt facts rules i' r') :
    i = i' ∧ r = r' := by
  obtain rfl : i = i' := Nat.le_antisymm (h.le h') (h'.le h)
  exact ⟨rfl, Option.some.inj (h.rule.symm.trans h'.rule)⟩

end

/-! ### Asking rules in order -/

/-- Rules whose conditions are false are passed over. -/
theorem decideFrom_append {before rest : List CompiledRule}
    (h : ∀ r ∈ before, r.condition.holds facts = .ok false) :
    decideFrom facts base object index (before ++ rest) =
      decideFrom facts base object (index + before.length) rest := by
  induction before generalizing index with
  | nil => rfl
  | cons r before ih =>
    obtain ⟨hr, hbefore⟩ := List.forall_mem_cons.1 h
    rw [List.cons_append, decideFrom, hr]
    show decideFrom facts base object (index + 1) (before ++ rest) = _
    rw [ih hbefore, List.length_cons]
    congr 1
    omega

/-- What comes after a rule whose condition is not false is not asked. -/
theorem decideFrom_append_eq {kept : List CompiledRule}
    (h : ∃ r ∈ kept, r.condition.holds facts ≠ .ok false) (after : List CompiledRule) :
    decideFrom facts base object index (kept ++ after) =
      decideFrom facts base object index kept := by
  induction kept generalizing index with
  | nil =>
    obtain ⟨r, hr, -⟩ := h
    cases hr
  | cons r kept ih =>
    rw [List.cons_append, decideFrom, decideFrom]
    cases hr : r.condition.holds facts with
    | error e => rfl
    | ok b =>
      cases b with
      | true => rfl
      | false =>
        refine ih ?_
        obtain ⟨r', hr', hne⟩ := h
        rcases List.mem_cons.1 hr' with rfl | hr'
        · exact absurd hr hne
        · exact ⟨r', hr', hne⟩

/-- The first condition that is not false fails, and with it the run. -/
theorem decideFrom_of_error {before after : List CompiledRule} {r : CompiledRule} {e : Failure}
    (hbefore : ∀ r' ∈ before, r'.condition.holds facts = .ok false)
    (h : r.condition.holds facts = .error e) :
    decideFrom facts base object index (before ++ r :: after) = .fail e := by
  rw [decideFrom_append hbefore, decideFrom, h]

/-- If all conditions are false, nothing is decided. -/
theorem decideFrom_of_forall_false {rules : List CompiledRule}
    (h : ∀ r ∈ rules, r.condition.holds facts = .ok false) :
    decideFrom facts base object index rules = .pure ⟨.noMatch, object, none⟩ := by
  have happend : decideFrom facts base object index (rules ++ []) =
      decideFrom facts base object (index + rules.length) [] := decideFrom_append h
  rwa [List.append_nil] at happend

/-- **How a decision comes about**: all conditions are false, or the first that is not is true, and
the effect of its rule is what was decided. -/
theorem decided_of_decideFrom {rules : List CompiledRule} {d : Decision}
    (h : (decideFrom facts base object index rules).outcome = .ok d) :
    ((∀ r ∈ rules, r.condition.holds facts = .ok false) ∧ d = ⟨.noMatch, object, none⟩) ∨
      ∃ i r, DecidesAt facts rules i r ∧ d.index = some (index + i) ∧
        applyEffect facts base object r.effect = .ok (d.action, d.object) := by
  induction rules generalizing index with
  | nil =>
    cases h
    exact Or.inl ⟨List.forall_mem_nil _, rfl⟩
  | cons r rules ih =>
    rw [decideFrom] at h
    cases hr : r.condition.holds facts with
    | error e =>
      rw [hr] at h
      cases h
    | ok b =>
      rw [hr] at h
      cases b with
      | false =>
        rcases ih h with ⟨hfalse, hd⟩ | ⟨i, r', hdecides, hindex, happly⟩
        · exact Or.inl ⟨List.forall_mem_cons.2 ⟨hr, hfalse⟩, hd⟩
        · refine Or.inr ⟨i + 1, r', hdecides.tail hr, ?_, happly⟩
          rw [hindex]
          congr 1
          omega
      | true =>
        obtain ⟨⟨action, object'⟩, happly, h⟩ := Run.bind_eq_ok_iff.1 h
        obtain ⟨logged, -, h⟩ := Run.bind_eq_ok_iff.1 h
        obtain rfl : ⟨action, object', some index⟩ = d := by cases logged <;> cases h <;> rfl
        exact Or.inr ⟨0, r, .head hr, rfl, happly⟩

/-! ### The whole decision -/

/-- If reserved fields and defaults share no key, asking begins with all of both. -/
theorem exists_layer {entries : List (String × Json)}
    (h : ∀ entry ∈ entries, base.contains entry.1 = false) :
    ∃ object', layer base object entries = .ok object' := by
  induction entries generalizing object with
  | nil => exact ⟨object, rfl⟩
  | cons entry entries ih =>
    obtain ⟨hentry, hentries⟩ := List.forall_mem_cons.1 h
    rw [layer, hentry]
    exact ih hentries

theorem decide_append_eq {kept : List CompiledRule}
    (h : ∃ r ∈ kept, r.condition.holds facts ≠ .ok false) (after : List CompiledRule) :
    decide ⟨kept ++ after⟩ facts base defaults = decide ⟨kept⟩ facts base defaults := by
  rw [decide, decide]
  simp only [decideFrom_append_eq h]

/-- Rules that compile decide the same, whatever comes after one whose condition is not false. -/
theorem decide_eq_of_compile {scope : List String} {kept after after' : List Rule} {s s' : RuleSet}
    (hs : compile scope (kept ++ after) = .ok s) (hs' : compile scope (kept ++ after') = .ok s')
    (h : ∃ r ∈ kept, r.applies scope facts ≠ .ok false) :
    s'.decide facts base defaults = s.decide facts base defaults := by
  obtain ⟨r, hr, hne⟩ := h
  obtain ⟨rules⟩ := s
  obtain ⟨rules'⟩ := s'
  obtain ⟨compiled, rest, hkept, rfl⟩ := exists_append_of_forall₂ (compile_eq_ok_iff.1 hs)
  obtain ⟨compiled', rest', hkept', rfl⟩ := exists_append_of_forall₂ (compile_eq_ok_iff.1 hs')
  obtain rfl : compiled = compiled' := compiles_unique hkept hkept'
  obtain ⟨c, hc, hcompiles⟩ := exists_of_forall₂_left hkept hr
  have hstop : ∃ c ∈ compiled, c.condition.holds facts ≠ .ok false := by
    refine ⟨c, hc, ?_⟩
    rw [hcompiles.holds_condition]
    exact hne
  rw [decide_append_eq hstop, decide_append_eq hstop]

/-- The run up to the rules, if no default is reserved. -/
theorem exists_decide_eq (s : RuleSet) (facts : Json)
    (hdisjoint : base.keys.Disjoint defaults.keys) :
    ∃ object, s.decide facts base defaults = decideFrom facts base object 0 s.rules := by
  have hfree : ∀ entry ∈ defaults.entries, base.contains entry.1 = false := by
    intro entry hentry
    rw [SortedMap.contains_eq_false_iff]
    exact fun hbase => hdisjoint hbase (List.mem_map_of_mem hentry)
  obtain ⟨object, hlayer⟩ : ∃ object, layer base base defaults.entries = .ok object :=
    exists_layer hfree
  refine ⟨object, ?_⟩
  rw [decide, hlayer]
  rfl

/-- The rule that decided is the first that applies, and its effect is on top of all defaults. -/
theorem decided_of_decide {s : RuleSet} {d : Decision}
    (h : (s.decide facts base defaults).outcome = .ok d) :
    ∃ object, layer base base defaults.entries = .ok object ∧
      (((∀ r ∈ s.rules, r.condition.holds facts = .ok false) ∧ d = ⟨.noMatch, object, none⟩) ∨
        ∃ i r, DecidesAt facts s.rules i r ∧ d.index = some i ∧
          applyEffect facts base object r.effect = .ok (d.action, d.object)) := by
  obtain ⟨object, hlayer, h⟩ := Run.bind_eq_ok_iff.1 h
  refine ⟨object, hlayer, ?_⟩
  simpa only [Nat.zero_add] using decided_of_decideFrom h

/-- **The first rule that applies decides, and nothing after it matters.**  A decision by a rule, to
skip or to map, says that the conditions of all rules before it are false and its own is true, and
nothing is decided exactly if all conditions are false.  If the first condition that is not false
has no value, or one that is not true or false, the run fails with this.  Whatever rules come after
the first whose condition is not false, the run is the same: what was decided, how it failed, and
what was reported.  So it is for any rules that compile and begin with the same ones. -/
theorem decide_first (s : RuleSet) (facts : Json) (base defaults : Fields)
    (hdisjoint : base.keys.Disjoint defaults.keys) :
    (∀ d, (s.decide facts base defaults).outcome = .ok d →
      (d.action = .noMatch ∧ d.index = none) ∨
      ((d.action = .skip ∨ d.action = .map) ∧
        ∃ i r, d.index = some i ∧ DecidesAt facts s.rules i r)) ∧
    ((∃ d, (s.decide facts base defaults).outcome = .ok d ∧ d.action = .noMatch) ↔
      ∀ r ∈ s.rules, r.condition.holds facts = .ok false) ∧
    (∀ before r after e, s.rules = before ++ r :: after →
      (∀ r' ∈ before, r'.condition.holds facts = .ok false) →
      (r.condition.value facts = .error e ∨
        ∃ v, r.condition.value facts = .ok v ∧ (∀ b, v ≠ .bool b) ∧
          e = .evaluation (.notBool r.condition.source v)) →
      (s.decide facts base defaults).outcome = .error e) ∧
    (∀ kept after after', s.rules = kept ++ after →
      (∃ r ∈ kept, r.condition.holds facts ≠ .ok false) →
      decide ⟨kept ++ after'⟩ facts base defaults = s.decide facts base defaults) ∧
    ∀ (scope : List String) (kept after after' : List Rule) (s' : RuleSet),
      compile scope (kept ++ after) = .ok s → compile scope (kept ++ after') = .ok s' →
      (∃ r ∈ kept, r.applies scope facts ≠ .ok false) →
      s'.decide facts base defaults = s.decide facts base defaults := by
  obtain ⟨object, hrun⟩ := exists_decide_eq s facts hdisjoint
  refine ⟨fun d hd => ?_, ⟨?_, fun hfalse => ?_⟩, ?_, ?_, ?_⟩
  · obtain ⟨_, -, ⟨-, rfl⟩ | ⟨i, r, hdecides, hindex, happly⟩⟩ := decided_of_decide hd
    · exact Or.inl ⟨rfl, rfl⟩
    · refine Or.inr ⟨?_, i, r, hindex, hdecides⟩
      cases haction : d.action with
      | map => exact Or.inr rfl
      | skip => exact Or.inl rfl
      | noMatch => exact absurd haction (ne_noMatch_of_applyEffect happly)
  · rintro ⟨d, hd, haction⟩
    obtain ⟨_, -, ⟨hfalse, -⟩ | ⟨i, r, -, -, happly⟩⟩ := decided_of_decide hd
    · exact hfalse
    · exact absurd haction (ne_noMatch_of_applyEffect happly)
  · rw [hrun, decideFrom_of_forall_false hfalse]
    exact ⟨_, rfl, rfl⟩
  · intro before r after e hrules hbefore he
    rw [hrun, hrules, decideFrom_of_error hbefore (Formula.holds_eq_error_iff.2 he)]
    rfl
  · rintro kept after after' hrules hkept
    obtain ⟨rules⟩ := s
    obtain rfl : rules = kept ++ after := hrules
    rw [decide_append_eq hkept, decide_append_eq hkept]
  · intro scope kept after after' s' hs hs' hkept
    exact decide_eq_of_compile hs hs' hkept

/-- A rule that maps who is active. -/
def mapActive : Rule :=
  ⟨"active", "true", false, some (.ofList [("note", ⟨none, some (.text "active")⟩)])⟩

/-- Before it one that skips a group, and after it one that compares a text with a number. -/
def activeList : List Rule :=
  [⟨"group == 'root'", "false", true, none⟩, mapActive, ⟨"group > 1", "false", true, none⟩]

/-- The same rules compiled. -/
def activeRules : RuleSet :=
  ⟨[⟨⟨"group == 'root'", .binary .eq (.path "group" []) (.literal (.text "root"))⟩,
      ⟨"false", .literal (.bool false)⟩, .skip⟩,
    ⟨⟨"active", .path "active" []⟩, ⟨"true", .literal (.bool true)⟩,
      .map (.ofList [("note", .constant (.text "active"))])⟩,
    ⟨⟨"group > 1", .binary .gt (.path "group" []) (.literal (.int 1))⟩,
      ⟨"false", .literal (.bool false)⟩, .skip⟩]⟩

/-- One of the staff, who is active or not. -/
def staffFacts (active : Json) : Json := .ofFields [("active", active), ("group", .text "staff")]

def annFields : Fields := .ofList [("name", .text "ann")]

def noteDefaults : Fields := .ofList [("note", .null)]

/-- The second rule decides, or fails if it is not said whether she is active; the third one would
fail. -/
theorem decide_first_staff :
    annFields.keys.Disjoint noteDefaults.keys ∧
    (∃ d, (activeRules.decide (staffFacts (.bool true)) annFields noteDefaults).outcome = .ok d ∧
      ∃ i r, d.index = some i ∧ DecidesAt (staffFacts (.bool true)) activeRules.rules i r) ∧
    (activeRules.decide (staffFacts (.text "yes")) annFields noteDefaults).outcome =
      .error (.evaluation (.notBool "active" (.text "yes"))) ∧
    decide ⟨activeRules.rules.take 2⟩ (staffFacts (.bool true)) annFields noteDefaults =
      activeRules.decide (staffFacts (.bool true)) annFields noteDefaults ∧
    ∃ s s', compile ["active", "group"] activeList = .ok s ∧
      compile ["active", "group"] (activeList.take 2) = .ok s' ∧
      s'.decide (staffFacts (.bool true)) annFields noteDefaults =
        s.decide (staffFacts (.bool true)) annFields noteDefaults := by
  have hdisjoint : annFields.keys.Disjoint noteDefaults.keys := by
    show List.Disjoint ["name"] ["note"]
    exact List.singleton_disjoint.2 (by decide)
  obtain ⟨hdecided, -, -, hafter, -⟩ :=
    decide_first activeRules (staffFacts (.bool true)) annFields noteDefaults hdisjoint
  obtain ⟨-, -, hfails, -⟩ :=
    decide_first activeRules (staffFacts (.text "yes")) annFields noteDefaults hdisjoint
  obtain ⟨s, hs⟩ := exists_ok_of_isOk (x := compile ["active", "group"] activeList)
    (by decide +kernel)
  obtain ⟨s', hs'⟩ := exists_ok_of_isOk (x := compile ["active", "group"] (activeList.take 2))
    (by decide +kernel)
  obtain ⟨-, -, -, -, hcompiled⟩ :=
    decide_first s (staffFacts (.bool true)) annFields noteDefaults hdisjoint
  have happlies : mapActive.applies ["active", "group"] (staffFacts (.bool true)) ≠ .ok false := by
    intro hfalse
    exact absurd (congrArg Except.toOption hfalse) (by decide +kernel)
  refine ⟨hdisjoint, ?_, ?_, ?_, s, s', hs, hs', ?_⟩
  · obtain ⟨object, hok⟩ : ∃ object, (activeRules.decide (staffFacts (.bool true)) annFields
        noteDefaults).outcome = .ok ⟨.map, object, some 1⟩ := ⟨_, by rfl⟩
    rcases hdecided _ hok with ⟨hnot, -⟩ | ⟨-, hdecides⟩
    · cases hnot
    · exact ⟨_, hok, hdecides⟩
  · refine hfails (activeRules.rules.take 1) _ (activeRules.rules.drop 2) _ rfl ?_
      (Or.inr ⟨.text "yes", rfl, nofun, rfl⟩)
    exact List.forall_mem_singleton.2 rfl
  · have hsplit := hafter (activeRules.rules.take 2) (activeRules.rules.drop 2) [] rfl
    rw [List.append_nil] at hsplit
    exact hsplit ⟨_, List.mem_cons_of_mem _ List.mem_cons_self, nofun⟩
  · refine hcompiled ["active", "group"] (activeList.take 2) (activeList.drop 2) [] s' hs ?_ ?_
    · rwa [List.append_nil]
    · exact ⟨mapActive, List.mem_cons_of_mem _ List.mem_cons_self, happlies⟩

end RuleSet

end Regrant
