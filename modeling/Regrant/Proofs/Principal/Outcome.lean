import Regrant.Proofs.Principal.Decision
import Regrant.Proofs.Rules.Evaluation

/-!
# What becomes of an identity

The type and the address of a principal have three layers: what is known of the identity, which is
the type of its kind and the address that its system has, and above that what the deciding rule
gives.  `Becomes` says what comes of an identity by these layers: a principal that is skipped or
mapped, or one of the ways to fail.  A mapper does this to each record
(`IdentityMapper.run_becomes`), and so what it makes of an identity is what the rules decide on it
(`IdentityMapper.decided_of_map`).
-/

namespace Regrant

open Document (Slot)

/-! ### Fields that may be null -/

/-- A field that is not there, or is null. -/
def Lacking (field : Option Json) : Prop := field = none ∨ field = some .null

/-- A field that spells a value. -/
def Holding {α : Type} (spellings : α → List Json) (field : Option Json) (a : α) : Prop :=
  ∃ value ∈ spellings a, field = some value

/-- A field that is neither null nor spells a value. -/
def Misfit {α : Type} (spellings : α → List Json) (field : Option Json) : Prop :=
  ∃ value, field = some value ∧ value ≠ .null ∧ ∀ a, value ∉ spellings a

section

variable {α : Type} {spellings : α → List Json} {field : Option Json} {a : α}

theorem Holding.not_lacking (hnull : ∀ a, .null ∉ spellings a) (h : Holding spellings field a) :
    ¬ Lacking field := by
  obtain ⟨value, hvalue, rfl⟩ := h
  rintro (h | h)
  · cases h
  · cases h
    exact hnull a hvalue

theorem Holding.not_misfit (h : Holding spellings field a) : ¬ Misfit spellings field := by
  obtain ⟨value, hvalue, rfl⟩ := h
  rintro ⟨_, h, -, hnot⟩
  cases h
  exact hnot a hvalue

theorem Lacking.not_misfit (h : Lacking field) : ¬ Misfit spellings field := by
  rintro ⟨value, rfl, hnull, -⟩
  rcases h with h | h <;> cases h
  exact hnull rfl

/-- No field spells two values, if both could be read from it. -/
theorem Holding.unique {read : Document → Option α} {b : α}
    (hread : ∀ value a, read (Json.document value) = some a ↔ value ∈ spellings a)
    (ha : Holding spellings field a) (hb : Holding spellings field b) : a = b := by
  obtain ⟨value, hvalue, rfl⟩ := ha
  obtain ⟨_, hvalue', h⟩ := hb
  cases h
  exact Option.some.inj (((hread value a).2 hvalue).symm.trans ((hread value b).2 hvalue'))

/-- What a field that may be null is read as. -/
theorem Document.Slot.optional_cases_ofField {read : Document → Option α}
    (hread : ∀ value a, read (Json.document value) = some a ↔ value ∈ spellings a) (object : Fields)
    (key : String) :
    ((ofField object key).optional read = some none ∧ Lacking (object.get? key)) ∨
      (∃ a, (ofField object key).optional read = some (some a) ∧
        Holding spellings (object.get? key) a) ∨
      ((ofField object key).optional read = none ∧ Misfit spellings (object.get? key)) := by
  rw [ofField]
  cases object.get? key with
  | none => exact Or.inl ⟨rfl, Or.inl rfl⟩
  | some value =>
    simp only [optional, asOption?]
    by_cases hnull : value = .null
    · rw [if_pos ((Json.isNull_document value).2 hnull), hnull]
      exact Or.inl ⟨rfl, Or.inr rfl⟩
    · rw [if_neg (mt (Json.isNull_document value).1 hnull)]
      cases hvalue : read value.document with
      | none =>
        refine Or.inr (Or.inr ⟨rfl, value, rfl, hnull, fun a ha => ?_⟩)
        rw [(hread value a).2 ha] at hvalue
        cases hvalue
      | some a => exact Or.inr (Or.inl ⟨a, rfl, value, (hread value a).1 hvalue, rfl⟩)

end

/-! ### How types and addresses are spelled -/

/-- A case is written as its name, or as a record with nothing under this name. -/
theorem Json.asCase?_document_iff (value : Json) (name : String) :
    value.document.asCase? = some name ↔ value = .text name ∨ value = .object [(name, .null)] := by
  constructor
  · intro h
    cases value with
    | text s =>
      cases h
      exact Or.inl rfl
    | object fields =>
      cases fields with
      | nil => cases h
      | cons field rest =>
        obtain ⟨key, value⟩ := field
        cases rest with
        | nil =>
          cases value <;> cases h
          exact Or.inr rfl
        | cons field' rest => cases value <;> cases h
    | null => cases h
    | bool b => cases h
    | number n => cases h
    | list items => cases h
  · rintro (rfl | rfl) <;> rfl

/-- A type is spelled by its name, or by a record with nothing under this name. -/
def PrincipalType.spellings (t : PrincipalType) : List Json :=
  [.text t.name, .object [(t.name, .null)]]

/-- An address is spelled as text. -/
def emailSpellings (email : String) : List Json := [.text email]

theorem PrincipalType.ofDocument?_document_iff (value : Json) (t : PrincipalType) :
    ofDocument? value.document = some t ↔ value ∈ t.spellings := by
  have hname : ∀ s, ofName? s = some t ↔ s = t.name := by
    intro s
    constructor
    · intro h
      unfold ofName? at h
      split at h <;> cases h <;> rfl
    · rintro rfl
      exact ofName?_name t
  simp only [ofDocument?, Option.bind_eq_some_iff, Json.asCase?_document_iff, hname, spellings,
    List.mem_cons, List.not_mem_nil, or_false, exists_eq_right]

theorem PrincipalType.null_notMem_spellings (t : PrincipalType) : .null ∉ t.spellings := by
  simp [spellings]

theorem null_notMem_emailSpellings (email : String) : .null ∉ emailSpellings email := by
  simp [emailSpellings]

theorem Json.asText?_document_iff (value : Json) (email : String) :
    value.document.asText? = some email ↔ value ∈ emailSpellings email := by
  rw [emailSpellings, List.mem_singleton]
  constructor
  · exact eq_text_of_asText?
  · rintro rfl
    rfl

/-! ### The layers of a principal -/

/-- What a rule leaves in a field: what it gives for it, or else what is known. -/
def Rule.over (scope : List String) (facts : Json) (rule : Rule) (key : String)
    (known : Option Json) : Option Json :=
  match rule.map.bind (·.get? key) with
  | some f => f.given? scope facts
  | none => known

namespace IdentityRecord

/-- What rules see: the identity under the name of its kind. -/
def seen (kind : String) (r : IdentityRecord) : Json := .ofFields [(kind, r.facts)]

/-- The type: the one of the kind, and above it the one that a rule gives. -/
def typeField (kind : String) (defaultType : Option PrincipalType) (rule : Rule)
    (r : IdentityRecord) : Option Json :=
  rule.over [kind] (r.seen kind) "type" (defaultType.map fun t => .text t.name)

/-- The address: the one that the system knows, and above it the one that a rule gives. -/
def emailField (kind : String) (rule : Rule) (r : IdentityRecord) : Option Json :=
  rule.over [kind] (r.seen kind) "email_address" (r.email.map .text)

end IdentityRecord

section

variable (system kind : String) (defaultType : Option PrincipalType) (rules : List Rule)
  (r : IdentityRecord)

/-- The rule that decides on an identity: the first that applies, and it evaluates. -/
structure Rule.Decides (rule : Rule) : Prop where
  first : FirstMatch [kind] (r.seen kind) rules rule
  evaluates : rule.Evaluates [kind] (r.seen kind) ["sources"]

/-- What rules make of an identity. -/
inductive Becomes : Except Failure Principal → Prop
  /-- No rule applies. -/
  | unmatched (h : ∀ rule ∈ rules, rule.applies [kind] (r.seen kind) = .ok false) :
      Becomes (.error (.noRuleMatch (system ++ "/" ++ kind)))
  /-- Some rule has a condition that is not false, but there is none that decides. -/
  | unevaluated (fault : EvalFault)
      (h : ∃ rule ∈ rules, rule.applies [kind] (r.seen kind) ≠ .ok false)
      (hnone : ∀ rule : Rule, ¬ rule.Decides kind rules r) :
      Becomes (.error (.evaluation fault))
  | skipped {rule : Rule} (h : rule.Decides kind rules r) (hskip : rule.skip = true) :
      Becomes (.ok ⟨true, none, none, .ofList [(system ++ "/" ++ kind, [r.name])]⟩)
  | mapped {rule : Rule} {type : PrincipalType} {email : String} (h : rule.Decides kind rules r)
      (hskip : rule.skip = false)
      (htype : Holding PrincipalType.spellings (r.typeField kind defaultType rule) type)
      (hemail : Holding emailSpellings (r.emailField kind rule) email) :
      Becomes (.ok ⟨false, some email, some type, .ofList [(system ++ "/" ++ kind, [r.name])]⟩)
  | invalid {rule : Rule} (h : rule.Decides kind rules r) (hskip : rule.skip = false)
      (hmisfit : Misfit PrincipalType.spellings (r.typeField kind defaultType rule) ∨
        Misfit emailSpellings (r.emailField kind rule)) :
      Becomes (.error (.evaluation (.invalidPrincipal (system ++ "/" ++ kind) r.name)))
  | incomplete {rule : Rule} (h : rule.Decides kind rules r) (hskip : rule.skip = false)
      (htype : ¬ Misfit PrincipalType.spellings (r.typeField kind defaultType rule))
      (hemail : ¬ Misfit emailSpellings (r.emailField kind rule))
      (hlacking : Lacking (r.typeField kind defaultType rule) ∨ Lacking (r.emailField kind rule)) :
      Becomes (.error (.evaluation (.incompletePrincipal (system ++ "/" ++ kind) r.name)))

/-- Rules that make no principal of an identity: none applies, or the first that does maps it but
leaves no type or no address. -/
inductive Refused : Prop
  | unmatched (h : ∀ rule, ¬ FirstMatch [kind] (r.seen kind) rules rule)
  | unusable {rule : Rule} (hfirst : FirstMatch [kind] (r.seen kind) rules rule)
      (hskip : rule.skip = false)
      (h : Misfit PrincipalType.spellings (r.typeField kind defaultType rule) ∨
        Misfit emailSpellings (r.emailField kind rule) ∨
        Lacking (r.typeField kind defaultType rule) ∨ Lacking (r.emailField kind rule))

end

section

variable {system kind : String} {defaultType : Option PrincipalType} {rules : List Rule}
  {r : IdentityRecord} {rule : Rule} {p : Principal}

/-- **What is refused becomes no principal.** -/
theorem Refused.not_becomes (h : Refused kind defaultType rules r) :
    ¬ Becomes system kind defaultType rules r (.ok p) := by
  intro hp
  cases h with
  | unmatched hnone =>
    cases hp with
    | skipped h => exact hnone _ h.first
    | mapped h => exact hnone _ h.first
  | unusable hfirst hskip h =>
    cases hp with
    | skipped hdecides hskip' =>
      rw [hdecides.first.unique hfirst, hskip] at hskip'
      cases hskip'
    | mapped hdecides _ htype hemail =>
      obtain rfl := hdecides.first.unique hfirst
      rcases h with h | h | h | h
      · exact htype.not_misfit h
      · exact hemail.not_misfit h
      · exact htype.not_lacking PrincipalType.null_notMem_spellings h
      · exact hemail.not_lacking null_notMem_emailSpellings h

/-- Nothing else becomes of an identity that is skipped or mapped. -/
theorem Becomes.eq_ok {x : Except Failure Principal}
    (h : Becomes system kind defaultType rules r (.ok p))
    (hx : Becomes system kind defaultType rules r x) : x = .ok p := by
  obtain ⟨rule, hdecides⟩ : ∃ rule : Rule, rule.Decides kind rules r := by
    cases h with
    | skipped h => exact ⟨_, h⟩
    | mapped h => exact ⟨_, h⟩
  cases hx with
  | unmatched hfalse =>
    have happlies := hfalse rule hdecides.first.mem
    rw [hdecides.first.applies] at happlies
    cases happlies
  | unevaluated _ _ hnone => exact absurd hdecides (hnone rule)
  | invalid h' hskip hmisfit =>
    refine absurd h (Refused.not_becomes (.unusable h'.first hskip ?_))
    exact hmisfit.imp_right Or.inl
  | incomplete h' hskip _ _ hlacking =>
    refine absurd h (Refused.not_becomes (.unusable h'.first hskip ?_))
    exact Or.inr (Or.inr hlacking)
  | skipped h' hskip' =>
    cases h with
    | skipped => rfl
    | mapped h hskip =>
      rw [h.first.unique h'.first, hskip'] at hskip
      cases hskip
  | mapped h' hskip' htype' hemail' =>
    cases h with
    | skipped h hskip =>
      rw [h.first.unique h'.first, hskip'] at hskip
      cases hskip
    | mapped h _ htype hemail =>
      obtain rfl := h.first.unique h'.first
      obtain rfl := htype.unique PrincipalType.ofDocument?_document_iff htype'
      obtain rfl := hemail.unique Json.asText?_document_iff hemail'
      rfl

end

/-! ### What a mapper makes of its records -/

namespace IdentityMapper

variable {m : IdentityMapper} {rules : List Rule} {r : IdentityRecord} {rule : Rule}
  {object : Fields}

/-- Only the sources are reserved. -/
theorem get?_reserved {key : String} (hkey : key ≠ "sources") :
    (m.reserved r).get? key = none := by
  rw [reserved, SortedMap.get?_ofList, List.reverse_singleton, SortedMap.lookup_cons, if_neg hkey]
  rfl

theorem get?_defaults_type :
    (m.defaults r).get? "type" = m.defaultType.map fun t => .text t.name := by
  rw [defaults, SortedMap.get?_ofList]
  cases m.defaultType <;> cases r.email <;> rfl

theorem get?_defaults_email :
    (m.defaults r).get? "email_address" = r.email.map .text := by
  rw [defaults, SortedMap.get?_ofList]
  cases m.defaultType <;> cases r.email <;> rfl

/-- No default is reserved. -/
theorem disjoint_defaults : (m.reserved r).keys.Disjoint (m.defaults r).keys := by
  refine List.singleton_disjoint.2 ?_
  rw [SortedMap.mem_keys_iff, defaults, SortedMap.get?_ofList]
  rintro ⟨value, h⟩
  cases hm : m.defaultType <;> cases hr : r.email <;> simp [hm, hr] at h <;> cases h

/-- The principal of an object is what becomes of the identity, if the rule that decides maps it
and the object has the type and the address that are left. -/
theorem becomes_principal (hdecides : rule.Decides m.kind rules r) (hskip : rule.skip = false)
    (htype : object.get? "type" = r.typeField m.kind m.defaultType rule)
    (hemail : object.get? "email_address" = r.emailField m.kind rule) :
    Becomes m.system m.kind m.defaultType rules r (m.principal r object) := by
  have hemails := Slot.optional_cases_ofField Json.asText?_document_iff object "email_address"
  have htypes := Slot.optional_cases_ofField PrincipalType.ofDocument?_document_iff object "type"
  rw [hemail] at hemails
  rw [htype] at htypes
  rw [principal, mappedFields?_eq]
  rcases hemails with ⟨he, hlacking⟩ | ⟨email, he, hholding⟩ | ⟨he, hmisfit⟩
  · rw [he]
    rcases htypes with ⟨ht, hlacking'⟩ | ⟨type, ht, hholding'⟩ | ⟨ht, hmisfit'⟩
    · rw [ht]
      exact .incomplete hdecides hskip hlacking'.not_misfit hlacking.not_misfit (Or.inr hlacking)
    · rw [ht]
      exact .incomplete hdecides hskip hholding'.not_misfit hlacking.not_misfit (Or.inr hlacking)
    · rw [ht]
      exact .invalid hdecides hskip (Or.inl hmisfit')
  · rw [he]
    rcases htypes with ⟨ht, hlacking'⟩ | ⟨type, ht, hholding'⟩ | ⟨ht, hmisfit'⟩
    · rw [ht]
      exact .incomplete hdecides hskip hlacking'.not_misfit hholding.not_misfit (Or.inl hlacking')
    · rw [ht]
      exact .mapped hdecides hskip hholding' hholding
    · rw [ht]
      exact .invalid hdecides hskip (Or.inl hmisfit')
  · rw [he]
    exact .invalid hdecides hskip (Or.inr hmisfit)

/-- What comes of a decision. -/
theorem outcome_map {d : Decision}
    (hd : (m.rules.decide (r.seen m.kind) (m.reserved r) (m.defaults r)).outcome = .ok d) :
    (m.map r).outcome = match d.action with
      | .noMatch => .error (.noRuleMatch m.key)
      | .skip => .ok (.skipped m.key r.name)
      | .map => m.principal r d.object := by
  rw [IdentityRecord.seen] at hd
  rw [map, Run.outcome_bind, hd]
  obtain ⟨action, object, index⟩ := d
  cases action <;> rfl

/-- **What a mapper makes of an identity is what becomes of it.** -/
theorem becomes_map (hrules : RuleSet.compile [m.kind] rules = .ok m.rules) (r : IdentityRecord) :
    Becomes m.system m.kind m.defaultType rules r (m.map r).outcome := by
  cases hd : (m.rules.decide (r.seen m.kind) (m.reserved r) (m.defaults r)).outcome with
  | error e =>
    have hmap : (m.map r).outcome = .error e := Run.bind_eq_error_iff.2 (Or.inl hd)
    obtain ⟨fault, rfl⟩ := RuleSet.isEvaluation_of_decide hd
    rw [hmap]
    -- If no rule applied, or one that evaluates, there would be a decision.
    refine .unevaluated fault ?_ fun rule h => ?_
    · by_contra hnone
      have hfalse : ∀ rule ∈ rules, rule.applies [m.kind] (r.seen m.kind) = .ok false := by
        intro rule hrule
        by_contra hne
        exact hnone ⟨rule, hrule, hne⟩
      obtain ⟨d, hok, -⟩ := (RuleSet.decide_noMatch_iff hrules disjoint_defaults).2 hfalse
      rw [hd] at hok
      cases hok
    · obtain ⟨d, hok⟩ :=
        (RuleSet.exists_decide_iff hrules disjoint_defaults h.first).2 h.evaluates
      rw [hd] at hok
      cases hok
  | ok d =>
    rw [outcome_map hd]
    by_cases haction : d.action = .noMatch
    · rw [haction]
      exact .unmatched ((RuleSet.decide_noMatch_iff hrules disjoint_defaults).1 ⟨d, hd, haction⟩)
    · obtain ⟨rule, hfirst, hdecided, hfield⟩ := RuleSet.exists_firstMatch hrules hd haction
      have hdecides : rule.Decides m.kind rules r :=
        ⟨hfirst, (RuleSet.exists_decide_iff hrules disjoint_defaults hfirst).1 ⟨d, hd⟩⟩
      rw [hdecided]
      cases hskip : rule.skip with
      | true => exact .skipped hdecides hskip
      | false =>
        refine becomes_principal hdecides hskip ?_ ?_
        · rw [hfield _ (get?_reserved (by decide)), Rule.field?, get?_defaults_type]
          rfl
        · rw [hfield _ (get?_reserved (by decide)), Rule.field?, get?_defaults_email]
          rfl

/-- A mapper of a kind with a type makes of an identity what the rules decide. -/
theorem decided_of_map {type : PrincipalType}
    (hrules : RuleSet.compile [m.kind] rules = .ok m.rules) (htype : m.defaultType = some type)
    {p : Principal} (h : (m.map r).outcome = .ok p) : Decided m.kind type rules r p := by
  have hdefaults : m.defaults r = r.defaults type := by
    rw [defaults, htype]
    rfl
  have hp := becomes_map hrules r
  rw [h] at hp
  cases hp with
  | skipped hdecides hskip =>
    refine ⟨_, hdecides.first, hskip.symm, fun hnot => ?_⟩
    rw [hskip] at hnot
    cases hnot
  | @mapped rule type' email hdecides hskip hholding hemail =>
    obtain ⟨value, hvalue, hleft⟩ := hholding
    obtain ⟨_, hspelled, hleft'⟩ := hemail
    obtain rfl := List.mem_singleton.1 hspelled
    refine ⟨rule, hdecides.first, hskip.symm, fun _ => ⟨type', email, value, ?_,
      (PrincipalType.ofDocument?_document_iff value type').2 hvalue, ?_, rfl⟩⟩
    · rw [← hleft, ← hdefaults, Rule.field?, get?_defaults_type]
      rfl
    · rw [← hleft', ← hdefaults, Rule.field?, get?_defaults_email]
      rfl

/-- **A mapper makes one principal of each record, or fails with the first record that fails.**
What it makes of a record is what becomes of the identity by its rules, and nothing else can.
Whatever the rules are, the principal has this identity as its only source.  A record that the rules
refuse yields no principal, and the run fails.  The address that is known of a user is never
empty. -/
theorem run_becomes {system kind : String} {defaultType : Option PrincipalType} {rules : List Rule}
    {records : List (Except Failure IdentityRecord)} {m : IdentityMapper}
    (hbuild : build system kind defaultType rules (.ok records) = .ok m) :
    ((∃ ps : List Principal, records.map m.made = ps.map .ok ∧ m.run.outcome = .ok ps) ∨
      ∃ (ps : List Principal) (e : Failure) (rest : List (Except Failure Principal)),
        records.map m.made = ps.map .ok ++ .error e :: rest ∧ m.run.outcome = .error e) ∧
    (∀ r, Becomes system kind defaultType rules r (m.made (.ok r))) ∧
    (∀ r p, Becomes system kind defaultType rules r (.ok p) → m.made (.ok r) = .ok p) ∧
    (∀ r p, m.made (.ok r) = .ok p → p.sources.entries = [(system ++ "/" ++ kind, [r.name])]) ∧
    (∀ r, Refused kind defaultType rules r → (∀ p, m.made (.ok r) ≠ .ok p) ∧
      (.ok r ∈ records → ∃ e, m.run.outcome = .error e)) ∧
    ∀ u email, (IdentityRecord.ofUser u).email = some email ↔
      u.email = some email ∧ email ≠ "" := by
  obtain ⟨s, hrules, hm⟩ := exceptMap_eq_ok_iff.1 hbuild
  have hmade : ∀ r, Becomes system kind defaultType rules r (m.made (.ok r)) := by
    subst hm
    exact becomes_map (m := ⟨system, kind, defaultType, s, .ok records⟩) hrules
  have hrecords : m.records = .ok records := by rw [← hm]
  have hrun := run_made hrecords
  have hrefused : ∀ r, Refused kind defaultType rules r → ∀ p, m.made (.ok r) ≠ .ok p := by
    intro r h p hp
    exact h.not_becomes (hp ▸ hmade r)
  refine ⟨hrun, hmade, fun r p h => h.eq_ok (hmade r), fun r p hp => ?_,
    fun r h => ⟨hrefused r h, fun hr => ?_⟩, fun u email => ?_⟩
  · rw [sources_of_map hp, ← hm]
    rfl
  · rcases hrun with ⟨ps, hps, -⟩ | ⟨_, e, _, -, herror⟩
    · have hmem : m.made (.ok r) ∈ records.map m.made := List.mem_map_of_mem hr
      rw [hps] at hmem
      obtain ⟨p, -, hp⟩ := List.mem_map.1 hmem
      exact absurd hp.symm (hrefused r h p)
    · exact ⟨e, herror⟩
  · rw [IdentityRecord.ofUser, Option.filter_eq_some_iff]
    simp

/-- A rule that makes a service account of every user. -/
def account : Rule :=
  ⟨"true", "false", false, some (.ofList [("type", ⟨none, some (.text "serviceAccount")⟩)])⟩

/-- The rules skip one user before that. -/
def accountRules : List Rule := [⟨"user.name == 'root'", "false", true, none⟩, account]

def annRecord : IdentityRecord :=
  ⟨"ann", some "ann@example.org", .ofFields [("name", .text "ann")]⟩

/-- No address is known of this user. -/
def bobRecord : IdentityRecord := ⟨"bob", none, .ofFields [("name", .text "bob")]⟩

/-- The rules map both users, but nothing can be made of the second one. -/
theorem run_becomes_bob :
    ∃ m, build "ranger" "user" (some .user) accountRules (.ok [.ok annRecord, .ok bobRecord]) =
        .ok m ∧
      m.made (.ok annRecord) = .ok ⟨false, some "ann@example.org", some .serviceAccount,
        .ofList [("ranger/user", ["ann"])]⟩ ∧
      Refused "user" (some .user) accountRules bobRecord ∧ ∃ e, m.run.outcome = .error e := by
  obtain ⟨m, hbuild⟩ := exists_ok_of_isOk (x := build "ranger" "user" (some .user) accountRules
    (.ok [.ok annRecord, .ok bobRecord])) (by decide +kernel)
  obtain ⟨-, -, hmade, -, hrefused, -⟩ := run_becomes hbuild
  have hann : FirstMatch ["user"] (annRecord.seen "user") accountRules account :=
    .later (eq_ok_of_toOption (by decide +kernel)) (.here (eq_ok_of_toOption (by decide +kernel)))
  have hbob : FirstMatch ["user"] (bobRecord.seen "user") accountRules account :=
    .later (eq_ok_of_toOption (by decide +kernel)) (.here (eq_ok_of_toOption (by decide +kernel)))
  have hevaluates : account.Evaluates ["user"] (annRecord.seen "user") ["sources"] := by
    refine ⟨fun key f hf => ?_, false, eq_ok_of_toOption (by decide +kernel)⟩
    have hkey : ("type", (⟨none, some (.text "serviceAccount")⟩ : MapField)) = (key, f) :=
      (List.mem_singleton.1 (SortedMap.get?_eq_some_iff.1 hf)).symm
    cases hkey
    exact ⟨by decide, _, rfl⟩
  have hrefuse : Refused "user" (some .user) accountRules bobRecord :=
    .unusable hbob rfl (Or.inr (Or.inr (Or.inr (Or.inl (by rfl)))))
  refine ⟨m, hbuild, hmade _ _ (.mapped ⟨hann, hevaluates⟩ rfl ?_ ?_), hrefuse,
    (hrefused _ hrefuse).2 (List.mem_cons_of_mem _ (List.mem_singleton_self _))⟩
  · exact ⟨.text "serviceAccount", List.mem_cons_self, by rfl⟩
  · exact ⟨.text "ann@example.org", List.mem_cons_self, by rfl⟩

end IdentityMapper

end Regrant
