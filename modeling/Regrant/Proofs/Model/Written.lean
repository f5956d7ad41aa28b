import Regrant.Command.Output
import Regrant.Proofs.Model.Models
import Regrant.Proofs.Targets

/-!
# What is written can be read

Bindings and principals are written as documents that list them, and are read back from these
(`IamBinding.listOfDocument?_bindingsDocument`, `Principal.listOfDocument?_principalsDocument`).
Bindings have to be such as their fields can hold, and those of a build are
(`Build.valued_of_compute`): mappers propose them with the priority of their system and with records
whose keys are in order, and merging only puts records together.
-/

namespace Regrant

open Document (Slot)

/-! ### Documents -/

/-- A document that lists bindings. -/
def IamBinding.listOfDocument? (d : Document) : Option (List IamBinding) := do
  match ← d.slots [["bindings"]] with
  | [bindings] => bindings.required (Document.asListOf? ofDocument?)
  | _ => none

theorem IamBinding.listOfDocument?_bindingsDocument {l : List IamBinding} (h : ∀ b ∈ l, b.Valued) :
    listOfDocument? (bindingsDocument l).document = some l := by
  have hlist : (Json.list (l.map toJson)).document.asListOf? ofDocument? = some l :=
    asListOf?_list fun b hb => ofDocument?_toJson (h b hb)
  exact (read_named listOfDocument? [["bindings"]] [some (.list (l.map toJson))] (fun _ => rfl)
    (by decide) rfl).trans hlist

theorem Principal.listOfDocument?_principalsDocument (l : List Principal) :
    listOfDocument? (principalsDocument l).document = some l := by
  have hlist : (Json.list (l.map toJson)).document.asListOf? ofDocument? = some l :=
    asListOf?_list fun p _ => p.ofDocument?_toJson
  exact (read_named listOfDocument? [["principals"]] [some (.list (l.map toJson))] (fun _ => rfl)
    (by decide) rfl).trans hlist

/-! ### The bindings of a build -/

namespace Provenance

theorem canonical_empty : Canonical ∅ := fun _ hrecords => (List.not_mem_nil hrecords).elim

theorem canonical_iff {p : Provenance} :
    p.Canonical ↔ ∀ s, ∀ j ∈ (p.get? s).getD [], j.Canonical := by
  constructor
  · intro h s j hj
    cases hs : p.get? s with
    | none =>
      rw [hs] at hj
      exact (List.not_mem_nil hj).elim
    | some records =>
      rw [hs] at hj
      exact h records (List.mem_map_of_mem (SortedMap.get?_eq_some_iff.1 hs)) j hj
  · intro h records hrecords j hj
    obtain ⟨e, he, rfl⟩ := List.mem_map.1 hrecords
    refine h e.1 j ?_
    rw [SortedMap.get?_eq_some_iff.2 he]
    exact hj

end Provenance

namespace IamBinding.Valued

variable {b : IamBinding}

theorem withRecord (h : b.Valued) (system : String) {permission principal : Json}
    (hpermission : permission.Canonical) (hprincipal : principal.Canonical) :
    (b.withRecord system permission principal).Valued := by
  have hextend : ∀ {p : Provenance} {j : Json}, p.Canonical → j.Canonical →
      (p.extend system [j]).Canonical := by
    intro p j hp hj
    rw [Provenance.canonical_iff] at hp ⊢
    intro s k hk
    rw [Provenance.get?_extend] at hk
    split at hk
    · rcases List.mem_append.1 hk with hk | hk
      · exact hp system k hk
      · obtain rfl := List.mem_singleton.1 hk
        exact hj
    · exact hp s k hk
  exact ⟨h.priority, hextend h.permissions hpermission, hextend h.principals hprincipal⟩

/-- Merging puts records together. -/
theorem of_mem_resolve {m : RoleMappings} {cs : List IamBinding}
    (hb : b ∈ (Merge.resolve (.ofMappings m) cs).2) (h : ∀ c ∈ cs, c.Valued) : b.Valued := by
  have hpart : ∀ {part : IamBinding → Provenance}, Accumulates part →
      (∀ c ∈ cs, (part c).Canonical) → (part b).Canonical := by
    intro part hacc hcs
    rw [Provenance.canonical_iff]
    intro s j hj
    rw [Merge.get?_of_mem_resolve hacc hb, Provenance.getD_together] at hj
    obtain ⟨p, hp, hj⟩ := List.mem_flatMap.1 hj
    obtain ⟨c, hc, rfl⟩ := List.mem_map.1 hp
    exact Provenance.canonical_iff.1 (hcs c (Merge.mem_of_mem_sources hc)) s j hj
  obtain ⟨c, hc, -, -, -, hpriority⟩ := Merge.origin_of_mem_resolve hb
  constructor
  · rw [hpriority]
    exact (h c hc).priority
  · exact hpart accumulates_permissions fun c hc => (h c hc).permissions
  · exact hpart accumulates_principals fun c hc => (h c hc).principals

end IamBinding.Valued

/-- Records are put in key order when a candidate is made. -/
theorem Candidate.valued_of {b : IamBinding} (h : b.Valued) (system : String) (table : Table)
    (principal : Principal) (identity permission : Json) :
    (Candidate.of system table principal identity permission b).binding.Valued :=
  h.withRecord system permission.canonical_sortKeys identity.canonical_sortKeys

theorem SystemMapper.valued_of_maps {m : SystemMapper} {b : IamBinding}
    (h : Merge.Maps m.toMapper b) : b.Valued := by
  obtain ⟨c, hc, rfl⟩ := exists_proposes_of_maps h
  cases m with
  | hdfs m =>
    obtain ⟨x, hx⟩ := hc
    obtain ⟨principal, -, hx⟩ := Option.bind_eq_some_iff.1 hx
    obtain ⟨b, hb, rfl⟩ := Option.map_eq_some_iff.1 hx
    rw [HdfsMapper.binding?] at hb
    split at hb
    · cases hb
      exact Candidate.valued_of ⟨(by decide : FitsInt32 10), Provenance.canonical_empty,
        Provenance.canonical_empty⟩ ..
    · cases hb
  | ranger m =>
    obtain ⟨x, hx⟩ := hc
    obtain ⟨principal, -, hx⟩ := Option.bind_eq_some_iff.1 hx
    obtain ⟨b, hb, rfl⟩ := Option.map_eq_some_iff.1 hx
    rw [RangerMapper.binding?] at hb
    split at hb
    · cases hb
      exact Candidate.valued_of ⟨(by decide : FitsInt32 0), Provenance.canonical_empty,
        Provenance.canonical_empty⟩ ..
    · cases hb

/-- **The bindings of a build can be written and read back.** -/
theorem Build.valued_of_compute {t : FileTree} {s : Settings} {bs : List IamBinding}
    (h : (compute t s).outcome = .ok bs) : ∀ b ∈ bs, b.Valued := by
  obtain ⟨ruleset, hruleset, -⟩ := Run.bind_eq_ok_iff.1 h
  obtain ⟨ms, hms, hrun⟩ := (compute_eq_ok_iff hruleset).1 h
  obtain ⟨-, cs, hcs, rfl⟩ := Merge.run_eq_ok_iff.1 hrun
  have hvalued : ∀ c ∈ cs, c.Valued := by
    intro c hc
    obtain ⟨m, hm, hmaps⟩ := (Merge.mem_collect_iff hcs).1 hc
    obtain ⟨x, -, hplanned⟩ := exists_of_mem_gathered hms hm
    obtain ⟨m', rfl, -⟩ := exists_systemMapper_of_planned hplanned
    exact SystemMapper.valued_of_maps hmaps
  exact fun b hb => .of_mem_resolve hb hvalued

/-! ### All models -/

/-- What a JSON value is read as is read again from what is written for it, so writing it changes
nothing from the second time on. -/
structure Stable {α : Type} (read : Document → Option α) (write : α → Json) : Prop where
  rereads : Rereads read write
  idempotent : ∀ j, (recode read write j).bind (recode read write) = recode read write j

theorem Rereads.stable {α : Type} {read : Document → Option α} {write : α → Json}
    (h : Rereads read write) : Stable read write := ⟨h, h.recode_recode⟩

/-- **Models are read from what is written for them**, alone and in the documents that commands
write.  The bindings of a document are such as their fields can hold, as are those of a build. -/
theorem models_reread :
    Stable Policy.ofDocument? Policy.toJson ∧ Stable Rule.ofDocument? Rule.toJson ∧
    Stable Principal.ofDocument? Principal.toJson ∧
    Stable IamBinding.ofDocument? IamBinding.toJson ∧
    Stable HdfsPermission.ofDocument? HdfsPermission.toJson ∧
    Stable RangerUser.ofDocument? RangerUser.toJson ∧
    Stable RangerGroup.ofDocument? RangerGroup.toJson ∧
    Stable RangerRole.ofDocument? RangerRole.toJson ∧
    Stable RangerService.ofDocument? RangerService.toJson ∧
    (∀ l : List IamBinding, (∀ b ∈ l, b.Valued) →
      IamBinding.listOfDocument? (bindingsDocument l).document = some l) ∧
    (∀ (t : FileTree) (s : Settings) (l : List IamBinding), (Build.compute t s).outcome = .ok l →
      IamBinding.listOfDocument? (bindingsDocument l).document = some l) ∧
    ∀ l : List Principal, Principal.listOfDocument? (principalsDocument l).document = some l :=
  ⟨Policy.rereads.stable, Rule.rereads.stable, Principal.rereads.stable, IamBinding.rereads.stable,
    HdfsPermission.rereads.stable, RangerUser.rereads.stable, RangerGroup.rereads.stable,
    RangerRole.rereads.stable, RangerService.rereads.stable,
    fun _ => IamBinding.listOfDocument?_bindingsDocument,
    fun _ _ _ h => IamBinding.listOfDocument?_bindingsDocument (Build.valued_of_compute h),
    Principal.listOfDocument?_principalsDocument⟩

/-- A policy with nulls for lists, without some of its fields, and with a key that is given twice. -/
def sparsePolicy : Json :=
  .object [("service", .text "hive"), ("name", .text "p"), ("policyItems", .null),
    ("denyPolicyItems", .list [.object [("users", .null), ("groups", .list [.text "g"])]]),
    ("rowFilterPolicyItems", .list [.object [("b", .null), ("a", .null), ("b", .bool true)]])]

/-- The policy is read, though it is not what is written for it. -/
theorem models_reread_sparsePolicy :
    ∃ p, Policy.ofDocument? sparsePolicy.document = some p ∧
      Policy.ofDocument? p.toJson.document = some p ∧ p.enabled = true ∧ p.items = [] ∧
      p.denyItems.map (·.groups) = [["g"]] ∧ p.toJson.field? "policyItems" = some (.list []) := by
  obtain ⟨p, hp⟩ : ∃ p, Policy.ofDocument? sparsePolicy.document = some p := ⟨_, rfl⟩
  refine ⟨p, hp, models_reread.1.rereads _ p hp, ?_⟩
  cases hp
  exact ⟨rfl, rfl, rfl, rfl⟩

end Regrant
