import Regrant.Proofs.Mapping.Overrides
import Regrant.Proofs.Merge.Collected
import Regrant.Proofs.Merge.Records

/-!
# What mappers propose

Whatever its rules and its data are, a mapper proposes bindings of one form: they are on resources
of its target, have the priority of its system, and hold one record of this system and of no other
(`SystemMapper.isProposed_of_maps`).
-/

namespace Regrant

namespace Provenance

/-- One record, of one system. -/
def single (system : String) (record : Json) : Provenance := (∅ : Provenance).extend system [record]

@[simp] theorem keys_single (system : String) (record : Json) :
    (single system record).keys = [system] := rfl

theorem get?_single (system : String) (record : Json) (s : String) :
    (single system record).get? s = if s = system then some [record] else none := by
  rw [single, get?_extend]
  rfl

end Provenance

/-- All records of the binding are of one system. -/
structure IamBinding.FromOnly (system : String) (b : IamBinding) : Prop where
  permissions : b.permissions.keys = [system]
  principals : b.principals.keys = [system]

/-- The binding is on a resource of this type with this priority, and was derived from one record of
one system. -/
structure IamBinding.IsProposed (system : String) (priority : Int) (type : ResourceType)
    (b : IamBinding) : Prop where
  priority : b.priority = priority
  type : b.type = type
  records : ∃ permission principal, b.permissions = .single system permission ∧
    b.principals = .single system principal

namespace IamBinding.IsProposed

variable {system : String} {priority : Int} {type : ResourceType} {b : IamBinding}

theorem fromOnly (h : b.IsProposed system priority type) : b.FromOnly system := by
  obtain ⟨permission, principal, hpermissions, hprincipals⟩ := h.records
  constructor
  · rw [hpermissions, Provenance.keys_single]
  · rw [hprincipals, Provenance.keys_single]

theorem aligned (h : b.IsProposed system priority type) : b.Aligned := by
  obtain ⟨permission, principal, hpermissions, hprincipals⟩ := h.records
  intro s
  rw [hpermissions, hprincipals, Provenance.get?_single, Provenance.get?_single]
  split <;> rfl

end IamBinding.IsProposed

/-- A mapper of the permissions of one system. -/
inductive SystemMapper where
  | hdfs (m : HdfsMapper)
  | ranger (m : RangerMapper)

namespace SystemMapper

def system : SystemMapper → String
  | hdfs _ => "hdfs"
  | ranger _ => "ranger"

def priority : SystemMapper → Int
  | hdfs _ => 10
  | ranger _ => 0

def target : SystemMapper → Target
  | hdfs m => m.target
  | ranger m => m.target

def toMapper : SystemMapper → BindingMapper
  | hdfs m => ⟨m.name, m.run⟩
  | ranger m => ⟨m.name, m.run⟩

end SystemMapper

theorem HdfsMapper.isProposed_of_candidate? {m : HdfsMapper} {x : Entry} {c : Candidate}
    (h : m.candidate? x = some c) : c.binding.IsProposed "hdfs" 10 m.target.resourceType := by
  obtain ⟨principal, -, h⟩ := Option.bind_eq_some_iff.1 h
  obtain ⟨b, hb, rfl⟩ := Option.map_eq_some_iff.1 h
  rw [binding?] at hb
  split at hb
  · cases hb
    exact ⟨rfl, rfl, _, _, rfl, rfl⟩
  · cases hb

theorem RangerMapper.isProposed_of_candidate? {m : RangerMapper} {x : Entry} {c : Candidate}
    (h : m.candidate? x = some c) : c.binding.IsProposed "ranger" 0 m.target.resourceType := by
  obtain ⟨principal, -, h⟩ := Option.bind_eq_some_iff.1 h
  obtain ⟨b, hb, rfl⟩ := Option.map_eq_some_iff.1 h
  rw [binding?] at hb
  split at hb
  · cases hb
    exact ⟨rfl, rfl, _, _, rfl, rfl⟩
  · cases hb

/-- What a judge has judged is on the binding of a candidate. -/
theorem Judge.Judged.exists_candidate {j : Judge} {cs : List Candidate} {notices : List Notice}
    {vs : List Verdict} (h : j.Judged cs notices vs) {v : Verdict} (hv : v ∈ vs) :
    ∃ c ∈ cs, c.binding = v.binding := by
  have hmem : v.binding ∈ cs.map (·.binding) := h.bindings ▸ List.mem_map_of_mem hv
  exact List.mem_map.1 hmem

namespace SystemMapper

variable {m : SystemMapper}

/-- The mapper has an entry that amounts to the candidate. -/
def Proposes : SystemMapper → Candidate → Prop
  | hdfs m, c => ∃ x, m.candidate? x = some c
  | ranger m, c => ∃ x, m.candidate? x = some c

/-- What a mapper maps is the binding of a candidate that it proposes. -/
theorem exists_proposes_of_maps {b : IamBinding} (h : Merge.Maps m.toMapper b) :
    ∃ c, m.Proposes c ∧ c.binding = b := by
  obtain ⟨vs, hrun, v, hv, -, rfl⟩ := h
  cases m with
  | hdfs m =>
    obtain ⟨c, hc, hcv⟩ := (m.judges_run vs hrun).exists_candidate hv
    rw [HdfsMapper.candidates] at hc
    split at hc
    · obtain ⟨x, -, hx⟩ := List.mem_filterMap.1 hc
      exact ⟨c, ⟨x, hx⟩, hcv⟩
    · cases hc
  | ranger m =>
    obtain ⟨c, hc, hcv⟩ := (m.judges_run vs hrun).exists_candidate hv
    obtain ⟨x?, -, hx⟩ := List.mem_filterMap.1 hc
    obtain ⟨x, -, hx⟩ := Option.bind_eq_some_iff.1 hx
    exact ⟨c, ⟨x, hx⟩, hcv⟩

/-- **What a mapper maps is proposed for its system.** -/
theorem isProposed_of_maps {b : IamBinding} (h : Merge.Maps m.toMapper b) :
    b.IsProposed m.system m.priority m.target.resourceType := by
  obtain ⟨c, hc, rfl⟩ := exists_proposes_of_maps h
  cases m with
  | hdfs m =>
    obtain ⟨x, hx⟩ := hc
    exact HdfsMapper.isProposed_of_candidate? hx
  | ranger m =>
    obtain ⟨x, hx⟩ := hc
    exact RangerMapper.isProposed_of_candidate? hx

end SystemMapper

end Regrant
