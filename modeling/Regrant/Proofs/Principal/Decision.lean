import Regrant.Proofs.Document
import Regrant.Proofs.Principal.Mapper
import Regrant.Proofs.Principal.Merge
import Regrant.Proofs.Rules.Decision

/-!
# What rules decide on an identity

The first rule that applies decides: it skips the identity, or it leaves the type and the address of
the principal, each of which may be a default (`Decided`).
-/

namespace Regrant

open Document (Slot)

/-! ### Reading fields -/

/-- What an object holds for a declared field. -/
def Document.Slot.ofField (object : Fields) (key : String) : Document.Slot :=
  match object.get? key with
  | some value => .given value.document
  | none => .missing

/-- A record holds each of its fields once. -/
theorem Document.slots_record (object : Fields) (keys : List String) :
    (Json.record object).document.slots (keys.map ([·])) =
      some (keys.map (Slot.ofField object)) := by
  have hfilter : ∀ key, ((object.entries.map fun f => (f.1, f.2.document)).filter
      fun f => f.1 ∈ [key]) = (((object.get? key).map Json.document).map (key, ·)).toList := by
    intro key
    have hkeys := SortedMap.filter_key_eq (object.map Json.document).ascending_keys.nodup key
    rw [← SortedMap.get?_map]
    simp only [List.mem_singleton]
    exact hkeys
  show ((Json.record object).document.asFields?.bind fun fields => _) = _
  rw [Json.record, asFields?_object, Option.bind_some]
  induction keys with
  | nil => rfl
  | cons key keys ih =>
    rw [List.map_cons, List.mapM_cons, ih, List.map_cons, hfilter, Slot.ofField]
    cases object.get? key <;> rfl

/-! ### What was decided -/

/-- The fields that an identity has without any rules: a type and the address that is known. -/
def IdentityRecord.defaults (type : PrincipalType) (r : IdentityRecord) : Fields :=
  .ofList (("type", .text type.name) :: (r.email.map fun e => ("email_address", .text e)).toList)

/-- What the first rule that applies makes of an identity: it is skipped, or it goes to the type and
the address that the rule leaves. -/
def Decided (kind : String) (type : PrincipalType) (rules : List Rule) (r : IdentityRecord)
    (p : Principal) : Prop :=
  ∃ rule, FirstMatch [kind] (.ofFields [(kind, r.facts)]) rules rule ∧ p.skip = rule.skip ∧
    (rule.skip = false → ∃ (type' : PrincipalType) (email : String) (value : Json),
      rule.field? [kind] (.ofFields [(kind, r.facts)]) (r.defaults type) "type" = some value ∧
      PrincipalType.ofDocument? value.document = some type' ∧
      rule.field? [kind] (.ofFields [(kind, r.facts)]) (r.defaults type) "email_address" =
        some (.text email) ∧
      p.identity? = some (type'.name ++ ":" ++ email))

theorem Decided.congr {kind : String} {type : PrincipalType} {rules : List Rule}
    {r : IdentityRecord} {p q : Principal} (h : Decided kind type rules r p)
    (hskip : q.skip = p.skip) (hidentity : q.identity? = p.identity?) :
    Decided kind type rules r q := by
  rw [Decided, hskip, hidentity]
  exact h

namespace IdentityMapper

theorem settled_of_map {m : IdentityMapper} {r : IdentityRecord} {p : Principal}
    (h : (m.map r).outcome = .ok p) : PrincipalMerge.Settled p := by
  obtain rfl | ⟨type, email, rfl⟩ := skipped_or_mapped_of_map h <;> exact ⟨rfl, rfl⟩

/-- An object that was decided on is read field by field. -/
theorem mappedFields?_eq (object : Fields) :
    mappedFields? object =
      (Slot.ofField object "email_address").optional Document.asText? >>= fun email =>
        (Slot.ofField object "type").optional PrincipalType.ofDocument? >>= fun type =>
          some (email, type) := by
  have hslots : (Json.record object).document.slots [["email_address"], ["type"]] =
      some [Slot.ofField object "email_address", Slot.ofField object "type"] :=
    Document.slots_record object ["email_address", "type"]
  rw [mappedFields?, hslots]
  rfl

end IdentityMapper

end Regrant
