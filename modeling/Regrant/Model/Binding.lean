import Regrant.Document

/-!
# Bindings

A binding grants one role to one principal on one resource, and knows the records of each source
system from which it was derived.  `absorb` adds the records of another binding.
-/

namespace Regrant

inductive ResourceType where
  | gcsManagedFolder
  | bqTable
deriving DecidableEq, Inhabited

namespace ResourceType

def name : ResourceType → String
  | gcsManagedFolder => "GCS_MANAGED_FOLDER"
  | bqTable => "BQ_TABLE"

def ofName? : String → Option ResourceType
  | "GCS_MANAGED_FOLDER" => some gcsManagedFolder
  | "BQ_TABLE" => some bqTable
  | _ => none

/-- Folders come before tables. -/
def rank : ResourceType → Nat
  | gcsManagedFolder => 0
  | bqTable => 1

instance : Ord ResourceType := ⟨fun a b => compare a.rank b.rank⟩

instance : Std.TransOrd ResourceType :=
  inferInstanceAs (Std.TransCmp (compareOn rank))

theorem rank_injective {a b : ResourceType} (h : a.rank = b.rank) : a = b := by
  cases a <;> cases b <;> first | rfl | cases h

instance : Std.LawfulEqOrd ResourceType where
  eq_of_compare h := rank_injective (Std.LawfulEqOrd.eq_of_compare (α := Nat) h)

end ResourceType

/-- A resource on a target. -/
structure ResourceKey where
  type : ResourceType
  path : String
deriving DecidableEq

namespace ResourceKey

instance : Ord ResourceKey := ⟨compareLex (compareOn type) (compareOn path)⟩

instance : Std.TransOrd ResourceKey :=
  inferInstanceAs (Std.TransCmp (compareLex (compareOn type) (compareOn path)))

instance : Std.LawfulEqOrd ResourceKey where
  eq_of_compare {a b} h := by
    obtain ⟨htype, hpath⟩ := compareLex_eq_eq.1 h
    cases a; cases b
    rw [mk.injEq]
    exact ⟨Std.LawfulEqOrd.eq_of_compare htype, Std.LawfulEqOrd.eq_of_compare hpath⟩

end ResourceKey

/-- What one binding grants: the role on the resource to the principal. -/
structure GrantKey where
  type : ResourceType
  path : String
  principal : String
  role : String
deriving DecidableEq

namespace GrantKey

/-- By resource type, path, principal and role. -/
instance : Ord GrantKey :=
  ⟨compareLex (compareOn type)
    (compareLex (compareOn path) (compareLex (compareOn principal) (compareOn role)))⟩

instance : Std.TransOrd GrantKey :=
  inferInstanceAs (Std.TransCmp (compareLex (compareOn type)
    (compareLex (compareOn path) (compareLex (compareOn principal) (compareOn role)))))

instance : Std.LawfulEqOrd GrantKey where
  eq_of_compare {a b} h := by
    obtain ⟨htype, h⟩ := compareLex_eq_eq.1 h
    obtain ⟨hpath, h⟩ := compareLex_eq_eq.1 h
    obtain ⟨hprincipal, hrole⟩ := compareLex_eq_eq.1 h
    cases a; cases b
    rw [mk.injEq]
    exact ⟨Std.LawfulEqOrd.eq_of_compare htype, Std.LawfulEqOrd.eq_of_compare hpath,
      Std.LawfulEqOrd.eq_of_compare hprincipal, Std.LawfulEqOrd.eq_of_compare hrole⟩

end GrantKey

/-- The records of each source system. -/
abbrev Provenance := SortedMap String (List Json)

namespace Provenance

/-- Records of one system after those that are already there. -/
def extend (p : Provenance) (system : String) (records : List Json) : Provenance :=
  p.alter system (fun old => old.getD [] ++ records)

def append (p q : Provenance) : Provenance :=
  q.entries.foldl (fun p e => p.extend e.1 e.2) p

def ofDocument? (d : Document) : Option Provenance :=
  d.asMapOf? (Document.asListOf? Document.toJson?)

def toJson (p : Provenance) : Json := .record (p.map .list)

end Provenance

/-- One role granted to one principal on one resource. -/
structure IamBinding where
  type : ResourceType
  path : String
  principal : String
  role : String
  priority : Int
  permissions : Provenance
  principals : Provenance
deriving Inhabited

namespace IamBinding

def resource (b : IamBinding) : ResourceKey := ⟨b.type, b.path⟩

def grant (b : IamBinding) : GrantKey := ⟨b.type, b.path, b.principal, b.role⟩

/-- With one more record of a source system. -/
def withRecord (b : IamBinding) (system : String) (permission principal : Json) : IamBinding :=
  { b with
    permissions := b.permissions.extend system [permission]
    principals := b.principals.extend system [principal] }

/-- With the records of another binding after its own. -/
def absorb (b other : IamBinding) : IamBinding :=
  { b with
    permissions := b.permissions.append other.permissions
    principals := b.principals.append other.principals }

def ofDocument? (d : Document) : Option IamBinding := do
  match ← d.slots [["resource_type"], ["resource_path"], ["principal"], ["role"], ["priority"],
      ["source_permissions"], ["source_principals"]] with
  | [type, path, principal, role, priority, permissions, principals] =>
    return ⟨← type.required (fun d => d.asCase?.bind ResourceType.ofName?),
      ← path.required Document.asText?, ← principal.required Document.asText?,
      ← role.required Document.asText?, ← priority.required Document.asInt32?,
      ← permissions.withDefault ∅ Provenance.ofDocument?,
      ← principals.withDefault ∅ Provenance.ofDocument?⟩
  | _ => none

/-- Records are written only if there are any. -/
def toJson (b : IamBinding) : Json :=
  let records (name : String) (p : Provenance) : List (String × Json) :=
    if p.isEmpty then [] else [(name, p.toJson)]
  .object ([("resource_type", .text b.type.name), ("resource_path", .text b.path),
    ("principal", .text b.principal), ("role", .text b.role), ("priority", .int b.priority)] ++
    records "source_permissions" b.permissions ++ records "source_principals" b.principals)

end IamBinding

end Regrant
