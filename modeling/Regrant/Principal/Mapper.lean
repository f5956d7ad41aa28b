import Regrant.Model.Hdfs
import Regrant.Model.Principal
import Regrant.Model.Ranger
import Regrant.Rules.Decision
import Regrant.Source

/-!
# Principals from identities

Rules decide for each identity of a source system whether it is skipped or mapped, and to which
type and address.  Whatever they decide, the principal has this identity as its only source.
-/

namespace Regrant

/-- An identity as rules see it. -/
structure IdentityRecord where
  name : String
  /-- The address that the source system knows for it. -/
  email : Option String
  facts : Json

namespace IdentityRecord

def ofUser (u : RangerUser) : IdentityRecord := ⟨u.name, u.email.filter (· ≠ ""), u.toJson.sortKeys⟩

def ofGroup (g : RangerGroup) : IdentityRecord := ⟨g.name, none, g.toJson.sortKeys⟩

def ofRole (r : RangerRole) : IdentityRecord := ⟨r.name, none, r.toJson.sortKeys⟩

def ofHdfs (i : HdfsIdentity) : IdentityRecord := ⟨i.name, none, i.toJson.sortKeys⟩

end IdentityRecord

/-- Maps the identities of one kind in one system. -/
structure IdentityMapper where
  system : String
  kind : String
  defaultType : Option PrincipalType
  rules : RuleSet
  records : Source IdentityRecord

namespace IdentityMapper

/-- Rules may refer to the identity by its kind. -/
def build (system kind : String) (defaultType : Option PrincipalType) (rules : List Rule)
    (records : Source IdentityRecord) : Except Failure IdentityMapper :=
  (RuleSet.compile [kind] rules).map (⟨system, kind, defaultType, ·, records⟩)

/-- The key of the sources of this kind. -/
def key (m : IdentityMapper) : String := m.system ++ "/" ++ m.kind

def name (m : IdentityMapper) : String := m.key ++ " principals"

def reserved (m : IdentityMapper) (r : IdentityRecord) : Fields :=
  .ofList [("sources", .ofFields [(m.key, .texts [r.name])])]

def defaults (m : IdentityMapper) (r : IdentityRecord) : Fields :=
  .ofList ((m.defaultType.map (fun t => ("type", Json.text t.name))).toList ++
    (r.email.map (fun e => ("email_address", Json.text e))).toList)

/-- The address and type that a decided object holds, each of which may be missing. -/
def mappedFields? (object : Fields) : Option (Option String × Option PrincipalType) := do
  match ← (Json.record object).document.slots [["email_address"], ["type"]] with
  | [email, type] =>
    return (← email.optional Document.asText?, ← type.optional PrincipalType.ofDocument?)
  | _ => none

/-- The principal of a decided object. -/
def principal (m : IdentityMapper) (r : IdentityRecord) (object : Fields) :
    Except Failure Principal :=
  match mappedFields? object with
  | none => .error (.evaluation (.invalidPrincipal m.key r.name))
  | some (some email, some type) => .ok (.mapped type email m.key r.name)
  | some _ => .error (.evaluation (.incompletePrincipal m.key r.name))

/-- The principal that the rules make of an identity. -/
def map (m : IdentityMapper) (r : IdentityRecord) : Run Principal := do
  let d ← m.rules.decide (.ofFields [(m.kind, r.facts)]) (m.reserved r) (m.defaults r)
  match d.action with
  | .noMatch => Run.fail (.noRuleMatch m.key)
  | .skip => return .skipped m.key r.name
  | .map => Run.ofExcept (m.principal r d.object)

def mapAll (m : IdentityMapper) : List (Except Failure IdentityRecord) → Run (List Principal)
  | [] => .pure []
  | .error e :: _ => .fail e
  | .ok r :: rs => do
    let p ← m.map r
    return p :: (← mapAll m rs)

def run (m : IdentityMapper) : Run (List Principal) := do
  m.mapAll (← Run.ofExcept m.records)

end IdentityMapper

end Regrant
