import Regrant.Model.Ruleset

/-!
# Principals

A principal is an identity on the target together with the identities of the source systems that
resolve to it.  Those are listed under keys such as `ranger/group`.
-/

namespace Regrant

/-- The kind of an identity on the target. -/
inductive PrincipalType where
  | user
  | group
  | serviceAccount
  | domain
deriving DecidableEq, Inhabited

namespace PrincipalType

def name : PrincipalType → String
  | user => "user"
  | group => "group"
  | serviceAccount => "serviceAccount"
  | domain => "domain"

def ofName? : String → Option PrincipalType
  | "user" => some user
  | "group" => some group
  | "serviceAccount" => some serviceAccount
  | "domain" => some domain
  | _ => none

theorem ofName?_name (t : PrincipalType) : ofName? t.name = some t := by cases t <;> rfl

def ofDocument? (d : Document) : Option PrincipalType := d.asCase?.bind ofName?

end PrincipalType

/-- The names of source identities under keys such as `hdfs/user`. -/
abbrev Sources := SortedMap String (List String)

structure Principal where
  /-- Nothing is granted to the sources of a skipped principal. -/
  skip : Bool
  email : Option String
  type : Option PrincipalType
  sources : Sources
deriving Inhabited

namespace Principal

/-- The name under which a policy of the target knows the principal. -/
def identity? (p : Principal) : Option String := do
  let t ← p.type
  let e ← p.email
  return t.name ++ ":" ++ e

def source (key name : String) : Sources := (∅ : Sources).insert key [name]

/-- The principal with one source that is mapped to an identity. -/
def mapped (type : PrincipalType) (email key name : String) : Principal :=
  ⟨false, some email, some type, source key name⟩

/-- The principal with one source that is skipped. -/
def skipped (key name : String) : Principal := ⟨true, none, none, source key name⟩

def ofDocument? (d : Document) : Option Principal := do
  match ← d.slots [["action"], ["email_address"], ["type"], ["sources"]] with
  | [action, email, type, sources] =>
    let skip ← action.required (fun d => match d.asCase? with
      | some "map" => some false
      | some "skip" => some true
      | _ => none)
    return ⟨skip, ← email.optional Document.asText?, ← type.optional PrincipalType.ofDocument?,
      ← sources.withDefault ∅ (Document.asMapOf? Document.asOneOrMany?)⟩
  | _ => none

def toJson (p : Principal) : Json :=
  .object [("action", .text (if p.skip then "skip" else "map")),
    ("email_address", .ofOption .text p.email),
    ("type", .ofOption (fun t => .text t.name) p.type),
    ("sources", .record (p.sources.map .texts))]

/-- A document that lists principals. -/
def listOfDocument? (d : Document) : Option (List Principal) := do
  match ← d.slots [["principals"]] with
  | [principals] => principals.required (Document.asListOf? ofDocument?)
  | _ => none

end Principal

/-- A key of sources: the system and the kind of the identities. -/
structure SourceKey where
  system : String
  kind : String
deriving DecidableEq

namespace SourceKey

/-- The first slash separates system and kind, neither of which is empty. -/
def ofText? (key : String) : Option SourceKey :=
  let system := key.toList.takeWhile (· ≠ '/')
  match key.toList.dropWhile (· ≠ '/') with
  | '/' :: kind =>
    if system.isEmpty || kind.isEmpty then none
    else some ⟨String.ofList system, String.ofList kind⟩
  | _ => none

end SourceKey

end Regrant
