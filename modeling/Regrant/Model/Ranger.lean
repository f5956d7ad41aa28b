import Regrant.Failure
import Regrant.Document

/-!
# Services, policies and identities of Ranger

A policy belongs to a service and grants accesses on resources.  Each of its items names users,
groups and roles and what they are allowed to do.
-/

namespace Regrant

/-- The kinds of identities that a policy can name. -/
inductive RangerKind where
  | user
  | group
  | role
deriving DecidableEq, Inhabited

namespace RangerKind

def name : RangerKind → String
  | user => "USER"
  | group => "GROUP"
  | role => "ROLE"

/-- The kind in keys of sources. -/
def key : RangerKind → String
  | user => "user"
  | group => "group"
  | role => "role"

/-- The kind that keys of sources call by this name. -/
def ofKey : String → Except Failure RangerKind
  | "user" => .ok user
  | "group" => .ok group
  | "role" => .ok role
  | kind => .error (.invalidConfig (.unknownPrincipalKind "Ranger" ("ranger/" ++ kind)))

end RangerKind

/-- A user, group or role as a policy names it. -/
structure RangerIdentity where
  type : RangerKind
  name : String
deriving DecidableEq, Inhabited

namespace RangerIdentity

def toJson (i : RangerIdentity) : Json :=
  .object [("type", .text i.type.name), ("name", .text i.name)]

end RangerIdentity

/-! ### Services -/

structure RangerService where
  id : Option Int
  name : String
  type : String
  displayName : Option String
  description : Option String
  enabled : Bool
deriving Inhabited

namespace RangerService

def ofDocument? (d : Document) : Option RangerService := do
  match ← d.slots [["id"], ["name"], ["type"], ["displayName"], ["description"], ["isEnabled"]] with
  | [id, name, type, displayName, description, enabled] =>
    return ⟨← id.optional Document.asInt64?, ← name.required Document.asText?,
      ← type.required Document.asText?, ← displayName.optional Document.asText?,
      ← description.optional Document.asText?, ← enabled.withDefault true Document.asBool?⟩
  | _ => none

def toJson (s : RangerService) : Json :=
  .object [("id", .ofOption .int s.id), ("name", .text s.name), ("type", .text s.type),
    ("displayName", .ofOption .text s.displayName),
    ("description", .ofOption .text s.description), ("isEnabled", .bool s.enabled)]

end RangerService

/-! ### Policies -/

/-- The names that a policy grants on for one kind of resource. -/
structure PolicyResource where
  values : List String
  excludes : Bool
  recursive : Bool
deriving Inhabited, DecidableEq

namespace PolicyResource

def ofDocument? (d : Document) : Option PolicyResource := do
  match ← d.slots [["values"], ["isExcludes"], ["isRecursive"]] with
  | [values, excludes, recursive] =>
    return ⟨← values.listOrNull Document.asText?, ← excludes.withDefault false Document.asBool?,
      ← recursive.withDefault false Document.asBool?⟩
  | _ => none

def toJson (r : PolicyResource) : Json :=
  .object [("values", .texts r.values), ("isExcludes", .bool r.excludes),
    ("isRecursive", .bool r.recursive)]

end PolicyResource

structure PolicyAccess where
  type : String
  allowed : Bool
deriving Inhabited, DecidableEq

namespace PolicyAccess

def ofDocument? (d : Document) : Option PolicyAccess := do
  match ← d.slots [["type"], ["isAllowed"]] with
  | [type, allowed] =>
    return ⟨← type.required Document.asText?, ← allowed.withDefault true Document.asBool?⟩
  | _ => none

def toJson (a : PolicyAccess) : Json :=
  .object [("type", .text a.type), ("isAllowed", .bool a.allowed)]

end PolicyAccess

structure PolicyItem where
  accesses : List PolicyAccess
  users : List String
  groups : List String
  roles : List String
  conditions : List Json
  delegateAdmin : Bool
deriving Inhabited

namespace PolicyItem

/-- All whom the item grants to: users, then groups, then roles. -/
def identities (i : PolicyItem) : List RangerIdentity :=
  i.users.map (⟨.user, ·⟩) ++ i.groups.map (⟨.group, ·⟩) ++ i.roles.map (⟨.role, ·⟩)

/-- The accesses that the item allows. -/
def allowed (i : PolicyItem) : List String := (i.accesses.filter (·.allowed)).map (·.type)

def ofDocument? (d : Document) : Option PolicyItem := do
  match ← d.slots [["accesses"], ["users"], ["groups"], ["roles"], ["conditions"],
      ["delegateAdmin"]] with
  | [accesses, users, groups, roles, conditions, delegateAdmin] =>
    return ⟨← accesses.listOrNull PolicyAccess.ofDocument?, ← users.listOrNull Document.asText?,
      ← groups.listOrNull Document.asText?, ← roles.listOrNull Document.asText?,
      ← conditions.listOrNull Document.toJson?, ← delegateAdmin.withDefault false Document.asBool?⟩
  | _ => none

def toJson (i : PolicyItem) : Json :=
  .object [("accesses", .list (i.accesses.map PolicyAccess.toJson)), ("users", .texts i.users),
    ("groups", .texts i.groups), ("roles", .texts i.roles), ("conditions", .list i.conditions),
    ("delegateAdmin", .bool i.delegateAdmin)]

end PolicyItem

structure Policy where
  id : Option Int
  name : String
  service : String
  serviceType : Option String
  /-- Zero grants accesses; others mask data or filter rows. -/
  type : Option Int
  priority : Option Int
  enabled : Bool
  description : Option String
  resources : Option (SortedMap String PolicyResource)
  items : List PolicyItem
  denyItems : List PolicyItem
  allowExceptions : List PolicyItem
  denyExceptions : List PolicyItem
  dataMaskItems : List Json
  rowFilterItems : List Json
deriving Inhabited

namespace Policy

def resource? (p : Policy) (name : String) : Option PolicyResource :=
  p.resources.bind (·.get? name)

/-- The features of the policy that bindings cannot express. -/
def unsupported (p : Policy) : List String :=
  [("allowExceptions", !p.allowExceptions.isEmpty), ("denyPolicyItems", !p.denyItems.isEmpty),
    ("denyExceptions", !p.denyExceptions.isEmpty),
    ("rowFilterPolicyItems", !p.rowFilterItems.isEmpty),
    ("dataMaskPolicyItems", !p.dataMaskItems.isEmpty),
    ("resource isExcludes", p.resources.any (fun r => r.values.any (·.excludes)))].filterMap
    (fun (name, used) => if used then some name else none)

def fieldNames : List (List String) :=
  [["id"], ["name"], ["service"], ["serviceType"], ["policyType"], ["policyPriority"],
    ["isEnabled"], ["description"], ["resources"], ["policyItems"], ["denyPolicyItems"],
    ["allowExceptions"], ["denyExceptions"], ["dataMaskPolicyItems"], ["rowFilterPolicyItems"]]

def ofDocument? (d : Document) : Option Policy := do
  match ← d.slots fieldNames with
  | [id, name, service, serviceType, type, priority, enabled, description, resources, items,
      denyItems, allowExceptions, denyExceptions, dataMaskItems, rowFilterItems] =>
    return ⟨← id.optional Document.asInt64?, ← name.required Document.asText?,
      ← service.required Document.asText?, ← serviceType.optional Document.asText?,
      ← type.optional Document.asInt32?, ← priority.optional Document.asInt32?,
      ← enabled.withDefault true Document.asBool?, ← description.optional Document.asText?,
      ← resources.optional (Document.asMapOf? PolicyResource.ofDocument?),
      ← items.listOrNull PolicyItem.ofDocument?, ← denyItems.listOrNull PolicyItem.ofDocument?,
      ← allowExceptions.listOrNull PolicyItem.ofDocument?,
      ← denyExceptions.listOrNull PolicyItem.ofDocument?,
      ← dataMaskItems.listOrNull Document.toJson?, ← rowFilterItems.listOrNull Document.toJson?⟩
  | _ => none

def toJson (p : Policy) : Json :=
  let items (l : List PolicyItem) : Json := .list (l.map PolicyItem.toJson)
  .object [("id", .ofOption .int p.id), ("name", .text p.name), ("service", .text p.service),
    ("serviceType", .ofOption .text p.serviceType), ("policyType", .ofOption .int p.type),
    ("policyPriority", .ofOption .int p.priority), ("isEnabled", .bool p.enabled),
    ("description", .ofOption .text p.description),
    ("resources", .ofOption (fun r => .record (r.map PolicyResource.toJson)) p.resources),
    ("policyItems", items p.items), ("denyPolicyItems", items p.denyItems),
    ("allowExceptions", items p.allowExceptions), ("denyExceptions", items p.denyExceptions),
    ("dataMaskPolicyItems", .list p.dataMaskItems),
    ("rowFilterPolicyItems", .list p.rowFilterItems)]

end Policy

/-! ### Users, groups and roles -/

structure RangerUser where
  id : Option Int
  name : String
  firstName : Option String
  lastName : Option String
  email : Option String
  description : Option String
  groupNames : List String
  roles : List String
  status : Option Int
  visible : Option Int
  syncSource : Option String
deriving Inhabited

namespace RangerUser

def ofDocument? (d : Document) : Option RangerUser := do
  match ← d.slots [["id"], ["name"], ["firstName"], ["lastName"], ["emailAddress"],
      ["description"], ["groupNameList"], ["userRoleList"], ["status"], ["isVisible"],
      ["syncSource"]] with
  | [id, name, firstName, lastName, email, description, groupNames, roles, status, visible,
      syncSource] =>
    return ⟨← id.optional Document.asInt64?, ← name.required Document.asText?,
      ← firstName.optional Document.asText?, ← lastName.optional Document.asText?,
      ← email.optional Document.asText?, ← description.optional Document.asText?,
      ← groupNames.listOrNull Document.asText?, ← roles.listOrNull Document.asText?,
      ← status.optional Document.asInt32?, ← visible.optional Document.asInt32?,
      ← syncSource.optional Document.asText?⟩
  | _ => none

def toJson (u : RangerUser) : Json :=
  .object [("id", .ofOption .int u.id), ("name", .text u.name),
    ("firstName", .ofOption .text u.firstName), ("lastName", .ofOption .text u.lastName),
    ("emailAddress", .ofOption .text u.email), ("description", .ofOption .text u.description),
    ("groupNameList", .texts u.groupNames), ("userRoleList", .texts u.roles),
    ("status", .ofOption .int u.status), ("isVisible", .ofOption .int u.visible),
    ("syncSource", .ofOption .text u.syncSource)]

end RangerUser

structure RangerGroup where
  id : Option Int
  name : String
  description : Option String
  type : Option Int
  source : Option Int
  visible : Option Int
  syncSource : Option String
deriving Inhabited

namespace RangerGroup

def ofDocument? (d : Document) : Option RangerGroup := do
  match ← d.slots [["id"], ["name"], ["description"], ["groupType"], ["groupSource"],
      ["isVisible"], ["syncSource"]] with
  | [id, name, description, type, source, visible, syncSource] =>
    return ⟨← id.optional Document.asInt64?, ← name.required Document.asText?,
      ← description.optional Document.asText?, ← type.optional Document.asInt32?,
      ← source.optional Document.asInt32?, ← visible.optional Document.asInt32?,
      ← syncSource.optional Document.asText?⟩
  | _ => none

def toJson (g : RangerGroup) : Json :=
  .object [("id", .ofOption .int g.id), ("name", .text g.name),
    ("description", .ofOption .text g.description), ("groupType", .ofOption .int g.type),
    ("groupSource", .ofOption .int g.source), ("isVisible", .ofOption .int g.visible),
    ("syncSource", .ofOption .text g.syncSource)]

end RangerGroup

structure RoleMember where
  name : String
  admin : Bool
deriving Inhabited

namespace RoleMember

def ofDocument? (d : Document) : Option RoleMember := do
  match ← d.slots [["name"], ["isAdmin"]] with
  | [name, admin] =>
    return ⟨← name.required Document.asText?, ← admin.withDefault false Document.asBool?⟩
  | _ => none

def toJson (m : RoleMember) : Json := .object [("name", .text m.name), ("isAdmin", .bool m.admin)]

end RoleMember

structure RangerRole where
  id : Option Int
  name : String
  description : Option String
  enabled : Bool
  users : List RoleMember
  groups : List RoleMember
  roles : List RoleMember
deriving Inhabited

namespace RangerRole

def ofDocument? (d : Document) : Option RangerRole := do
  match ← d.slots [["id"], ["name"], ["description"], ["isEnabled"], ["users"], ["groups"],
      ["roles"]] with
  | [id, name, description, enabled, users, groups, roles] =>
    return ⟨← id.optional Document.asInt64?, ← name.required Document.asText?,
      ← description.optional Document.asText?, ← enabled.withDefault true Document.asBool?,
      ← users.listOrNull RoleMember.ofDocument?, ← groups.listOrNull RoleMember.ofDocument?,
      ← roles.listOrNull RoleMember.ofDocument?⟩
  | _ => none

def toJson (r : RangerRole) : Json :=
  let members (l : List RoleMember) : Json := .list (l.map RoleMember.toJson)
  .object [("id", .ofOption .int r.id), ("name", .text r.name),
    ("description", .ofOption .text r.description), ("isEnabled", .bool r.enabled),
    ("users", members r.users), ("groups", members r.groups), ("roles", members r.roles)]

end RangerRole

end Regrant
