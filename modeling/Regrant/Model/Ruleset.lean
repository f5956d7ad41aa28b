import Regrant.Document
import Regrant.Text

/-!
# Rulesets

A rule says when it applies and what becomes of the item then: it is skipped, or it is mapped and
some of its fields are computed.  The permissions ruleset holds the rules for bindings and what is
to become of roles, and the principal ruleset the rules for identities.
-/

namespace Regrant

/-- A field that a rule gives: as an expression or as a constant. -/
structure MapField where
  expression : Option String
  value : Option Json
deriving Inhabited

structure Rule where
  condition : String
  log : String
  skip : Bool
  /-- The fields that the rule gives; a rule may have no map at all. -/
  map : Option (SortedMap String MapField)
deriving Inhabited

namespace MapField

def ofDocument? (d : Document) : Option MapField := do
  match ← d.slots [["expression"], ["value"]] with
  | [expression, value] =>
    return ⟨← expression.optional Document.asText?, ← value.optional Document.toJson?⟩
  | _ => none

/-- The fields that are absent are left out. -/
def toJson (f : MapField) : Json :=
  .object ((f.expression.map (fun e => ("expression", Json.text e))).toList ++
    (f.value.map (fun v => ("value", v))).toList)

end MapField

/-- A truth value, or text that spells one. -/
def Document.asSpelledBool? (d : Document) : Option Bool :=
  match d.resolve with
  | .bool b => some b
  | .text s => match (Text.trim s).toLower with
    | "true" => some true
    | "false" => some false
    | "" => some false
    | _ => none
  | _ => none

/-- One text, or a list of them. -/
def Document.asOneOrMany? (d : Document) : Option (List String) :=
  match d.resolve with
  | .text s => some [s]
  | .list items => items.mapM Document.asExactText?
  | .sequence items => items.mapM Document.asExactText?
  | _ => none

namespace Rule

def ofDocument? (d : Document) : Option Rule := do
  match ← d.slots [["when"], ["log"], ["skip"], ["map"]] with
  | [condition, log, skip, map] =>
    return ⟨← condition.withDefault "true" Document.asText?,
      ← log.withDefault "false" Document.asText?,
      ← skip.withDefault false Document.asSpelledBool?,
      ← map.optional (Document.asMapOf? MapField.ofDocument?)⟩
  | _ => none

def toJson (r : Rule) : Json :=
  .object [("when", .text r.condition), ("log", .text r.log), ("skip", .bool r.skip),
    ("map", .ofOption (fun m => .record (m.map MapField.toJson)) r.map)]

def listOfDocument? (d : Document) : Option (List Rule) := d.asListOf? ofDocument?

end Rule

/-- The rule lists of some mappers; a mapper without a list does not run. -/
abbrev RuleList := Option (List Rule)

namespace RuleList

def toJson (l : RuleList) : Json := .ofOption (fun rules => .list (rules.map Rule.toJson)) l

end RuleList

/-- The rules for all bindings on one target. -/
structure TargetRuleset where
  hdfs : RuleList
  rangerHive : RuleList
  rangerHdfs : RuleList
deriving Inhabited

namespace TargetRuleset

def ofDocument? (d : Document) : Option TargetRuleset := do
  match ← d.slots [["hdfs_rules"], ["ranger_hive_rules"], ["ranger_hdfs_rules"]] with
  | [hdfs, hive, rangerHdfs] =>
    return ⟨← hdfs.optional Rule.listOfDocument?, ← hive.optional Rule.listOfDocument?,
      ← rangerHdfs.optional Rule.listOfDocument?⟩
  | _ => none

def toJson (t : TargetRuleset) : Json :=
  .object [("hdfs_rules", t.hdfs.toJson), ("ranger_hive_rules", t.rangerHive.toJson),
    ("ranger_hdfs_rules", t.rangerHdfs.toJson)]

end TargetRuleset

/-- What becomes of a role. -/
structure RoleMapping where
  /-- The roles that take its place; it stays if there are none. -/
  renameTo : List String
  /-- The roles that it grants besides itself. -/
  includes : List String
deriving Inhabited

namespace RoleMapping

def ofDocument? (d : Document) : Option RoleMapping := do
  match ← d.slots [["rename_to"], ["includes"]] with
  | [renameTo, includes] =>
    return ⟨← renameTo.withDefault [] Document.asOneOrMany?,
      ← includes.withDefault [] (Document.asListOf? Document.asText?)⟩
  | _ => none

def toJson (m : RoleMapping) : Json :=
  .object [("rename_to", .texts m.renameTo), ("includes", .texts m.includes)]

end RoleMapping

abbrev RoleMappings := SortedMap String RoleMapping

def RoleMappings.ofDocument? (d : Document) : Option RoleMappings :=
  d.asMapOf? RoleMapping.ofDocument?

structure PermissionsRuleset where
  gcs : Option TargetRuleset
  bq : Option TargetRuleset
  roles : RoleMappings
deriving Inhabited

namespace PermissionsRuleset

def ofDocument? (d : Document) : Option PermissionsRuleset := do
  match ← d.slots [["gcs"], ["bq"], ["roles"]] with
  | [gcs, bq, roles] =>
    return ⟨← gcs.optional TargetRuleset.ofDocument?, ← bq.optional TargetRuleset.ofDocument?,
      ← roles.withDefault ∅ RoleMappings.ofDocument?⟩
  | _ => none

def toJson (r : PermissionsRuleset) : Json :=
  .object [("gcs", .ofOption TargetRuleset.toJson r.gcs),
    ("bq", .ofOption TargetRuleset.toJson r.bq),
    ("roles", .record (r.roles.map RoleMapping.toJson))]

end PermissionsRuleset

/-- The rules for the three kinds of identities of one system. -/
structure IdentityRules where
  user : RuleList
  group : RuleList
  /-- The other class of HDFS, or the roles of Ranger. -/
  third : RuleList
deriving Inhabited

namespace IdentityRules

def ofDocument? (third : String) (d : Document) : Option IdentityRules := do
  match ← d.slots [["user_rules"], ["group_rules"], [third]] with
  | [user, group, third] =>
    return ⟨← user.optional Rule.listOfDocument?, ← group.optional Rule.listOfDocument?,
      ← third.optional Rule.listOfDocument?⟩
  | _ => none

def toJson (third : String) (r : IdentityRules) : Json :=
  .object [("user_rules", r.user.toJson), ("group_rules", r.group.toJson),
    (third, r.third.toJson)]

end IdentityRules

structure PrincipalRuleset where
  hdfs : Option IdentityRules
  ranger : Option IdentityRules
deriving Inhabited

namespace PrincipalRuleset

def ofDocument? (d : Document) : Option PrincipalRuleset := do
  match ← d.slots [["hdfs"], ["ranger"]] with
  | [hdfs, ranger] =>
    return ⟨← hdfs.optional (IdentityRules.ofDocument? "other_rules"),
      ← ranger.optional (IdentityRules.ofDocument? "role_rules")⟩
  | _ => none

def toJson (r : PrincipalRuleset) : Json :=
  .object [("hdfs", .ofOption (IdentityRules.toJson "other_rules") r.hdfs),
    ("ranger", .ofOption (IdentityRules.toJson "role_rules") r.ranger)]

end PrincipalRuleset

end Regrant
