import Regrant.Binding.Merge
import Regrant.Model.Principal
import Regrant.Model.Table

/-!
# Candidates and the rules that judge them

A candidate is a binding that a mapper proposes, with the facts that rules see.  Rules decide
whether it is mapped or skipped.  They may give its fields other values, but such values are only
reported: the binding stays as it was proposed.
-/

namespace Regrant

structure Candidate where
  facts : Json
  binding : IamBinding

namespace Candidate

/-- The candidate that stems from a permission of a principal in a source system.  Rules see the
binding without the records of this permission. -/
def of (system : String) (table : Table) (principal : Principal) (identity permission : Json)
    (binding : IamBinding) : Candidate :=
  let identity := identity.sortKeys
  let permission := permission.sortKeys
  ⟨.ofFields [("table", table.toJson.sortKeys), ("principal", principal.toJson.sortKeys),
      ("source_principal", identity), ("permission", binding.toJson.sortKeys)],
    binding.withRecord system permission identity⟩

/-- The records of the binding, which rules cannot change. -/
def reserved (c : Candidate) : Fields :=
  .ofList [("source_permissions", c.binding.permissions.toJson),
    ("source_principals", c.binding.principals.toJson)]

/-- The fields of the binding, which rules may give. -/
def defaults (c : Candidate) : Fields :=
  .ofList [("priority", .int c.binding.priority), ("principal", .text c.binding.principal),
    ("role", .text c.binding.role), ("resource_type", .text c.binding.type.name),
    ("resource_path", .text c.binding.path)]

/-- The fields to which a decided object gives another value. -/
def overrides (c : Candidate) (object : Fields) : List String :=
  (c.defaults.entries.filter (fun e => match object.get? e.1 with
    | some value => !value.same e.2
    | none => false)).map (·.1)

end Candidate

/-- The variables that rules for bindings may refer to. -/
def bindingVariables : List String := ["table", "principal", "source_principal", "permission"]

/-- The rules of a mapper and the system whose candidates they judge. -/
structure Judge where
  system : String
  rules : RuleSet

namespace Judge

def ofRules (system : String) (rules : List Rule) : Except Failure Judge :=
  (RuleSet.compile bindingVariables rules).map (⟨system, ·⟩)

/-- The verdict of the rules on a candidate, one of which has to apply. -/
def judge (j : Judge) (c : Candidate) : Run Verdict := do
  let d ← j.rules.decide c.facts c.reserved c.defaults
  if d.action = .noMatch then Run.fail (.noRuleMatch j.system)
  Run.reportAll ((c.overrides d.object).map .overrideIgnored)
  return ⟨d.action, c.binding⟩

end Judge

end Regrant
