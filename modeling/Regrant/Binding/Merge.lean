import Regrant.Inclusions
import Regrant.Model.Binding
import Regrant.Model.Ruleset
import Regrant.Rules.Decision

/-!
# Merging candidate bindings

The mappers propose candidates, and the merge decides between them.  On each resource only the
candidates with the highest priority count.  Those that grant one role to one principal become one
binding with all their records.  A role that another role of the same principal includes is
dropped, unless the two include each other.  What is left is renamed, and bindings that have the
same names then become one as well.
-/

namespace Regrant

/-- A candidate binding with what the rules decided on it. -/
structure Verdict where
  action : Action
  binding : IamBinding

/-- A source of candidates. -/
structure BindingMapper where
  name : String
  run : Run (List Verdict)

/-- What is known of roles. -/
structure RoleBook where
  /-- The closure of what roles include. -/
  inclusions : Inclusions
  renames : SortedMap String (List String)

namespace RoleBook

def ofMappings (m : RoleMappings) : RoleBook where
  inclusions := (Inclusions.ofList (m.entries.map (fun e => (e.1, e.2.includes)))).close
  renames := m.map (·.renameTo)

/-- The first role held that includes `role` and is not included by it. -/
def dominator? (book : RoleBook) (held : List String) (role : String) : Option String :=
  held.find? fun other =>
    other ≠ role && book.inclusions.includes other role && !book.inclusions.includes role other

/-- The roles that are granted in place of `role`. -/
def targets (book : RoleBook) (role : String) : List String :=
  match book.renames.get? role with
  | none => [role]
  | some [] => [role]
  | some targets => targets

end RoleBook

namespace Merge

/-- One binding with the records of all. -/
def absorbAll : List IamBinding → Option IamBinding
  | [] => none
  | b :: rest => some (rest.foldl IamBinding.absorb b)

/-- Bindings by key, those with one key merged. -/
def unite {κ : Type} [Ord κ] [Std.TransOrd κ] (key : IamBinding → κ) (l : List IamBinding) :
    List IamBinding :=
  (groupBy key l).values.filterMap absorbAll

/-- The highest priority of some bindings. -/
def top (l : List IamBinding) : Option Int := (l.map (·.priority)).max?

/-- What becomes of the roles that one principal holds on a resource. -/
def ofPrincipal (book : RoleBook) (roles : List IamBinding) : List Notice × List IamBinding :=
  let held := roles.map (·.role)
  (roles.filterMap (fun b => (book.dominator? held b.role).map
      (fun other => .includedRoleDropped b.path b.principal b.role other)),
    (roles.filter (fun b => (book.dominator? held b.role).isNone)).flatMap
      (fun b => (book.targets b.role).map (fun role => { b with role := role })))

/-- What becomes of the candidates on a resource. -/
def ofResource (book : RoleBook) (candidates : List IamBinding) :
    List Notice × List IamBinding :=
  let highest := (top candidates).getD 0
  let dropped := candidates.filter (fun b => b.priority < highest)
  let kept := candidates.filter (fun b => ¬ b.priority < highest)
  let decided := (groupBy (·.principal) kept).values.map
    (fun l => ofPrincipal book (unite (·.role) l))
  (dropped.map (fun b => .lowerPriorityDropped b.path b.principal b.role b.priority) ++
      decided.flatMap (·.1),
    decided.flatMap (·.2))

/-- The bindings that some candidates amount to, by resource, principal and role. -/
def resolve (book : RoleBook) (candidates : List IamBinding) : List Notice × List IamBinding :=
  let decided := (groupBy IamBinding.resource candidates).values.map (ofResource book)
  (decided.flatMap (·.1), unite IamBinding.grant (decided.flatMap (·.2)))

/-- The candidates that a mapper maps.  A mapper that fails is left out, unless its failure is
fatal. -/
def candidates (m : BindingMapper) : Run (List IamBinding) := do
  match ← m.run.attempt with
  | .ok verdicts => return (verdicts.filter (·.action = .map)).map (·.binding)
  | .error e => if e.fatal then Run.fail e else do
    Run.report .mapperFailed
    return []

def collect : List BindingMapper → Run (List IamBinding)
  | [] => .pure []
  | m :: rest => do
    let l ← candidates m
    let ls ← collect rest
    return l ++ ls

/-- Run all mappers and merge their candidates. -/
def run (mappers : List BindingMapper) (roles : RoleMappings) : Run (List IamBinding) := do
  if mappers.isEmpty then Run.fail (.invalidConfig .noPermissionMappers)
  let (notices, bindings) := resolve (.ofMappings roles) (← collect mappers)
  Run.reportAll notices
  return bindings

end Merge

end Regrant
