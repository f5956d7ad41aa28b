import Regrant.Binding.Candidate
import Regrant.Model.Ranger
import Regrant.Model.Target
import Regrant.PathPattern
import Regrant.Principal.Index

/-!
# Bindings from Ranger policies

The policies of one type of service are crossed with the tables.  Where a policy covers a table,
each of its items grants the table to the principals to which the identities of the item resolve.
An identity that resolves to none is an error of the configuration.
-/

namespace Regrant

/-- The types of services whose policies are known. -/
inductive RangerPlugin where
  | hive
  | hdfs
deriving DecidableEq, Inhabited

/-- What a policy covers. -/
inductive Coverage where
  | nothing
  | names (databases tables : List String)
  | paths (patterns : List PathPattern)

namespace Coverage

/-- A name is granted on if it is listed, or if `*` is. -/
def listed (values : List String) (name : String) : Bool :=
  values.any (fun v => v = "*" || v = name)

/-- The policy covers a table whose files lie under a path. -/
def covers (t : Table) (fsPath : String) : Coverage → Bool
  | nothing => false
  | names databases tables => listed databases t.schema && listed tables t.name
  | paths patterns => patterns.any (·.matchesPath fsPath)

end Coverage

namespace RangerPlugin

def label : RangerPlugin → String
  | hive => "Hive"
  | hdfs => "HDFS"

def serviceType : RangerPlugin → String
  | hive => "hive"
  | hdfs => "hdfs"

/-- The accesses that amount to writing. -/
def writing : RangerPlugin → List String
  | hive => ["update", "create", "drop", "alter", "index", "lock", "all", "write", "refresh"]
  | hdfs => ["write"]

/-- The accesses that amount to reading. -/
def reading : RangerPlugin → List String
  | hive => ["select", "read"]
  | hdfs => ["read"]

/-- What an item allows; writing wins over reading. -/
def access? (g : RangerPlugin) (i : PolicyItem) : Option Access :=
  if g.writing.any (i.allowed.contains ·) then some .write
  else if g.reading.any (i.allowed.contains ·) then some .read
  else none

/-- The tables that a policy grants on: all, unless it lists some. -/
def tableNames (p : Policy) : List String :=
  match p.resource? "table" with
  | some tables => tables.values
  | none => ["*"]

/-- What a policy covers, and what there is to report about that. -/
def coverage (g : RangerPlugin) (p : Policy) : Run Coverage :=
  match g with
  | hive =>
    if p.serviceType ≠ some "hive" then do
      Run.report (.notHivePolicy p.name)
      return .nothing
    else if p.type ≠ some 0 then return .nothing
    else match p.resource? "database" with
      | none => return .nothing
      | some databases => return .names databases.values (tableNames p)
  | hdfs => match p.resource? "path" with
    | none => do
      Run.report (.noPathResource p.name)
      return .nothing
    | some path => return .paths (path.values.map (PathPattern.ofText · path.recursive))

/-- What some policies cover, in their order. -/
def coverages (g : RangerPlugin) : List Policy → Run (List Coverage)
  | [] => .pure []
  | p :: ps => do
    let c ← g.coverage p
    return c :: (← g.coverages ps)

end RangerPlugin

/-- A policy with its number among the policies of a mapper, and with what it covers. -/
structure NumberedPolicy where
  index : Nat
  policy : Policy
  coverage : Coverage

structure RangerMapper where
  plugin : RangerPlugin
  target : Target
  roles : TargetRoles
  judge : Judge
  tables : Source Table
  principals : PrincipalIndex
  policies : List NumberedPolicy

namespace RangerMapper

def system : String := "ranger"

def priority : Int := 0

def name (m : RangerMapper) : String :=
  "Ranger " ++ m.plugin.label ++ " to " ++ m.target.label

/-! ### Building -/

/-- The index of the principals that Ranger identities resolve to. -/
def index (principals : Source Principal) : Run PrincipalIndex :=
  PrincipalIndex.build system (fun kind => (RangerKind.ofKey kind).map (fun _ => ())) principals

/-- Number policies and say what each covers. -/
def number (policies : List Policy) (coverages : List Coverage) : List NumberedPolicy :=
  ((policies.zip coverages).zipIdx).map (fun ((p, c), i) => ⟨i, p, c⟩)

/-- The enabled policies of some services. -/
def kept (services : List String) (policies : List Policy) : List Policy :=
  policies.filter (fun p => services.contains p.service && p.enabled)

def build (plugin : RangerPlugin) (target : Target) (roles : TargetRoles) (rules : List Rule)
    (tables : Source Table) (principals : Source Principal) (services : Source RangerService)
    (policies : Source Policy) : Run RangerMapper := do
  let judge ← Run.ofExcept (Judge.ofRules system rules)
  let index ← index principals
  let services ← Run.ofExcept services.all
  let names := (services.filter (·.type = plugin.serviceType)).map (·.name)
  let policies := kept names (← Run.ofExcept policies.all)
  let coverages ← plugin.coverages policies
  return ⟨plugin, target, roles, judge, tables, index, number policies coverages⟩

/-! ### Running -/

/-- A table with its paths at both ends. -/
structure Site where
  table : Table
  fsPath : String
  path : String

/-- Where a table is to be found, if it was migrated to the target. -/
def site (m : RangerMapper) (t : Table) : Except Failure (Option Site) :=
  match m.target.path? t with
  | none => .ok none
  | some path => t.fsPath.map (fun fsPath => some ⟨t, fsPath, path⟩)

/-- The candidate that an identity of a policy item amounts to on a table. -/
def correlate (m : RangerMapper) (s : Site) (p : Policy) (item : PolicyItem)
    (identity : RangerIdentity) : Run (Option Candidate) :=
  match m.principals.get? ⟨identity.type.key, identity.name⟩ with
  | none => .fail (.danglingPrincipal m.plugin.label p.name identity.type.key identity.name)
  | some principal =>
    if principal.skip then do
      Run.report (.principalSkipped (some p.name))
      return none
    else match m.plugin.access? item with
      | none => do
        Run.report (.noRoleForAccesses p.name)
        return none
      | some access => match principal.identity? with
        | none => do
          Run.report (.principalIncomplete (some p.name))
          return none
        | some grantee => return some (Candidate.of system s.table principal identity.toJson p.toJson
            ⟨m.target.resourceType, s.path, grantee, m.roles.role access, priority, ∅, ∅⟩)

/-- The verdicts on the identities of an item. -/
def runIdentities (m : RangerMapper) (s : Site) (p : Policy) (item : PolicyItem) :
    List RangerIdentity → Run (List Verdict)
  | [] => .pure []
  | i :: is => do
    match ← m.correlate s p item i with
    | none => runIdentities m s p item is
    | some candidate => do
      let v ← m.judge.judge candidate
      return v :: (← runIdentities m s p item is)

def runItems (m : RangerMapper) (s : Site) (p : Policy) : List PolicyItem → Run (List Verdict)
  | [] => .pure []
  | i :: is => do
    let vs ← m.runIdentities s p i i.identities
    return vs ++ (← runItems m s p is)

/-- The verdicts of some policies on a table.  The features of a policy that cannot be expressed are
reported when it first covers a table; `seen` holds the numbers of those that have. -/
def runPolicies (m : RangerMapper) (s : Site) (seen : List Nat) :
    List NumberedPolicy → Run (List Verdict × List Nat)
  | [] => .pure ([], seen)
  | p :: ps =>
    if p.coverage.covers s.table s.fsPath then do
      if !seen.contains p.index then
        Run.reportAll (p.policy.unsupported.map (.unsupportedFeature p.policy.name))
      let vs ← m.runItems s p.policy p.policy.items
      let (rest, seen) ← runPolicies m s (p.index :: seen) ps
      return (vs ++ rest, seen)
    else runPolicies m s seen ps

def runTables (m : RangerMapper) (seen : List Nat) :
    List (Except Failure Table) → Run (List Verdict)
  | [] => .pure []
  | .error e :: _ => .fail e
  | .ok t :: ts => do
    match ← Run.ofExcept (m.site t) with
    | none => runTables m seen ts
    | some s => do
      let (vs, seen) ← m.runPolicies s seen m.policies
      return vs ++ (← runTables m seen ts)

def run (m : RangerMapper) : Run (List Verdict) := do
  m.runTables [] (← Run.ofExcept m.tables)

end RangerMapper

end Regrant
