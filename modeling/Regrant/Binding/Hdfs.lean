import Regrant.Binding.Candidate
import Regrant.Join
import Regrant.Model.Hdfs
import Regrant.Model.Target
import Regrant.Principal.Index

/-!
# Bindings from HDFS permissions

The dump of permissions is joined with the tables by path.  Each class of a mode that may read or
write grants the table to the principal to which the identity of that class resolves.
-/

namespace Regrant

structure HdfsMapper where
  target : Target
  roles : TargetRoles
  judge : Judge
  tables : Source Table
  permissions : Source HdfsPermission
  principals : PrincipalIndex

namespace HdfsMapper

def system : String := "hdfs"

def priority : Int := 10

def name (m : HdfsMapper) : String := "HDFS to " ++ m.target.label

/-- The index of the principals that HDFS identities resolve to. -/
def index (principals : Source Principal) : Run PrincipalIndex :=
  PrincipalIndex.build system (fun kind => (HdfsClass.ofKind kind).map (fun _ => ())) principals

def build (target : Target) (roles : TargetRoles) (rules : List Rule) (tables : Source Table)
    (permissions : Source HdfsPermission) (principals : Source Principal) : Run HdfsMapper := do
  let judge ← Run.ofExcept (Judge.ofRules system rules)
  return ⟨target, roles, judge, tables, permissions, ← index principals⟩

/-- Writing if the class may write, reading if it may only read.  The three bits are bytes, so a
wide character may take the place of two. -/
def access? (bits : String) : Option Access :=
  match bits.toList with
  | r :: w :: _ =>
    if w = 'w' ∧ r.utf8Size = 1 then some .write else if r = 'r' then some .read else none
  | _ => none

/-- The principal that an identity resolves to. -/
def principal? (m : HdfsMapper) (i : HdfsIdentity) : Option Principal :=
  m.principals.get? ⟨match i.type with
    | .user => "user"
    | .group => "group"
    | .other => "other", i.name⟩

/-- The candidate that a class of a permission amounts to. -/
def correlate (m : HdfsMapper) (t : Table) (p : HdfsPermission) (c : HdfsClass) :
    Run (Option Candidate) :=
  match (p.bits? c).bind access?, m.target.path? t with
  | some access, some path =>
    let identity := p.identity c
    match m.principal? identity with
    | none => do
      Run.report (.identityUnmapped p.path)
      return none
    | some principal =>
      if principal.skip then do
        Run.report (.principalSkipped none)
        return none
      else match principal.identity? with
        | none => do
          Run.report (.principalIncomplete none)
          return none
        | some grantee => return some (Candidate.of system t principal identity.toJson p.toJson
            ⟨m.target.resourceType, path, grantee, m.roles.role access, priority, ∅, ∅⟩)
  | _, _ => return none

/-- The verdicts on the classes of a permission. -/
def runClasses (m : HdfsMapper) (t : Table) (p : HdfsPermission) : List HdfsClass → Run (List Verdict)
  | [] => .pure []
  | c :: cs => do
    match ← m.correlate t p c with
    | none => runClasses m t p cs
    | some candidate => do
      let v ← m.judge.judge candidate
      return v :: (← runClasses m t p cs)

/-- A mode has nine bytes at least. -/
def hasFullMode (p : HdfsPermission) : Bool := 9 ≤ p.mode.utf8ByteSize

def runPairs (m : HdfsMapper) : List ((String × Table) × HdfsPermission) → Run (List Verdict)
  | [] => .pure []
  | ((_, t), p) :: rest => do
    if hasFullMode p then
      let vs ← m.runClasses t p HdfsClass.all
      return vs ++ (← runPairs m rest)
    else
      Run.report (.malformedMode p.path)
      runPairs m rest

/-- The tables with their paths, in the order of the paths. -/
def sortedTables (m : HdfsMapper) : Except Failure (List (String × Table)) :=
  (m.tables.collect (fun t => t.fsPath.map (·, t))).map
    (·.mergeSort (fun a b => (compare a.1 b.1).isLE))

def sortedPermissions (m : HdfsMapper) : Except Failure (List HdfsPermission) :=
  m.permissions.all.map (·.mergeSort (fun a b => (compare a.path b.path).isLE))

def run (m : HdfsMapper) : Run (List Verdict) := do
  let tables ← Run.ofExcept m.sortedTables
  let permissions ← Run.ofExcept m.sortedPermissions
  m.runPairs (mergeJoin (fun t p => compare t.1 p.path) tables permissions)

end HdfsMapper

end Regrant
