import Regrant.Binding.Hdfs
import Regrant.Binding.Ranger
import Regrant.Command.Output
import Regrant.Input
import Regrant.Settings.Basic

/-!
# Building bindings

The permissions ruleset says which mappers there are: for each target up to one for Hive policies,
one for HDFS policies and one for the HDFS dump.  Their candidates are merged, and the bindings
that this leaves are written.
-/

namespace Regrant.Build

/-- Keep a mapper that could be built.  One that could not is left out, unless that is fatal. -/
def keep (built : Run BindingMapper) : Run (List BindingMapper) := do
  match ← built.attempt with
  | .ok m => return [m]
  | .error e => if e.fatal then Run.fail e else do
    Run.report .mapperNotInitialized
    return []

def rangerMapper (t : FileTree) (s : Settings) (target : Target) (plugin : RangerPlugin)
    (rules : List Rule) : Run BindingMapper := do
  let m ← RangerMapper.build plugin target (s.roles target) rules (Input.tables t s.inputs.tables)
    (Input.principals t s.inputs.principals) (Input.rangerServices t s.inputs.rangerDump)
    (Input.rangerPolicies t s.inputs.rangerDump)
  return ⟨m.name, m.run⟩

def hdfsMapper (t : FileTree) (s : Settings) (target : Target) (dump : String)
    (rules : List Rule) : Run BindingMapper := do
  let m ← HdfsMapper.build target (s.roles target) rules (Input.tables t s.inputs.tables)
    (Input.hdfsPermissions t dump) (Input.principals t s.inputs.principals)
  return ⟨m.name, m.run⟩

/-- The mapper of the HDFS dump, which has to be a file. -/
def planHdfs (t : FileTree) (s : Settings) (target : Target) (rules : List Rule) :
    Run (List BindingMapper) :=
  match s.inputs.hdfsDump.filter t.isFile with
  | some dump => keep (hdfsMapper t s target dump rules)
  | none => do
    Run.report .hdfsDumpMissing
    return []

/-- The mappers that a list of rules asks for, if there is one. -/
def planList (rules : RuleList) (plan : List Rule → Run (List BindingMapper)) :
    Run (List BindingMapper) :=
  match rules with
  | some rules => plan rules
  | none => .pure []

def planTarget (t : FileTree) (s : Settings) (target : Target) (rules : Option TargetRuleset) :
    Run (List BindingMapper) :=
  match rules with
  | none => .pure []
  | some rules => do
    let hive ← planList rules.rangerHive fun l => keep (rangerMapper t s target .hive l)
    let policies ← planList rules.rangerHdfs fun l => keep (rangerMapper t s target .hdfs l)
    let dump ← planList rules.hdfs (planHdfs t s target)
    return hive ++ policies ++ dump

/-- The mappers that a ruleset asks for. -/
def plan (t : FileTree) (s : Settings) (ruleset : PermissionsRuleset) : Run (List BindingMapper) := do
  let gcs ← planTarget t s .gcs ruleset.gcs
  let bq ← planTarget t s .bq ruleset.bq
  return gcs ++ bq

/-- The merged bindings of all mappers. -/
def compute (t : FileTree) (s : Settings) : Run (List IamBinding) := do
  let ruleset ← Run.ofExcept (Input.permissionsRuleset t s.inputs.permissionsRuleset)
  Merge.run (← plan t s ruleset) ruleset.roles

/-- Compute the bindings and write them. -/
def run (t : FileTree) (s : Settings) : Run (List IamBinding) × FileTree :=
  writeOutcome t s.outputs.permissions bindingsDocument (compute t s)

end Regrant.Build
