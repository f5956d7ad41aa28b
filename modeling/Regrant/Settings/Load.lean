import Regrant.FileTree
import Regrant.Settings.Basic
import Regrant.Settings.Layer
import Regrant.Toml.Reader

/-!
# Loading settings

Defaults come first, then a file, if there is one, then the environment, and last what a caller
overrides.
-/

namespace Regrant

/-- Values that win over the file and the environment. -/
structure Overrides where
  tables : Option String
  principals : Option String
  rangerDump : Option String
  hdfsDump : Option String
  permissionsRuleset : Option String
  outputPermissions : Option String
  principalRuleset : Option String
  outputPrincipals : Option String
  timeoutSeconds : Option Nat
deriving Inhabited

namespace Overrides

def none : Overrides := ⟨.none, .none, .none, .none, .none, .none, .none, .none, .none⟩

/-- The values under the keys of the settings. -/
def entries (o : Overrides) : List (String × SettingValue) :=
  [("inputs.tables", o.tables.map .text), ("inputs.principals", o.principals.map .text),
    ("inputs.ranger_dumper_output", o.rangerDump.map .text),
    ("inputs.hdfs_dumper_output", o.hdfsDump.map .text),
    ("inputs.permissions_ruleset", o.permissionsRuleset.map .text),
    ("inputs.principal_ruleset", o.principalRuleset.map .text),
    ("output.permissions", o.outputPermissions.map .text),
    ("output.principals", o.outputPrincipals.map .text),
    ("run.timeout_seconds", o.timeoutSeconds.map fun n => .int n)].filterMap
    fun (k, v) => v.map (k, ·)

end Overrides

namespace Settings

open SettingValue

/-! ### Layers -/

/-- The layer that lies below all others. -/
def defaultEntries : List (String × SettingValue) :=
  let d := defaults
  [("inputs.tables", .text d.inputs.tables), ("inputs.principals", .text d.inputs.principals),
    ("inputs.ranger_dumper_output", .text d.inputs.rangerDump),
    ("inputs.permissions_ruleset", .text d.inputs.permissionsRuleset),
    ("inputs.principal_ruleset", .text d.inputs.principalRuleset),
    ("output.permissions", .text d.outputs.permissions),
    ("output.principals", .text d.outputs.principals),
    ("run.timeout_seconds", .int d.timeoutSeconds),
    ("roles.gcs.read", .text d.gcsRoles.read), ("roles.gcs.write", .text d.gcsRoles.write),
    ("roles.bq.read", .text d.bqRoles.read), ("roles.bq.write", .text d.bqRoles.write)]

/-- A path leads to a file of settings only if it has the extension `toml`. -/
def extension : String := "toml"

/-- The file of settings that a path means: the file there, or one with an extension added. -/
def file? (t : FileTree) (path : String) : Except Failure String :=
  if t.isFile path then
    (if FileTree.extension? path = some extension then .ok path else .error .config)
  else match (FileTree.pathNames path).reverse.dropWhile FileTree.isIdle with
    | [] => .error .config
    | names =>
      let candidate := "/".intercalate names.reverse ++ "." ++ extension
      if t.isFile candidate then .ok candidate else .error .config

/-- The layer of a file, which need not be there. -/
def fileEntries (t : FileTree) (path : String) : Except Failure (List (String × SettingValue)) :=
  if (t.find? path).isNone then .ok []
  else do
    let file ← file? t path
    match (t.text? file).bind Toml.read with
    | some fields => return ofTomlFields fields
    | none => .error .config

/-- The start of the environment variables that are settings. -/
def environmentStart : String := "permissions_migration__"

/-- The key that an environment variable sets. -/
def environmentKey? (name : String) : Option String :=
  let name := Unicode.lower name
  if name.startsWith environmentStart then
    some ((name.drop environmentStart.length).toString.replace "__" ".")
  else none

def environmentEntries (env : List (String × String)) : List (String × SettingValue) :=
  env.filterMap fun (name, v) => (environmentKey? name).map (·, .text v)

/-! ### Reading -/

/-- A required member that is text. -/
def text? (v : Option SettingValue) : Option String := v.bind asText?

def roles? (v : Option SettingValue) : Option TargetRoles := do
  match ← (← v).members? ["read", "write"] with
  | [read, write] => return ⟨← text? read, ← text? write⟩
  | _ => none

def inputs? (v : Option SettingValue) : Option InputPaths := do
  match ← (← v).members? ["tables", "principals", "ranger_dumper_output", "hdfs_dumper_output",
      "permissions_ruleset", "principal_ruleset"] with
  | [tables, principals, rangerDump, hdfsDump, permissionsRuleset, principalRuleset] =>
    let hdfsDump ← match hdfsDump with
      | none => pure none
      | some v => (asText? v).map some
    return ⟨← text? tables, ← text? principals, ← text? rangerDump, hdfsDump,
      ← text? permissionsRuleset, ← text? principalRuleset⟩
  | _ => none

def outputs? (v : Option SettingValue) : Option OutputPaths := do
  match ← (← v).members? ["permissions", "principals"] with
  | [permissions, principals] => return ⟨← text? permissions, ← text? principals⟩
  | _ => none

/-- The settings that all layers amount to. -/
def ofFields? (fields : SettingValue.Fields) : Option Settings := do
  let inputs ← inputs? (fields.lookup "inputs")
  let outputs ← outputs? (fields.lookup "output")
  let timeout ← match ← (← fields.lookup "run").members? ["timeout_seconds"] with
    | [timeout] => timeout.bind asCount?
    | _ => none
  match ← (← fields.lookup "roles").members? ["gcs", "bq"] with
  | [gcs, bq] => return ⟨inputs, outputs, timeout, ← roles? gcs, ← roles? bq⟩
  | _ => none

/-- Load settings: the file at a path, variables of the environment, and overrides. -/
def load (t : FileTree) (path : String) (env : List (String × String)) (overrides : Overrides) :
    Except Failure Settings := do
  let file ← fileEntries t path
  let entries := defaultEntries ++ file ++ environmentEntries env ++ overrides.entries
  match ofFields? (entries.foldl (fun fields (k, v) => set k v fields) []) with
  | none => .error .config
  | some s =>
    if s.timeoutSeconds = 0 then .error (.invalidConfig .timeoutNotPositive) else .ok s

end Settings

end Regrant
