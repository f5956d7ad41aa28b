import Regrant.Model.Target

/-!
# Settings

Where the inputs of the commands lie, where their output goes, and which roles a target knows.
-/

namespace Regrant

structure InputPaths where
  /-- The directory of table documents. -/
  tables : String
  principals : String
  /-- The directory of the Ranger dump. -/
  rangerDump : String
  /-- The HDFS permission dump, without which nothing is mapped from HDFS. -/
  hdfsDump : Option String
  permissionsRuleset : String
  principalRuleset : String

structure OutputPaths where
  permissions : String
  principals : String

structure Settings where
  inputs : InputPaths
  outputs : OutputPaths
  timeoutSeconds : Nat
  gcsRoles : TargetRoles
  bqRoles : TargetRoles

namespace Settings

def defaults : Settings where
  inputs := ⟨"tables", "principals.yaml", "ranger", none, "permissions-ruleset.yaml",
    "principal-ruleset.yaml"⟩
  outputs := ⟨"permissions.yaml", "principals.yaml"⟩
  timeoutSeconds := 3600
  gcsRoles := .defaults .gcs
  bqRoles := .defaults .bq

def roles (s : Settings) : Target → TargetRoles
  | .gcs => s.gcsRoles
  | .bq => s.bqRoles

def toJson (s : Settings) : Json :=
  let roles (r : TargetRoles) : Json := .object [("read", .text r.read), ("write", .text r.write)]
  .object [
    ("inputs", .object [("tables", .text s.inputs.tables), ("principals", .text s.inputs.principals),
      ("ranger_dumper_output", .text s.inputs.rangerDump),
      ("hdfs_dumper_output", .ofOption .text s.inputs.hdfsDump),
      ("permissions_ruleset", .text s.inputs.permissionsRuleset),
      ("principal_ruleset", .text s.inputs.principalRuleset)]),
    ("output", .object [("permissions", .text s.outputs.permissions),
      ("principals", .text s.outputs.principals)]),
    ("run", .object [("timeout_seconds", .int s.timeoutSeconds)]),
    ("roles", .object [("gcs", roles s.gcsRoles), ("bq", roles s.bqRoles)])]

end Settings

end Regrant
