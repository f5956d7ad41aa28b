import Regrant.Model.Binding
import Regrant.Model.Table

/-!
# Targets

The platforms that bindings are written for, and the roles that they know for reading and writing.
-/

namespace Regrant

inductive Target where
  | gcs
  | bq
deriving DecidableEq, Inhabited

inductive Access where
  | read
  | write
deriving DecidableEq

namespace Target

def all : List Target := [gcs, bq]

def resourceType : Target → ResourceType
  | gcs => .gcsManagedFolder
  | bq => .bqTable

/-- Where a table lies on the target, if it was migrated there. -/
def path? : Target → Table → Option String
  | gcs, t => t.gcsPath
  | bq, t => t.bqPath

def label : Target → String
  | gcs => "GCS"
  | bq => "BigQuery"

end Target

/-- The roles of a target for each access. -/
structure TargetRoles where
  read : String
  write : String
deriving Inhabited, DecidableEq

namespace TargetRoles

def defaults : Target → TargetRoles
  | .gcs => ⟨"roles/storage.objectViewer", "roles/storage.objectUser"⟩
  | .bq => ⟨"roles/bigquery.dataViewer", "roles/bigquery.dataEditor"⟩

def role (r : TargetRoles) : Access → String
  | .read => r.read
  | .write => r.write

def ofDocument? (d : Document) : Option TargetRoles := do
  match ← d.slots [["read"], ["write"]] with
  | [read, write] => return ⟨← read.required Document.asText?, ← write.required Document.asText?⟩
  | _ => none

end TargetRoles

end Regrant
