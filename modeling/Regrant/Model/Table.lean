import Regrant.Failure
import Regrant.Location.Path

/-!
# Tables

A table that was migrated: where it lay on the cluster and where it lies on the targets.
-/

namespace Regrant

structure Table where
  name : String
  schema : String
  /-- Where the table lay, usually a URL. -/
  location : String
  /-- Where its files lie. -/
  gcsPath : Option String
  /-- Where its copy in the warehouse lies: project, dataset and table. -/
  bqPath : Option String
deriving Inhabited, DecidableEq

/-- What a table document says. -/
structure TableDocument where
  targetName : String
  sources : List String
  targets : List String

namespace TableDocument

def ofDocument? (d : Document) : Option TableDocument := do
  match ← d.slots [["target_name"], ["source_locations"], ["target_locations"]] with
  | [name, sources, targets] =>
    let texts := Document.asListOf? Document.asText?
    return ⟨← name.required Document.asText?, ← sources.withDefault [] texts,
      ← targets.withDefault [] texts⟩
  | _ => none

/-- The table of a document: the last two parts of its target name, and its first locations. -/
def table (d : TableDocument) : Except Failure Table :=
  match (Location.splitAt '.' d.targetName.toList).reverse with
  | name :: schema :: _ => match d.sources with
    | location :: _ =>
      .ok ⟨String.ofList name, String.ofList schema, location, d.targets.head?, some d.targetName⟩
    | [] => .error (.malformed d.targetName .noSourceLocation)
  | _ => .error (.malformed d.targetName .invalidTargetName)

end TableDocument

namespace Table

/-- The decoded path of the location, as dumps of permissions show it.  A location that is no URL is
a path already. -/
def fsPath (t : Table) : Except Failure String :=
  match Location.path? t.location with
  | none => .ok t.location
  | some path => match Location.decodeText? (Location.percentDecode path) with
    | some s => .ok s
    | none => .error (.malformed t.location .shape)

def ofDocument? (d : Document) : Option Table := do
  match ← d.slots [["name"], ["schema_name"], ["hdfs_path"], ["gcs_path"], ["bq_path"]] with
  | [name, schema, location, gcsPath, bqPath] =>
    return ⟨← name.required Document.asText?, ← schema.required Document.asText?,
      ← location.required Document.asText?, ← gcsPath.nullable Document.asText?,
      ← bqPath.nullable Document.asText?⟩
  | _ => none

def toJson (t : Table) : Json :=
  .object [("name", .text t.name), ("schema_name", .text t.schema),
    ("hdfs_path", .text t.location), ("gcs_path", .ofOption .text t.gcsPath),
    ("bq_path", .ofOption .text t.bqPath)]

end Table

end Regrant
