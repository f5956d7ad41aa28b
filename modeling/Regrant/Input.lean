import Regrant.Csv
import Regrant.FileTree
import Regrant.Json.Reader
import Regrant.Model.Hdfs
import Regrant.Model.Principal
import Regrant.Model.Ranger
import Regrant.Model.Ruleset
import Regrant.Model.Table
import Regrant.Source
import Regrant.Yaml.Node

/-!
# Inputs

The sources of records that a tree of files holds: table documents, principals, rulesets and the
dumps of Ranger and HDFS.  A file that cannot be read is `unreadable`, a record in it that has
another shape than it should is `malformed`.
-/

namespace Regrant.Input

variable {α : Type}

/-- The YAML document of a file, read as a model. -/
def document (t : FileTree) (read : Document → Option α) (path : String) : Except Failure α :=
  match t.text? path with
  | none => .error (.unreadable path)
  | some text => match (Yaml.read text).bind read with
    | some a => .ok a
    | none => .error (.malformed path .shape)

def permissionsRuleset (t : FileTree) (path : String) : Except Failure PermissionsRuleset :=
  document t PermissionsRuleset.ofDocument? path

def principalRuleset (t : FileTree) (path : String) : Except Failure PrincipalRuleset :=
  document t PrincipalRuleset.ofDocument? path

def principals (t : FileTree) (path : String) : Source Principal :=
  (document t Principal.listOfDocument? path).bind Source.ofList

/-! ### Tables -/

/-- A file of this name holds a table document. -/
def isTableFile (name : String) : Bool :=
  match Text.splitExtension name with
  | some (_, e) => Text.sameIgnoringAsciiCase e "yaml" || Text.sameIgnoringAsciiCase e "yml"
  | none => false

/-- The tables of a directory, by the names of their files. -/
def tables (t : FileTree) (dir : String) : Source Table :=
  match t.names? dir with
  | none => .error (.unreadable dir)
  | some names => .ok ((names.filter isTableFile).map fun name =>
      (document t TableDocument.ofDocument? (FileTree.joinPath dir name)).bind TableDocument.table)

/-! ### Records on lines -/

/-- The lines of a file, without their ends. -/
def lines (bytes : List UInt8) : List (List UInt8) :=
  let parts := bytes.splitOnP (· = 10)
  let parts := if parts.getLast? = some [] then parts.dropLast else parts
  parts.map fun l => if l.getLast? = some 13 then l.dropLast else l

/-- The record of a numbered line; a blank line has none. -/
def lineRecord (read : Document → Option α) (path : String) (number : Nat) (bytes : List UInt8) :
    Option (Except Failure α) :=
  match String.fromUTF8? ⟨bytes.toArray⟩ with
  | none => some (.error (.unreadable path))
  | some line =>
    if (Text.trim line).isEmpty then none
    else some (match (Json.read line).bind read with
      | some a => .ok a
      | none => .error (.malformed (path ++ ":" ++ toString number) .shape))

/-- JSON records, one a line.  A directory can be opened but not read. -/
def jsonLines (t : FileTree) (read : Document → Option α) (path : String) : Source α :=
  match t.find? path with
  | none => .error (.unreadable path)
  | some .directory => .ok [.error (.unreadable path)]
  | some (.file bytes) =>
    .ok ((lines bytes.data.toList).zipIdx.filterMap fun (l, i) => lineRecord read path (i + 1) l)

/-! ### Ranger dumps -/

def rangerServices (t : FileTree) (dir : String) : Source RangerService :=
  jsonLines t RangerService.ofDocument? (FileTree.joinPath dir "services.jsonl")

def rangerPolicies (t : FileTree) (dir : String) : Source Policy :=
  jsonLines t Policy.ofDocument? (FileTree.joinPath dir "policies.jsonl")

def rangerUsers (t : FileTree) (dir : String) : Source RangerUser :=
  jsonLines t RangerUser.ofDocument? (FileTree.joinPath dir "users.jsonl")

def rangerGroups (t : FileTree) (dir : String) : Source RangerGroup :=
  jsonLines t RangerGroup.ofDocument? (FileTree.joinPath dir "groups.jsonl")

def rangerRoles (t : FileTree) (dir : String) : Source RangerRole :=
  jsonLines t RangerRole.ofDocument? (FileTree.joinPath dir "roles.jsonl")

/-! ### HDFS dumps -/

/-- The rows of a permission dump.  A directory can be opened and has none. -/
def hdfsPermissions (t : FileTree) (path : String) : Source HdfsPermission :=
  match t.find? path with
  | none => .error (.unreadable path)
  | some .directory => .ok []
  | some (.file bytes) => .ok ((Csv.rows bytes.data.toList).map fun row =>
      match row.bind HdfsPermission.ofDocument? with
      | some p => .ok p
      | none => .error (.malformed path .shape))

/-- Those who hold a class on some row of a dump, without repeats; all others have one name,
whatever the dump holds. -/
def hdfsIdentities (t : FileTree) (c : HdfsClass) (path : String) : Source HdfsIdentity :=
  match c with
  | .other => Source.ofList [⟨.other, HdfsIdentity.otherName⟩]
  | c => ((hdfsPermissions t path).collect fun p => .ok (p.identity c).name).bind fun names =>
      Source.ofList ((sortedDistinct names).map (HdfsIdentity.mk c))

end Regrant.Input
