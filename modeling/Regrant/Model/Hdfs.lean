import Regrant.Failure
import Regrant.Document

/-!
# Permissions of HDFS

A row of the permission dump says who owns a path and what its owner, its group and all others may
do there.  The nine bytes of its mode are three for each of these classes.
-/

namespace Regrant

/-- The classes of a mode. -/
inductive HdfsClass where
  | user
  | group
  | other
deriving DecidableEq, Inhabited

namespace HdfsClass

def all : List HdfsClass := [user, group, other]

def name : HdfsClass → String
  | user => "USER"
  | group => "GROUP"
  | other => "OTHER"

/-- The class that keys of sources call by this kind. -/
def ofKind : String → Except Failure HdfsClass
  | "user" => .ok user
  | "group" => .ok group
  | "other" => .ok other
  | kind => .error (.invalidConfig (.unknownPrincipalKind "HDFS" ("hdfs/" ++ kind)))

/-- How many bytes of a mode come before those of the class. -/
def offset : HdfsClass → Nat
  | user => 0
  | group => 3
  | other => 6

end HdfsClass

/-- Who holds a class on some path. -/
structure HdfsIdentity where
  type : HdfsClass
  name : String
deriving DecidableEq, Inhabited

namespace HdfsIdentity

/-- The name of all others. -/
def otherName : String := "other"

def toJson (i : HdfsIdentity) : Json := .object [("type", .text i.type.name), ("name", .text i.name)]

def ofDocument? (d : Document) : Option HdfsIdentity := do
  match ← d.slots [["type"], ["name"]] with
  | [type, name] =>
    let type ← type.required fun d => match d.asCase? with
      | some "USER" => some HdfsClass.user
      | some "GROUP" => some .group
      | some "OTHER" => some .other
      | _ => none
    return ⟨type, ← name.required Document.asText?⟩
  | _ => none

end HdfsIdentity

/-- One row of the permission dump. -/
structure HdfsPermission where
  path : String
  fileType : Option String
  fileSize : Option Int
  owner : String
  group : String
  /-- A mode such as `rwxr-x---`. -/
  mode : String
  modificationTime : Option String
  fileCount : Option Int
  dirCount : Option Int
  storagePolicy : Option String
deriving Inhabited, DecidableEq

namespace HdfsPermission

/-- The `count` bytes from byte `start` on, if characters begin and end there. -/
def slice? (start count : Nat) (cs : List Char) : Option (List Char) :=
  match cs with
  | [] => if start = 0 ∧ count = 0 then some [] else none
  | c :: rest =>
    if 0 < start then
      if c.utf8Size ≤ start then slice? (start - c.utf8Size) count rest else none
    else if count = 0 then some []
    else if c.utf8Size ≤ count then (slice? 0 (count - c.utf8Size) rest).map (c :: ·)
    else none

/-- The three bytes of the mode that are those of a class. -/
def bits? (p : HdfsPermission) (c : HdfsClass) : Option String :=
  (slice? c.offset 3 p.mode.toList).map String.ofList

/-- Who holds a class on the path. -/
def identity (p : HdfsPermission) : HdfsClass → HdfsIdentity
  | .user => ⟨.user, p.owner⟩
  | .group => ⟨.group, p.group⟩
  | .other => ⟨.other, HdfsIdentity.otherName⟩

/-- The names of the fields; each may also begin with a capital. -/
def fieldNames : List (List String) :=
  [["path", "Path"], ["fileType", "FileType"], ["fileSize", "FileSize"], ["owner", "Owner"],
    ["group", "Group"], ["permission", "Permission"], ["modificationTime", "ModificationTime"],
    ["fileCount", "FileCount"], ["dirCount", "DirCount"], ["storagePolicy", "StoragePolicy"]]

def ofDocument? (d : Document) : Option HdfsPermission := do
  match ← d.slots fieldNames with
  | [path, fileType, fileSize, owner, group, mode, modificationTime, fileCount, dirCount,
      storagePolicy] =>
    return ⟨← path.required Document.asText?, ← fileType.optional Document.asText?,
      ← fileSize.optional Document.asInt64?, ← owner.required Document.asText?,
      ← group.required Document.asText?, ← mode.required Document.asText?,
      ← modificationTime.optional Document.asText?, ← fileCount.optional Document.asInt64?,
      ← dirCount.optional Document.asInt64?, ← storagePolicy.optional Document.asText?⟩
  | _ => none

def toJson (p : HdfsPermission) : Json :=
  .object [("path", .text p.path), ("fileType", .ofOption .text p.fileType),
    ("fileSize", .ofOption .int p.fileSize), ("owner", .text p.owner), ("group", .text p.group),
    ("permission", .text p.mode), ("modificationTime", .ofOption .text p.modificationTime),
    ("fileCount", .ofOption .int p.fileCount), ("dirCount", .ofOption .int p.dirCount),
    ("storagePolicy", .ofOption .text p.storagePolicy)]

end HdfsPermission

end Regrant
