import Regrant.SortedMap
import Regrant.Text

/-!
# Trees of files

What commands read and write: files and directories by the names that lead to them from the root.
A path without a slash in front starts at the working directory, and any path may hold `.` and `..`.
-/

namespace Regrant

inductive FileEntry where
  | directory
  | file (bytes : ByteArray)

structure FileTree where
  entries : SortedMap (List String) FileEntry
  /-- The place of the working directory. -/
  working : List String

namespace FileTree

instance : Inhabited FileTree := ⟨⟨∅, []⟩⟩

/-- What stands at a place; the root is a directory. -/
def entry? (t : FileTree) (place : List String) : Option FileEntry :=
  if place.isEmpty then some .directory else t.entries.get? place

def isDirectoryAt (t : FileTree) (place : List String) : Bool :=
  match t.entry? place with
  | some .directory => true
  | _ => false

/-! ### Paths -/

def pathNames (path : String) : List String := path.splitOn "/"

/-- A name adds nothing to a path. -/
def isIdle (name : String) : Bool := name.isEmpty || name = "."

/-- Follow names from a place on.  Only directories lead further, and the root lies in itself. -/
def walk (t : FileTree) (place : List String) : List String → Option (List String)
  | [] => some place
  | name :: rest =>
    if !t.isDirectoryAt place then none
    else if isIdle name then t.walk place rest
    else if name = ".." then t.walk place.dropLast rest
    else t.walk (place ++ [name]) rest

/-- The place that a path leads to, where something stands or could stand. -/
def locate? (t : FileTree) (path : String) : Option (List String) :=
  if path.isEmpty then none
  else t.walk (if path.startsWith "/" then [] else t.working) (pathNames path)

/-- The last name of a path. -/
def fileName? (path : String) : Option String :=
  match (pathNames path).reverse.dropWhile isIdle with
  | name :: _ => if name = ".." then none else some name
  | [] => none

/-- The extension of the last name of a path. -/
def extension? (path : String) : Option String :=
  (fileName? path).bind fun name => (Text.splitExtension name).map (·.2)

/-- The path of a name in a directory. -/
def joinPath (dir name : String) : String :=
  if dir.isEmpty || dir.endsWith "/" then dir ++ name else dir ++ "/" ++ name

/-! ### Reading -/

def find? (t : FileTree) (path : String) : Option FileEntry := (t.locate? path).bind t.entry?

def isDirectory (t : FileTree) (path : String) : Bool :=
  match t.find? path with
  | some .directory => true
  | _ => false

/-- The bytes of a file. -/
def bytes? (t : FileTree) (path : String) : Option ByteArray :=
  match t.find? path with
  | some (.file bytes) => some bytes
  | _ => none

def isFile (t : FileTree) (path : String) : Bool := (t.bytes? path).isSome

/-- The text of a file in UTF-8. -/
def text? (t : FileTree) (path : String) : Option String := (t.bytes? path).bind String.fromUTF8?

/-- The names in a directory, ascending. -/
def names? (t : FileTree) (dir : String) : Option (List String) := do
  let place ← t.locate? dir
  if t.isDirectoryAt place then
    some (t.entries.keys.filterMap fun k =>
      if k.dropLast = place then k.getLast? else none)
  else none

/-! ### Writing -/

/-- Put a file at a place, or replace the one that stands there.  Its directory has to be there. -/
def write? (t : FileTree) (path : String) (bytes : ByteArray) : Option FileTree := do
  let place ← t.locate? path
  if t.isDirectoryAt place || !t.isDirectoryAt place.dropLast then none
  else some { t with entries := t.entries.insert place (.file bytes) }

/-- Put an entry at a place, with all the directories that lead there. -/
def plant (t : FileTree) (place : List String) (e : FileEntry) : FileTree :=
  let parents := (List.range place.length).map place.take
  let entries := parents.foldl (fun m p => if p.isEmpty then m else m.insert p .directory) t.entries
  { t with entries := entries.insert place e }

/-- A tree with nothing but a working directory. -/
def start (working : List String) : FileTree := plant ⟨∅, working⟩ working .directory

/-- Remove what stands at a place, and all that is below. -/
def prune (t : FileTree) (place : List String) : FileTree :=
  { t with entries :=
      ⟨t.entries.entries.filter (fun e => !place.isPrefixOf e.1), t.entries.sorted.filter _⟩ }

end FileTree

end Regrant
