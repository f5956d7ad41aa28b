import Regrant.CommandLine

/-!
# The program

What the command line asks for is computed on a tree of files.  Here the files that it needs are
read into such a tree, and the file that it wrote is written back.
-/

namespace Regrant.Main

/-- The environment variables that set something. -/
def variableNames : List String :=
  let sections := [("INPUTS", ["TABLES", "PRINCIPALS", "RANGER_DUMPER_OUTPUT",
      "HDFS_DUMPER_OUTPUT", "PERMISSIONS_RULESET", "PRINCIPAL_RULESET"]),
    ("OUTPUT", ["PERMISSIONS", "PRINCIPALS"]), ("RUN", ["TIMEOUT_SECONDS"]),
    ("ROLES", ["GCS", "BQ"]), ("ROLES__GCS", ["READ", "WRITE"]), ("ROLES__BQ", ["READ", "WRITE"])]
  (sections.flatMap fun (s, names) => s :: names.map (s ++ "__" ++ ·)).map
    ("PERMISSIONS_MIGRATION__" ++ ·)

def environment : IO (List (String × String)) := do
  let values ← variableNames.mapM fun name => do return (← IO.getEnv name).map (name, ·)
  return values.reduceOption

/-- The names in a directory. -/
def names (dir : String) : IO (List String) := do
  let entries ← (← IO.FS.realPath dir).readDir
  return entries.toList.map (·.fileName)

/-- What stands under a path. -/
def entry? (path : String) : IO (Option FileEntry) := do
  if path.isEmpty then return none
  try
    return some (.file (← IO.FS.readBinFile path))
  catch _ =>
    try
      let _ ← names path
      return some .directory
    catch _ => return none

/-- Where a path leads, `..` being taken at its word. -/
def placeOf (working : List String) (path : String) : List String :=
  (FileTree.pathNames path).foldl
    (fun place name =>
      if FileTree.isIdle name then place
      else if name = ".." then place.dropLast
      else place ++ [name])
    (if path.startsWith "/" then [] else working)

/-- Bring what a path leads to into the tree, and the directories on its way. -/
def fetch (t : FileTree) (path : String) : IO FileTree := do
  let names := FileTree.pathNames path
  let ways := (List.range names.length).map fun n => "/".intercalate (names.take (n + 1))
  ways.foldlM (fun t way => do
    match ← entry? way with
    | some e => return t.plant (placeOf t.working way) e
    | none => return t) t

/-- Bring the files of a directory into the tree. -/
def fetchAll (t : FileTree) (dir : String) : IO FileTree := do
  let t ← fetch t dir
  let found ← try names dir catch _ => pure []
  found.foldlM (fun t name => fetch t (FileTree.joinPath dir name)) t

/-- Bring the inputs of the commands into the tree, and the directories of their outputs. -/
def fetchInputs (t : FileTree) (s : Settings) : IO FileTree := do
  let t ← fetchAll t s.inputs.tables
  let t ← fetchAll t s.inputs.rangerDump
  let files := [s.inputs.principals, s.inputs.permissionsRuleset, s.inputs.principalRuleset,
    s.outputs.permissions, s.outputs.principals] ++ s.inputs.hdfsDump.toList
  files.foldlM fetch t

/-- Report how a run ended, and end with its code. -/
def report (e : CommandLine.Ending) : IO UInt32 := do
  IO.print e.output
  for n in e.notices do
    IO.eprintln (n.message ++ (n.detail?.map (": " ++ ·)).getD "")
  match e.failure with
  | some f => IO.eprintln (f.message?.getD "The input is not well formed")
  | none => pure ()
  return e.exit.toUInt32

/-- Run a command, and write the file that it wrote in the tree. -/
def execute (args : List String) (c : CommandLine.Command) (config : String)
    (overrides : Overrides) : IO UInt32 := do
  let working := (FileTree.pathNames (← IO.currentDir).toString).filter (!FileTree.isIdle ·)
  let env ← environment
  let t ← [config, config ++ "." ++ Settings.extension].foldlM fetch (FileTree.start working)
  match Settings.load t config env overrides with
  | .error _ => report (CommandLine.run t env args)
  | .ok s =>
    let e := CommandLine.run (← fetchInputs t s) env args
    let output := match c with
      | .build => s.outputs.permissions
      | .expand => s.outputs.principals
    match e.failure, e.tree.bytes? output with
    | none, some bytes =>
      try
        IO.FS.writeBinFile output bytes
        report e
      catch _ => report { e with exit := 1, failure := some (.unwritable output) }
    | _, _ => report e

end Regrant.Main

/-- Read the command line and run what it asks for. -/
def main (args : List String) : IO UInt32 := do
  match Regrant.CommandLine.parse args with
  | .run c config overrides => Regrant.Main.execute args c config overrides
  | _ => Regrant.Main.report (Regrant.CommandLine.run default [] args)
