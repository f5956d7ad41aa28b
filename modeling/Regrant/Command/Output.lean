import Regrant.FileTree
import Regrant.Model.Binding
import Regrant.Model.Principal
import Regrant.Run
import Regrant.Yaml.Writer

/-!
# Documents that commands write

Bindings and principals are written as one document, in the format that the extension of the output
file asks for.
-/

namespace Regrant

inductive OutputFormat where
  | json
  | yaml
deriving DecidableEq

namespace OutputFormat

/-- JSON for the extension `json` in any case, YAML for all else. -/
def ofPath (path : String) : OutputFormat :=
  if (FileTree.extension? path).any (Text.sameIgnoringAsciiCase · "json") then json else yaml

def encode : OutputFormat → Json → String
  | json, j => j.renderIndented 0
  | yaml, j => Yaml.render j

end OutputFormat

def bindingsDocument (l : List IamBinding) : Json :=
  .object [("bindings", .list (l.map IamBinding.toJson))]

def principalsDocument (l : List Principal) : Json :=
  .object [("principals", .list (l.map Principal.toJson))]

namespace FileTree

/-- Write a document to a file. -/
def writeDocument (t : FileTree) (path : String) (document : Json) : Except Failure FileTree :=
  match t.write? path ((OutputFormat.ofPath path).encode document).toUTF8 with
  | some t' => .ok t'
  | none => .error (.unwritable path)

end FileTree

/-- Write what a run ends with.  A run that fails writes nothing. -/
def writeOutcome {α : Type} (t : FileTree) (path : String) (document : α → Json) (r : Run α) :
    Run α × FileTree :=
  match r.outcome with
  | .error _ => (r, t)
  | .ok a => match t.writeDocument path (document a) with
    | .ok t' => (r, t')
    | .error e => (⟨r.notices, .error e⟩, t)

end Regrant
