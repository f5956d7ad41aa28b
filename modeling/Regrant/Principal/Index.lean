import Regrant.Model.Principal
import Regrant.Run
import Regrant.Source

/-!
# The index of principals

The index of a system finds the principal that lists an identity of that system among its sources.
No identity may be listed twice.
-/

namespace Regrant

/-- An identity of one system: its kind, as in keys of sources, and its name. -/
structure IdentityKey where
  kind : String
  name : String
deriving DecidableEq

namespace IdentityKey

instance : Ord IdentityKey := ⟨compareLex (compareOn kind) (compareOn name)⟩

instance : Std.TransOrd IdentityKey :=
  inferInstanceAs (Std.TransCmp (compareLex (compareOn kind) (compareOn name)))

end IdentityKey

abbrev PrincipalIndex := SortedMap IdentityKey Principal

namespace PrincipalIndex

/-- Index the names that a principal lists under one key. -/
def addNames (check : String → Except Failure Unit) (p : Principal) (key kind : String) :
    PrincipalIndex → List String → Except Failure PrincipalIndex
  | index, [] => .ok index
  | index, name :: names => match check kind with
    | .error e => .error e
    | .ok () =>
      if index.contains ⟨kind, name⟩ then .error (.duplicatePrincipal (key ++ "/" ++ name))
      else addNames check p key kind (index.insert ⟨kind, name⟩ p) names

/-- Index the sources of a principal that belong to a system. -/
def addSources (system : String) (check : String → Except Failure Unit) (p : Principal) :
    PrincipalIndex → List (String × List String) → Run PrincipalIndex
  | index, [] => .pure index
  | index, (key, names) :: rest => match SourceKey.ofText? key with
    | none => do
      Run.report (.malformedSourceKey key)
      addSources system check p index rest
    | some k =>
      if k.system = system then do
        addSources system check p (← Run.ofExcept (addNames check p key k.kind index names)) rest
      else addSources system check p index rest

def addAll (system : String) (check : String → Except Failure Unit) :
    PrincipalIndex → List (Except Failure Principal) → Run PrincipalIndex
  | index, [] => .pure index
  | _, .error e :: _ => .fail e
  | index, .ok p :: rest => do
    addAll system check (← addSources system check p index p.sources.entries) rest

/-- The index of a system whose kinds `check` accepts. -/
def build (system : String) (check : String → Except Failure Unit) (principals : Source Principal) :
    Run PrincipalIndex := do
  addAll system check ∅ (← Run.ofExcept principals)

end PrincipalIndex

end Regrant
