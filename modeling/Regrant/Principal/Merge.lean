import Regrant.Model.Principal
import Regrant.Run

/-!
# Merging principals

All principals that are mapped to one identity of the target become one, with the sources of all.
Every other principal is skipped, and so its sources go to one skipped principal.
-/

namespace Regrant

/-- An identity of the target. -/
structure TargetIdentity where
  type : PrincipalType
  email : String
deriving DecidableEq

namespace TargetIdentity

/-- By the name of the type and then by address. -/
instance : Ord TargetIdentity := ⟨compareLex (compareOn (·.type.name)) (compareOn email)⟩

instance : Std.TransOrd TargetIdentity :=
  inferInstanceAs (Std.TransCmp (compareLex (compareOn (·.type.name)) (compareOn email)))

end TargetIdentity

/-- A source of principals. -/
structure PrincipalMapper where
  name : String
  run : Run (List Principal)

namespace PrincipalMerge

/-- The identity that a principal is mapped to; a skipped principal is mapped to none. -/
def target? (p : Principal) : Option TargetIdentity :=
  if p.skip then none
  else match p.type, p.email with
    | some type, some email => some ⟨type, email⟩
    | _, _ => none

/-- Sources with further names under some keys. -/
def gather : Sources → List (String × List String) → Sources
  | s, [] => s
  | s, (key, names) :: rest => gather (s.alter key (fun old => old.getD [] ++ names)) rest

/-- The sources of all, names in order and without repeats. -/
def unite (l : List Principal) : Sources :=
  (gather ∅ (l.flatMap (fun p => p.sources.entries))).map sortedDistinct

/-- The principal with this identity and the sources of all. -/
def mapped (t : TargetIdentity) (l : List Principal) : Principal :=
  ⟨false, some t.email, some t.type, unite l⟩

/-- The principal that collects the sources of skipped ones, if they have any. -/
def skipped (l : List Principal) : List Principal :=
  let sources := unite l
  if sources.isEmpty then [] else [⟨true, none, none, sources⟩]

/-- One principal for each identity in order, and at last the one that is skipped. -/
def resolve (l : List Principal) : List Principal :=
  let groups := groupBy (·.1) (l.filterMap (fun p => (target? p).map (·, p)))
  groups.entries.map (fun (t, group) => mapped t (group.map (·.2))) ++
    skipped (l.filter (fun p => (target? p).isNone))

/-- The principals of a mapper.  A mapper that fails is left out, unless its failure is fatal. -/
def principals (m : PrincipalMapper) : Run (List Principal) := do
  match ← m.run.attempt with
  | .ok l => return l
  | .error e => if e.fatal then Run.fail e else do
    Run.report .principalMapperFailed
    return []

def collect : List PrincipalMapper → Run (List Principal)
  | [] => .pure []
  | m :: rest => do
    let l ← principals m
    return l ++ (← collect rest)

/-- Run all mappers and merge their principals. -/
def run (mappers : List PrincipalMapper) : Run (List Principal) := do
  if mappers.isEmpty then Run.fail (.invalidConfig .noPrincipalMappers)
  return resolve (← collect mappers)

end PrincipalMerge

end Regrant
