import Regrant.Command.Output
import Regrant.Input
import Regrant.Principal.Mapper
import Regrant.Principal.Merge
import Regrant.Settings.Basic

/-!
# Expanding identities into principals

The principal ruleset says which kinds of identities of HDFS and of Ranger are mapped.  What the
mappers yield is merged, and the principals that this leaves are written.
-/

namespace Regrant.Expand

/-- Keep a mapper that could be built.  One that could not is left out, unless that is fatal. -/
def keep (built : Except Failure IdentityMapper) : Run (List PrincipalMapper) :=
  match built with
  | .ok m => .pure [⟨m.name, m.run⟩]
  | .error e => if e.fatal then Run.fail e else do
    Run.report .principalMapperNotInitialized
    return []

/-- The mapper of a kind of identities, if there are rules for it.  A principal is of the given type
unless the rules say otherwise. -/
def planKind (system kind : String) (type : PrincipalType) (rules : RuleList)
    (records : Source IdentityRecord) : Run (List PrincipalMapper) :=
  match rules with
  | some rules => keep (IdentityMapper.build system kind (some type) rules records)
  | none => .pure []

/-- The mapper of a class of the HDFS dump, which has to be a file. -/
def planDump (t : FileTree) (s : Settings) (kind : String) (type : PrincipalType) (c : HdfsClass)
    (rules : RuleList) : Run (List PrincipalMapper) :=
  match rules, s.inputs.hdfsDump.filter t.isFile with
  | none, _ => .pure []
  | some _, some dump =>
    planKind "hdfs" kind type rules ((Input.hdfsIdentities t c dump).map .ofHdfs)
  | some _, none => do
    Run.report .hdfsDumpMissingForPrincipals
    return []

def planHdfs (t : FileTree) (s : Settings) (rules : IdentityRules) : Run (List PrincipalMapper) := do
  let users ← planDump t s "user" .user .user rules.user
  let groups ← planDump t s "group" .group .group rules.group
  let others ← planKind "hdfs" "other" .domain rules.third
    (Source.ofList [.ofHdfs ⟨.other, HdfsIdentity.otherName⟩])
  return users ++ groups ++ others

def planRanger (t : FileTree) (s : Settings) (rules : IdentityRules) :
    Run (List PrincipalMapper) := do
  let dump := s.inputs.rangerDump
  let users ← planKind "ranger" "user" .user rules.user ((Input.rangerUsers t dump).map .ofUser)
  let groups ← planKind "ranger" "group" .group rules.group
    ((Input.rangerGroups t dump).map .ofGroup)
  let roles ← planKind "ranger" "role" .group rules.third ((Input.rangerRoles t dump).map .ofRole)
  return users ++ groups ++ roles

/-- The mappers that a ruleset asks for. -/
def plan (t : FileTree) (s : Settings) (ruleset : PrincipalRuleset) : Run (List PrincipalMapper) := do
  let hdfs ← match ruleset.hdfs with
    | some rules => planHdfs t s rules
    | none => pure []
  let ranger ← match ruleset.ranger with
    | some rules => planRanger t s rules
    | none => pure []
  return hdfs ++ ranger

/-- The merged principals of all mappers. -/
def compute (t : FileTree) (s : Settings) : Run (List Principal) := do
  let ruleset ← Run.ofExcept (Input.principalRuleset t s.inputs.principalRuleset)
  PrincipalMerge.run (← plan t s ruleset)

/-- Compute the principals and write them. -/
def run (t : FileTree) (s : Settings) : Run (List Principal) × FileTree :=
  writeOutcome t s.outputs.principals principalsDocument (compute t s)

end Regrant.Expand
