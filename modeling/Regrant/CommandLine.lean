import Regrant.Command.Build
import Regrant.Command.Expand
import Regrant.Settings.Load

/-!
# The command line

Arguments are read from left to right, and the first that is out of place, or that asks for help or
for the version, ends the reading.  `build` and `expand` have options of their own; the file of
settings may be named before or after them, and the last name counts.
-/

namespace Regrant.CommandLine

inductive Command where
  | build
  | expand
deriving DecidableEq

/-- The options that take a value. -/
inductive Name where
  | config
  | tables
  | principals
  | rangerDump
  | hdfsDump
  | permissionsRuleset
  | outputPermissions
  | principalRuleset
  | outputPrincipals
  | timeout
deriving DecidableEq

/-- The long options that stand before a command, or after it. -/
def names : Option Command → List (String × Name)
  | none => [("config", .config)]
  | some .build => [("config", .config), ("tables", .tables), ("principals", .principals),
      ("ranger-dumper-output", .rangerDump), ("hdfs-dumper-output", .hdfsDump),
      ("permissions-ruleset", .permissionsRuleset), ("output-permissions", .outputPermissions),
      ("timeout-seconds", .timeout)]
  | some .expand => [("config", .config), ("ranger-dumper-output", .rangerDump),
      ("hdfs-dumper-output", .hdfsDump), ("principal-ruleset", .principalRuleset),
      ("output-principals", .outputPrincipals), ("timeout-seconds", .timeout)]

/-- A count of seconds. -/
def seconds? (v : String) : Option Nat :=
  let digits := match v.toList with
    | '+' :: r => r
    | r => r
  (natOfDigits? digits).filter (· ≤ SettingValue.maxCount)

/-- The values that an option takes: no path is empty. -/
def accepts (n : Name) (v : String) : Bool :=
  match n with
  | .config => true
  | .timeout => (seconds? v).isSome
  | _ => !v.isEmpty

/-- What one argument says. -/
inductive Argument where
  | command (c : Command)
  | option (n : Name) (v : String)
  /-- An option whose value is the next argument. -/
  | optionBefore (n : Name)
  | help
  | version
  /-- The command that shows the help for another. -/
  | helpCommand
  /-- No options follow. -/
  | endOfOptions
  | unknown

/-- A long option without its hyphens. -/
def longOption (c : Option Command) (body : List Char) : Argument :=
  let name := String.ofList (body.takeWhile (· ≠ '='))
  match body.dropWhile (· ≠ '='), (names c).lookup name with
  | [], some n => .optionBefore n
  | _ :: v, some n => .option n (String.ofList v)
  | [], none =>
    if name = "help" then .help else if name = "version" ∧ c = none then .version else .unknown
  | _ :: _, none => .unknown

/-- A short option without its hyphen. -/
def shortOption (c : Option Command) : List Char → Argument
  | ['c'] => .optionBefore .config
  | 'c' :: '=' :: v => .option .config (String.ofList v)
  | 'c' :: v => .option .config (String.ofList v)
  | 'h' :: _ => .help
  | 'V' :: _ => if c = none then .version else .unknown
  | _ => .unknown

/-- An argument before or after a command. -/
def argument (c : Option Command) (a : String) : Argument :=
  match a.toList, c with
  | ['-', '-'], _ => .endOfOptions
  | '-' :: '-' :: body, _ => longOption c body
  | '-' :: x :: body, _ => shortOption c (x :: body)
  | _, some _ => .unknown
  | _, none =>
    if a = "build" then .command .build
    else if a = "expand" then .command .expand
    else if a = "help" then .helpCommand
    else .unknown

/-- Not fit to be the value of an option. -/
def isOptionLike (a : String) : Bool :=
  match a.toList with
  | '-' :: _ :: _ => true
  | _ => false

/-- What the arguments ask for. -/
inductive Request where
  | run (c : Command) (config : String) (overrides : Overrides)
  | help
  | version
  | misuse

abbrev Given := List (Name × String)

def defaultConfig : String := "permissions-migration.toml"

/-- What has been read: the command, the options after it, or before it if there is none yet, and
the options before the command. -/
structure Progress where
  command : Option Command
  given : Given
  before : Given

namespace Progress

/-- An option is given at most once. -/
def give (p : Progress) (n : Name) (v : String) : Option Progress :=
  if (p.given.lookup n).isSome || !accepts n v then none
  else some { p with given := (n, v) :: p.given }

def overrides (given : Given) : Overrides where
  tables := given.lookup .tables
  principals := given.lookup .principals
  rangerDump := given.lookup .rangerDump
  hdfsDump := given.lookup .hdfsDump
  permissionsRuleset := given.lookup .permissionsRuleset
  outputPermissions := given.lookup .outputPermissions
  principalRuleset := given.lookup .principalRuleset
  outputPrincipals := given.lookup .outputPrincipals
  timeoutSeconds := (given.lookup .timeout).bind seconds?

/-- The request, once all arguments have been read. -/
def request (p : Progress) : Request :=
  match p.command with
  | none => .misuse
  | some c =>
    let config := (p.given.lookup .config <|> p.before.lookup .config).getD defaultConfig
    .run c config (overrides p.given)

/-- The request that the remaining arguments complete. -/
def read (p : Progress) : List String → Request
  | [] => p.request
  | a :: rest => match argument p.command a with
    | .command c => read ⟨some c, [], p.given⟩ rest
    | .option n v => match p.give n v with
      | some p => read p rest
      | none => .misuse
    | .optionBefore n => match rest with
      | v :: rest => if isOptionLike v then .misuse else match p.give n v with
        | some p => read p rest
        | none => .misuse
      | [] => .misuse
    | .help => .help
    | .version => .version
    | .helpCommand =>
      if rest = [] ∨ rest = ["build"] ∨ rest = ["expand"] ∨ rest = ["help"] then .help else .misuse
    | .endOfOptions => if rest.isEmpty then p.request else .misuse
    | .unknown => .misuse

end Progress

def parse (args : List String) : Request := Progress.read ⟨none, [], []⟩ args

/-! ### Running -/

def versionText : String := "permissions-migration 0.1.0\n"

/-- How the program ends. -/
structure Ending where
  exit : Nat
  output : String
  notices : List Notice
  failure : Option Failure
  tree : FileTree

def ending {α : Type} (x : Run α × FileTree) : Ending :=
  match x.1.outcome with
  | .ok _ => ⟨0, "", x.1.notices, none, x.2⟩
  | .error e => ⟨1, "", x.1.notices, some e, x.2⟩

/-- Do what the arguments ask for.  Misuse ends with code 2, a failure with code 1. -/
def run (t : FileTree) (env : List (String × String)) (args : List String) : Ending :=
  match parse args with
  | .help => ⟨0, "", [], none, t⟩
  | .version => ⟨0, versionText, [], none, t⟩
  | .misuse => ⟨2, "", [], none, t⟩
  | .run c config overrides => match Settings.load t config env overrides with
    | .error e => ⟨1, "", [], some e, t⟩
    | .ok s => match c with
      | .build => ending (Build.run t s)
      | .expand => ending (Expand.run t s)

end Regrant.CommandLine
