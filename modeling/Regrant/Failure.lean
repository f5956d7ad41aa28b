import Regrant.Expr.Fault

/-!
# Failures

Everything that can go wrong, by cause.  A fatal failure is one of the configuration: it aborts
the whole command.  Any other is confined to the source or mapper that met it.
-/

namespace Regrant

inductive RuleFault where
  | skipAndMap (index : Nat)
  | ambiguousField (index : Nat) (field : String)
  | other (text : String)
deriving DecidableEq

namespace RuleFault

def message : RuleFault → String
  | skipAndMap index => "rule #" ++ toString index ++ " declares both `skip` and `map`"
  | ambiguousField index field =>
    "rule #" ++ toString index ++ " field `" ++ field
      ++ "` needs exactly one of `expression` or `value`"
  | other text => text

end RuleFault

inductive ConfigFault where
  | noPermissionMappers
  | noPrincipalMappers
  | timeoutNotPositive
  | unknownPrincipalKind (system key : String)
  | other (text : String)
deriving DecidableEq

namespace ConfigFault

def message : ConfigFault → String
  | noPermissionMappers => "no permission mappers configured"
  | noPrincipalMappers => "the principal ruleset configures no principal mappers"
  | timeoutNotPositive => "run.timeout_seconds must be positive"
  | unknownPrincipalKind system key =>
    "unknown " ++ system ++ " principal kind `" ++ key ++ "`"
  | other text => text

end ConfigFault

/-- What is wrong with a record that was read. -/
inductive RecordFault where
  | invalidTargetName
  | noSourceLocation
  /-- The record has another shape than the one asked for. -/
  | shape
deriving DecidableEq

inductive Failure where
  | unreadable (path : String)
  | unwritable (path : String)
  | malformed (path : String) (fault : RecordFault)
  | invalidExpression (fault : SyntaxFault)
  | undefinedVariable (name source : String)
  | invalidRule (fault : RuleFault)
  | evaluation (fault : EvalFault)
  | noRuleMatch (source : String)
  | danglingPrincipal (plugin policy kind name : String)
  | duplicatePrincipal (key : String)
  | invalidConfig (fault : ConfigFault)
  /-- The settings cannot be read. -/
  | config
  | timeout (seconds : Nat)
  | io
  | json
  | yaml
  | csv

namespace Failure

/-- A fatal failure aborts the command. -/
def fatal : Failure → Bool
  | invalidExpression _ => true
  | undefinedVariable _ _ => true
  | invalidRule _ => true
  | danglingPrincipal _ _ _ _ => true
  | duplicatePrincipal _ => true
  | invalidConfig _ => true
  | config => true
  | timeout _ => true
  | _ => false

/-- The text of a failure, where it is not that of a reader of some format. -/
def message? : Failure → Option String
  | unreadable path => some ("Failed to read `" ++ path ++ "`")
  | unwritable path => some ("Failed to write `" ++ path ++ "`")
  | malformed path fault =>
    let failed := "Failed to parse `" ++ path ++ "`"
    some (match fault with
      | .invalidTargetName =>
        failed ++ ": target name is not of the form project.dataset.table"
      | .noSourceLocation => failed ++ ": table has no source location"
      | .shape => failed)
  | invalidExpression fault => some ("Invalid rule expression: " ++ fault.message)
  | undefinedVariable name source =>
    some ("Undefined variable `" ++ name ++ "` in expression `" ++ source ++ "`")
  | invalidRule fault => some ("Invalid rule: " ++ fault.message)
  | evaluation fault => some ("Rule evaluation failed: " ++ fault.message)
  | noRuleMatch source => some ("No rule matches " ++ source ++ " item")
  | danglingPrincipal plugin policy kind name =>
    some ("Ranger " ++ plugin ++ " policy '" ++ policy
      ++ "' refers to an invalid Ranger principal " ++ kind ++ " '" ++ name ++ "'")
  | duplicatePrincipal key =>
    some ("Source identity `" ++ key ++ "` is claimed by more than one principal")
  | invalidConfig fault => some ("Invalid configuration: " ++ fault.message)
  | timeout seconds => some ("Build timed out after " ++ toString seconds ++ " seconds")
  | _ => none

end Failure

end Regrant
