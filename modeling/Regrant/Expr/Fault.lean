import Regrant.Expr.Basic
import Regrant.Expr.Token
import Regrant.Json.Basic

/-!
# What can be wrong with an expression

`SyntaxFault` is why a text is no expression, and `EvalFault` why an expression has no value.
-/

namespace Regrant

inductive SyntaxFault where
  | unexpectedCharacter (c : Char)
  | unterminatedText
  | invalidFloat (digits : String)
  | invalidInteger (digits : String)
  | empty
  | missingColon
  | missingCloseParen
  | missingFieldName
  | fieldOfValue (name : String)
  | unclosedArguments (close : Token)
  /-- A token that starts no expression, or the end of the text. -/
  | unexpectedToken (t : Option Token)
  | unknownFunction (name : String)
  | wrongArity (name : String) (expected given : Nat)
  | trailingToken (t : Token)
  | invalidPattern (pattern : String)
  | other (text : String)
deriving DecidableEq

namespace SyntaxFault

def message : SyntaxFault → String
  | unexpectedCharacter c => "unexpected character `" ++ c.toString ++ "`"
  | unterminatedText => "unterminated string literal"
  | invalidFloat digits => "invalid float `" ++ digits ++ "`"
  | invalidInteger digits => "invalid integer `" ++ digits ++ "`"
  | empty => "empty expression"
  | missingColon => "expected `:` in conditional expression"
  | missingCloseParen => "expected closing parenthesis `)`"
  | missingFieldName => "expected identifier after `.`"
  | fieldOfValue name => "field access `." ++ name ++ "` is only supported on variables"
  | unclosedArguments close => "expected `,` or " ++ close.shown
  | unexpectedToken none => "unexpected token: None"
  | unexpectedToken (some t) => "unexpected token: Some(" ++ t.shown ++ ")"
  | unknownFunction name => "unknown function `" ++ name ++ "`"
  | wrongArity name expected given =>
    "`" ++ name ++ "` takes " ++ toString expected ++ " argument(s), got " ++ toString given
  | trailingToken t => "unexpected trailing token: " ++ t.shown
  | invalidPattern pattern => "invalid regex `" ++ pattern ++ "`"
  | other text => text

end SyntaxFault

inductive EvalFault where
  | notOfOther
  | memberOfScalar
  | conditionNotBool
  | connectiveNotBool
  | incomparable
  | overflow
  | notAddable
  | noSize
  | noCase
  | subjectNotText (f : Function)
  | argumentNotText (f : Function)
  | invalidPattern (pattern : String)
  /-- A call with another number of arguments than its function has; no expression that was read
  from text holds one. -/
  | wrongArity (f : Function)
  | notBool (source : String) (value : Json)
  | defaultReserved (key : String)
  | outputReserved (key : String)
  | invalidPrincipal (record name : String)
  | incompletePrincipal (record name : String)
  | other (text : String)

namespace EvalFault

def message : EvalFault → String
  | notOfOther => "`!` operator requires a boolean operand"
  | memberOfScalar => "`in` operator requires a list, object or string on the right side"
  | conditionNotBool => "`?:` condition must be a boolean"
  | connectiveNotBool => "`&&` and `||` require boolean operands"
  | incomparable => "comparison operator requires two numbers or two strings"
  | overflow => "integer overflow in `+`"
  | notAddable => "`+` requires numbers or strings"
  | noSize => "`size` requires a string, list or object"
  | noCase => "`lower` and `upper` require a string"
  | subjectNotText f => "`" ++ f.shown ++ "` requires a string subject"
  | argumentNotText f => "`" ++ f.shown ++ "` requires a string argument"
  | invalidPattern pattern => "invalid regex `" ++ pattern ++ "`"
  | wrongArity f => "`" ++ f.shown ++ "` called with the wrong number of arguments"
  | notBool source value =>
    "`" ++ source ++ "` must evaluate to a boolean, got " ++ value.render
  | defaultReserved key => "default key '" ++ key ++ "' collides with a reserved key"
  | outputReserved key => "Output key '" ++ key ++ "' is reserved"
  | invalidPrincipal record name => record ++ " '" ++ name ++ "' mapped to an invalid principal"
  | incompletePrincipal record name =>
    record ++ " '" ++ name ++ "' mapped without both `email_address` and `type`"
  | other text => text

end EvalFault

end Regrant
