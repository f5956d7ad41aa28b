import Regrant.Number.Decimal
import Regrant.Text

/-!
# Tokens of the expression language

What an expression is made of once blanks are gone, and the form in which messages show it.
-/

namespace Regrant

inductive Token where
  | ident (name : String)
  | int (n : Int)
  /-- A number with a fraction; `none` if it is beyond the largest finite one. -/
  | float (x : Option Binary64)
  | text (s : String)
  | true | false | null
  | dot | comma | openParen | closeParen | openBracket | closeBracket
  | eq | ne | gt | lt | ge | le
  | and | or | not | isIn | plus | question | colon
deriving DecidableEq

namespace Token

/-- Positional from `1e-4` up to `1e16`, and no sign before a positive exponent. -/
def floatLayout : DecimalLayout := ⟨-4, 15, Bool.true, Bool.false⟩

/-- The form in which messages show a token. -/
def shown : Token → String
  | ident name => "Ident(" ++ Text.quote name ++ ")"
  | int n => "Int(" ++ toString n ++ ")"
  | float (some x) => "Float(" ++ floatLayout.text x ++ ")"
  | float none => "Float(inf)"
  | text s => "Str(" ++ Text.quote s ++ ")"
  | true => "True"
  | false => "False"
  | null => "Null"
  | dot => "Dot"
  | comma => "Comma"
  | openParen => "LParen"
  | closeParen => "RParen"
  | openBracket => "LBracket"
  | closeBracket => "RBracket"
  | eq => "Eq"
  | ne => "Ne"
  | gt => "Gt"
  | lt => "Lt"
  | ge => "Ge"
  | le => "Le"
  | and => "And"
  | or => "Or"
  | not => "Not"
  | isIn => "In"
  | plus => "Plus"
  | question => "Question"
  | colon => "Colon"

end Token

end Regrant
