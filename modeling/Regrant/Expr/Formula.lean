import Regrant.Expr.Eval
import Regrant.Expr.Parse
import Regrant.Failure

/-!
# Formulas

A formula is an expression that has been checked against the variables it may refer to: the root
of every path is one of them, and every pattern that is written out is a regular expression.
-/

namespace Regrant

namespace Expr

/-- Why an expression is not a formula over some variables. -/
inductive CheckFault where
  | undefined (name : String)
  | invalidPattern (pattern : String)

/-- A pattern that is written out has to be a regular expression. -/
def checkPattern : Function → List Expr → Except CheckFault Unit
  | .matching, _ :: .literal (.text pattern) :: _ =>
    if (Regex.parse? pattern).isSome then .ok () else .error (.invalidPattern pattern)
  | _, _ => .ok ()

mutual
/-- Check an expression from left to right; a pattern comes before its call's arguments. -/
def check (scope : List String) : Expr → Except CheckFault Unit
  | .literal _ => .ok ()
  | .path root _ => if root ∈ scope then .ok () else .error (.undefined root)
  | .list items => checkAll scope items
  | .binary _ left right => do
    check scope left
    check scope right
  | .not e => check scope e
  | .member element collection => do
    check scope element
    check scope collection
  | .conditional condition whenTrue whenFalse => do
    check scope condition
    check scope whenTrue
    check scope whenFalse
  | .call f args => do
    checkPattern f args
    checkAll scope args
def checkAll (scope : List String) : List Expr → Except CheckFault Unit
  | [] => .ok ()
  | e :: es => do
    check scope e
    checkAll scope es
end

end Expr

structure Formula where
  source : String
  expr : Expr

namespace Formula

/-- The formula that a text spells over some variables. -/
def ofSource (scope : List String) (source : String) : Except Failure Formula :=
  match Expr.parse source with
  | .error fault => .error (.invalidExpression fault)
  | .ok e => match e.check scope with
    | .ok () => .ok ⟨source, e⟩
    | .error (.undefined name) => .error (.undefinedVariable name source)
    | .error (.invalidPattern pattern) => .error (.invalidExpression (.invalidPattern pattern))

def value (f : Formula) (facts : Json) : Except Failure Json :=
  (f.expr.eval facts).mapError .evaluation

/-- The value of a formula that has to be true or false. -/
def holds (f : Formula) (facts : Json) : Except Failure Bool :=
  match f.value facts with
  | .ok (.bool b) => .ok b
  | .ok other => .error (.evaluation (.notBool f.source other))
  | .error e => .error e

end Formula

end Regrant
