import Regrant.Number.Binary64

/-!
# Expressions

The trees that rule conditions and computed fields are read as.
-/

namespace Regrant

inductive Literal where
  | int (n : Int)
  /-- `none` is a number beyond the largest finite one. -/
  | float (x : Option Binary64)
  | text (s : String)
  | bool (b : Bool)
  | null
deriving DecidableEq

inductive BinaryOp where
  | eq | ne | gt | lt | ge | le | and | or | add
deriving DecidableEq

inductive Function where
  | matching | startsWith | endsWith | contains | size | lower | upper
deriving DecidableEq

namespace Function

/-- The function that expressions call by this name. -/
def ofName? : String → Option Function
  | "matches" => some matching
  | "startsWith" => some startsWith
  | "endsWith" => some endsWith
  | "contains" => some contains
  | "size" => some size
  | "lower" => some lower
  | "upper" => some upper
  | _ => none

/-- The form in which messages show a function. -/
def shown : Function → String
  | matching => "Matches"
  | startsWith => "StartsWith"
  | endsWith => "EndsWith"
  | contains => "Contains"
  | size => "Size"
  | lower => "Lower"
  | upper => "Upper"

/-- How many arguments a call has, the subject of `x.f(y)` included. -/
def arity : Function → Nat
  | size => 1
  | lower => 1
  | upper => 1
  | _ => 2

end Function

inductive Expr where
  | literal (l : Literal)
  /-- A variable and the fields below it that are followed. -/
  | path (root : String) (fields : List String)
  | list (items : List Expr)
  | binary (op : BinaryOp) (left right : Expr)
  | not (e : Expr)
  /-- `element in collection` -/
  | member (element collection : Expr)
  | conditional (condition whenTrue whenFalse : Expr)
  | call (f : Function) (args : List Expr)

end Regrant
