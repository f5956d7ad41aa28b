import Regrant.Expr.Fault
import Regrant.Regex.Parse

/-!
# The value of an expression

Expressions are evaluated over the fields of one JSON value, the facts.  A path that leads nowhere
is null, and functions of text are false on null, so rules can test fields that may be missing.

Equality of two numbers is numeric, exact where both are signed 64-bit integers.  Inside of lists
and objects a number equals only a number of the same kind.
-/

namespace Regrant

namespace Json

/-- The equality that expressions test. -/
def looselyEqual (x y : Json) : Bool :=
  match x, y with
  | .number m, .number n => match m.toInt64?, n.toInt64? with
    | some a, some b => a = b
    | _, _ => m.toBinary64.numericEq n.toBinary64
  | x, y => x.same y

/-- The order of two numbers or two texts. -/
def order? : Json → Json → Option Ordering
  | .number m, .number n => some (m.toBinary64.numericCompare n.toBinary64)
  | .text s, .text t => some (compare s t)
  | _, _ => none

/-- A number that is too large is null. -/
def ofFloat? : Option Binary64 → Json
  | some x => .number (.float x)
  | none => .null

/-- The field `name`, or null. -/
def get (j : Json) (name : String) : Json := (j.field? name).getD .null

end Json

namespace Expr

/-- A rounded sum, exact where both are signed 64-bit integers. -/
def addNumbers (m n : Number) : Except EvalFault Json :=
  match m.toInt64?, n.toInt64? with
  | some a, some b =>
    if FitsInt64 (a + b) then .ok (.int (a + b)) else .error .overflow
  | _, _ => .ok (Json.ofFloat? (m.toBinary64.add n.toBinary64))

def add : Json → Json → Except EvalFault Json
  | .number m, .number n => addNumbers m n
  | .text s, .text t => .ok (.text (s ++ t))
  | .text s, .number n => .ok (.text (s ++ n.render))
  | .text s, .bool b => .ok (.text (s ++ (Json.bool b).render))
  | .number n, .text t => .ok (.text (n.render ++ t))
  | .bool b, .text t => .ok (.text ((Json.bool b).render ++ t))
  | _, _ => .error .notAddable

def size : Json → Except EvalFault Json
  | .text s => .ok (.int s.length)
  | .list items => .ok (.int items.length)
  | .object fields => .ok (.int fields.length)
  | .null => .ok (.int 0)
  | _ => .error .noSize

/-- Lower or upper case. -/
def recase (f : String → String) : Json → Except EvalFault Json
  | .text s => .ok (.text (f s))
  | .null => .ok .null
  | _ => .error .noCase

/-- Null is in nothing, a text in the lists that hold it, the objects with such a field and the
texts with such a part. -/
def memberOf (element : Json) : Json → Except EvalFault Json
  | .list items => .ok (.bool (items.any (fun item => item.looselyEqual element)))
  | .object fields => .ok (.bool (match element with
    | .text s => (SortedMap.lookup s fields).isSome
    | _ => false))
  | .text haystack => .ok (.bool (match element with
    | .text s => Text.contains haystack s
    | _ => false))
  | .null => .ok (.bool false)
  | _ => .error .memberOfScalar

/-- What a function of two texts says of them. -/
def testText (f : Function) (s arg : String) : Except EvalFault Json :=
  match f with
  | .startsWith => .ok (.bool (Text.startsWith s arg))
  | .endsWith => .ok (.bool (Text.endsWith s arg))
  | .contains => .ok (.bool (Text.contains s arg))
  | _ => match Regex.parse? arg with
    | some r => .ok (.bool (r.search s.toList))
    | none => .error (.invalidPattern arg)

/-- A function of two texts; it is false of null. -/
def testTexts (f : Function) (subject arg : Json) : Except EvalFault Json :=
  match subject with
  | .text s => match arg with
    | .text t => testText f s t
    | _ => .error (.argumentNotText f)
  | .null => .ok (.bool false)
  | _ => .error (.subjectNotText f)

/-- The value of a call whose arguments have been evaluated. -/
def apply (f : Function) (args : List Json) : Except EvalFault Json :=
  match f, args with
  | .size, [x] => size x
  | .lower, [x] => recase Unicode.lower x
  | .upper, [x] => recase Unicode.upper x
  | .contains, [.list items, x] => .ok (.bool (items.any (fun item => item.looselyEqual x)))
  | .contains, [x, y] => testTexts .contains x y
  | .startsWith, [x, y] => testTexts .startsWith x y
  | .endsWith, [x, y] => testTexts .endsWith x y
  | .matching, [x, y] => testTexts .matching x y
  | f, _ => .error (.wrongArity f)

/-- Whether an order of two values satisfies a comparing operator. -/
def ordered (op : BinaryOp) (o : Ordering) : Bool :=
  match op with
  | .gt => o == .gt
  | .lt => o == .lt
  | .ge => o != .lt
  | _ => o != .gt

/-- The value of an operator other than the connectives. -/
def applyOp (op : BinaryOp) (x y : Json) : Except EvalFault Json :=
  match op with
  | .eq => .ok (.bool (x.looselyEqual y))
  | .ne => .ok (.bool (!x.looselyEqual y))
  | .add => add x y
  | op => match x.order? y with
    | some o => .ok (.bool (ordered op o))
    | none => .error .incomparable

def ofLiteral : Literal → Json
  | .int n => .int n
  | .float x => Json.ofFloat? x
  | .text s => .text s
  | .bool b => .bool b
  | .null => .null

mutual
/-- The value of an expression over the given facts.  The connectives look at their right side only
if the left one does not decide. -/
def eval (facts : Json) : Expr → Except EvalFault Json
  | .literal l => .ok (ofLiteral l)
  | .path root fields => .ok (fields.foldl Json.get (facts.get root))
  | .list items => match evalAll facts items with
    | .ok values => .ok (.list values)
    | .error e => .error e
  | .not e => match eval facts e with
    | .ok (.bool b) => .ok (.bool !b)
    | .ok _ => .error .notOfOther
    | .error e => .error e
  | .member element collection => match eval facts element with
    | .ok x => match eval facts collection with
      | .ok c => memberOf x c
      | .error e => .error e
    | .error e => .error e
  | .conditional condition whenTrue whenFalse => match eval facts condition with
    | .ok (.bool true) => eval facts whenTrue
    | .ok (.bool false) => eval facts whenFalse
    | .ok _ => .error .conditionNotBool
    | .error e => .error e
  | .binary .and left right => match eval facts left with
    | .ok (.bool true) => match eval facts right with
      | .ok (.bool b) => .ok (.bool b)
      | .ok _ => .error .connectiveNotBool
      | .error e => .error e
    | .ok (.bool false) => .ok (.bool false)
    | .ok _ => .error .connectiveNotBool
    | .error e => .error e
  | .binary .or left right => match eval facts left with
    | .ok (.bool true) => .ok (.bool true)
    | .ok (.bool false) => match eval facts right with
      | .ok (.bool b) => .ok (.bool b)
      | .ok _ => .error .connectiveNotBool
      | .error e => .error e
    | .ok _ => .error .connectiveNotBool
    | .error e => .error e
  | .binary op left right => match eval facts left with
    | .ok x => match eval facts right with
      | .ok y => applyOp op x y
      | .error e => .error e
    | .error e => .error e
  | .call f args => match evalAll facts args with
    | .ok values => apply f values
    | .error e => .error e
/-- The values of expressions, up to the first that has none. -/
def evalAll (facts : Json) : List Expr → Except EvalFault (List Json)
  | [] => .ok []
  | e :: es => match eval facts e with
    | .ok x => match evalAll facts es with
      | .ok xs => .ok (x :: xs)
      | .error e => .error e
    | .error e => .error e
end

end Expr

end Regrant
