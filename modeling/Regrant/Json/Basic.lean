import Regrant.Number.Decimal
import Regrant.Number.Width
import Regrant.SortedMap

/-!
# JSON values

A number is an exact integer or a binary64 number, and the two never coincide: `1` and `1.0` are
different values and print differently.  The fields of an object are kept in the order in which
they are to be written; `Json.record` puts them in key order, which is the order of every value
that rules can see.
-/

namespace Regrant

/-- An exact integer, or a finite binary64 number. -/
inductive Number where
  | int (n : Int)
  | float (x : Binary64)
deriving DecidableEq, Inhabited

inductive Json where
  | null
  | bool (b : Bool)
  | number (n : Number)
  | text (s : String)
  | list (items : List Json)
  | object (fields : List (String × Json))
deriving Inhabited

/-- The fields of an object in key order. -/
abbrev Fields := SortedMap String Json

namespace Number

/-- The same kind of number, and equal. -/
def same : Number → Number → Bool
  | .int m, .int n => m = n
  | .float x, .float y => x.numericEq y
  | _, _ => false

/-- The nearest binary64 number.  Integers of 64 bits are always in range. -/
def toBinary64 : Number → Binary64
  | .int n => (Binary64.ofInt n).getD (.zero false)
  | .float x => x

/-- A number that is a signed 64-bit integer. -/
def toInt64? : Number → Option Int
  | .int n => if FitsInt64 n then some n else none
  | .float _ => none

/-- Positional from `1e-5` up to `1e16`, whole numbers with `.0`, a positive exponent with `+`. -/
def layout : DecimalLayout := ⟨-5, 15, true, true⟩

def render : Number → String
  | .int n => toString n
  | .float x => layout.text x

end Number

namespace Json

mutual
/-- The same value: numbers of the same kind that are equal, objects with the same fields. -/
def same : Json → Json → Bool
  | .null, .null => true
  | .bool a, .bool b => a == b
  | .number m, .number n => m.same n
  | .text s, .text t => s == t
  | .list xs, .list ys => sameList xs ys
  | .object fs, .object gs => sameFields fs gs
  | _, _ => false
def sameList : List Json → List Json → Bool
  | [], [] => true
  | x :: xs, y :: ys => same x y && sameList xs ys
  | _, _ => false
def sameFields : List (String × Json) → List (String × Json) → Bool
  | [], [] => true
  | (k, x) :: fs, (l, y) :: gs => k == l && same x y && sameFields fs gs
  | _, _ => false
end

/-- The object with these fields, in key order. -/
def record (fields : Fields) : Json := .object fields.entries

/-- The object that a list of fields describes; of two fields with one key the later counts. -/
def ofFields (fields : List (String × Json)) : Json := record (.ofList fields)

def int (n : Int) : Json := .number (.int n)

def texts (l : List String) : Json := .list (l.map .text)

def ofOption {α : Type} (f : α → Json) : Option α → Json
  | none => .null
  | some a => f a

/-- The value of the first field called `key`; anything but an object has no fields. -/
def field? (j : Json) (key : String) : Option Json :=
  match j with
  | .object fields => SortedMap.lookup key fields
  | _ => none

mutual
/-- Every object in key order, at any depth. -/
def sortKeys : Json → Json
  | .list items => .list (sortKeysList items)
  | .object fields => ofFields (sortKeysFields fields)
  | j => j
def sortKeysList : List Json → List Json
  | [] => []
  | x :: xs => sortKeys x :: sortKeysList xs
def sortKeysFields : List (String × Json) → List (String × Json)
  | [] => []
  | (k, x) :: fs => (k, sortKeys x) :: sortKeysFields fs
end

/-! ### Text -/

/-- A character between quotes: quotes, backslashes and control characters are escaped. -/
def escapeChar (c : Char) : List Char :=
  if c = '"' then ['\\', '"']
  else if c = '\\' then ['\\', '\\']
  else if c = '\x08' then ['\\', 'b']
  else if c = '\x0c' then ['\\', 'f']
  else if c = '\n' then ['\\', 'n']
  else if c = '\r' then ['\\', 'r']
  else if c = '\t' then ['\\', 't']
  else if c.toNat < 0x20 then
    '\\' :: 'u' :: '0' :: '0' :: [Nat.digitChar (c.toNat / 16), Nat.digitChar (c.toNat % 16)]
  else [c]

def quoted (s : String) : String :=
  String.ofList ('"' :: (s.toList.flatMap escapeChar ++ ['"']))

mutual
/-- Compact text: no blanks, fields in the order they are kept. -/
def render : Json → String
  | .null => "null"
  | .bool b => if b then "true" else "false"
  | .number n => n.render
  | .text s => quoted s
  | .list items => "[" ++ String.intercalate "," (renderList items) ++ "]"
  | .object fields => "\x7b" ++ String.intercalate "," (renderFields fields) ++ "\x7d"
def renderList : List Json → List String
  | [] => []
  | x :: xs => render x :: renderList xs
def renderFields : List (String × Json) → List String
  | [] => []
  | (k, x) :: fs => (quoted k ++ ":" ++ render x) :: renderFields fs
end

def margin (depth : Nat) : String := "\n" ++ String.ofList (List.replicate (2 * depth) ' ')

mutual
/-- Text indented by two blanks a level; empty lists and objects stay closed. -/
def renderIndented (depth : Nat) : Json → String
  | .list (x :: xs) =>
    "[" ++ margin (depth + 1) ++
      String.intercalate ("," ++ margin (depth + 1)) (renderIndentedList (depth + 1) (x :: xs)) ++
      margin depth ++ "]"
  | .object (f :: fs) =>
    "\x7b" ++ margin (depth + 1) ++
      String.intercalate ("," ++ margin (depth + 1)) (renderIndentedFields (depth + 1) (f :: fs)) ++
      margin depth ++ "\x7d"
  | j => render j
def renderIndentedList (depth : Nat) : List Json → List String
  | [] => []
  | x :: xs => renderIndented depth x :: renderIndentedList depth xs
def renderIndentedFields (depth : Nat) : List (String × Json) → List String
  | [] => []
  | (k, x) :: fs => (quoted k ++ ": " ++ renderIndented depth x) :: renderIndentedFields depth fs
end

end Json

end Regrant
