/-!
# Sets of code points

A set is an array of ranges in ascending order, and membership is a binary search.  A range may
hold every second code point only, as many ranges of cased letters do.

The tables of this folder are written as text: hexadecimal ranges between blanks, `41-5A`, `AA`, or
`100-136/2` for every second code point.
-/

namespace Regrant.Unicode

def hexDigit (c : Char) : Nat :=
  if c ≤ '9' then c.toNat - '0'.toNat else c.toNat - 'A'.toNat + 10

/-- The number that upper-case hexadecimal digits spell. -/
def hexadecimal (s : String) : Nat := s.toList.foldl (fun n c => 16 * n + hexDigit c) 0

/-- What stands between blanks and line breaks. -/
def wordsOf (text : String) : List String :=
  (text.toList.splitOnP (fun c => c = ' ' || c = '\n')).filterMap
    (fun w => if w.isEmpty then none else some (String.ofList w))

/-- `first`, `first + stride` and so on up to `last`. -/
structure CodePointRange where
  first : Nat
  last : Nat
  stride : Nat

namespace CodePointRange

def contains (r : CodePointRange) (n : Nat) : Bool :=
  r.first ≤ n && n ≤ r.last && (n - r.first) % r.stride == 0

def ofWord (w : String) : CodePointRange :=
  let (range, stride) := match w.splitOn "/" with
    | [range, stride] => (range, hexadecimal stride)
    | _ => (w, 1)
  match range.splitOn "-" with
  | [first, last] => ⟨hexadecimal first, hexadecimal last, stride⟩
  | _ => ⟨hexadecimal range, hexadecimal range, stride⟩

end CodePointRange

/-- Ranges in ascending order. -/
structure CodePoints where
  ranges : Array CodePointRange

namespace CodePoints

def ofText (text : String) : CodePoints :=
  ⟨((wordsOf text).map CodePointRange.ofWord).toArray⟩

/-- Search the ranges from `low` up to but not including `high`. -/
def search (ranges : Array CodePointRange) (n low high : Nat) : Bool :=
  if low < high then
    let middle := (low + high) / 2
    match ranges[middle]? with
    | some r =>
      if n < r.first then search ranges n low middle
      else if r.last < n then search ranges n (middle + 1) high
      else r.contains n
    | none => false
  else false
termination_by high - low

def contains (s : CodePoints) (c : Char) : Bool := search s.ranges c.toNat 0 s.ranges.size

end CodePoints

end Regrant.Unicode
