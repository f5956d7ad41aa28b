import Regrant.Number.Binary64

/-!
# Decimal text of numbers

`Decimal.shortest` finds the fewest digits that read back as a given binary64 number and, among
those, the nearest.  It works in exact arithmetic: a decimal with `p` digits reads back as `x` if
it lies in the interval of reals that round to `x`, and if any does, one of the two neighbours of
`x` on the grid of `p` digits does.

A `DecimalLayout` says how such digits are set: where positional notation ends, whether a whole
number keeps a fraction, whether a positive exponent carries a sign.
-/

namespace Regrant

/-- `digits * 10 ^ exponent`. -/
structure Decimal where
  digits : Nat
  exponent : Int
deriving DecidableEq, Repr

namespace Decimal

/-- The number of decimal digits of a positive number. -/
def width (n : Nat) : Nat := (Nat.toDigits 10 n).length

/-- Without trailing zeros. -/
def strip (digits : Nat) (exponent : Int) : Decimal :=
  if h : digits ≠ 0 ∧ digits % 10 = 0 then strip (digits / 10) (exponent + 1)
  else ⟨digits, exponent⟩
termination_by digits
decreasing_by omega

/-- Four times the distances from `units` down and up to the numbers halfway to its neighbours. -/
def halfGaps (units : Nat) : Nat × Nat :=
  let spacing := 1 <<< (units.log2 - 52)
  (if 1 < spacing ∧ units = 1 <<< units.log2 then spacing else 2 * spacing, 2 * spacing)

/-- The decimal `c * 10 ^ e` reads back as `units`. -/
def readsBack (units : Nat) (e : Int) (c : Nat) : Bool :=
  let (below, above) := halfGaps units
  let scale := Nat.pow 10 (-e).toNat
  let point := 4 * (c * Nat.pow 10 e.toNat * Binary64.one)
  let low := (4 * units - below) * scale
  let high := (4 * units + above) * scale
  if units >>> (units.log2 - 52) % 2 = 0 then low ≤ point && point ≤ high
  else low < point && point < high

/-- The neighbour of `units` on the grid of `10 ^ e` that reads back as it. -/
def onGrid (units : Nat) (e : Int) : Option Nat :=
  let num := units * Nat.pow 10 (-e).toNat
  let den := Nat.pow 10 e.toNat * Binary64.one
  let c := num / den
  match readsBack units e c, readsBack units e (c + 1) with
  | true, true => some (Binary64.nearestMultiple num den)
  | true, false => some c
  | false, true => some (c + 1)
  | false, false => none

/-- The least `k` with `units` below `10 ^ k`, for `units` other than zero. -/
def magnitude (units : Nat) : Int :=
  let k := ((units.log2 : Int) - 1074) * 30103 / 100000
  if units * Nat.pow 10 (-k).toNat < Nat.pow 10 k.toNat * Binary64.one then k
  else if units * Nat.pow 10 (-(k + 1)).toNat < Nat.pow 10 (k + 1).toNat * Binary64.one then k + 1
  else k + 2

/-- The fewest digits that read back as `x`, and the nearest of those. -/
def shortest (x : Binary64) : Decimal :=
  if x.units = 0 then ⟨0, 0⟩
  else
    let k := magnitude x.units
    let grids := (List.range 17).map (fun p => k - (p + 1 : Nat))
    match grids.findSome? (fun e => (onGrid x.units e).map (fun c => (c, e))) with
    | some (c, e) => strip c e
    | none => ⟨0, 0⟩

end Decimal

/-- How decimal digits are set. -/
structure DecimalLayout where
  /-- The least exponent of the leading digit that is written positionally. -/
  lowest : Int
  /-- The greatest one. -/
  highest : Int
  /-- A whole number is followed by `.0`. -/
  fraction : Bool
  /-- A positive exponent is written with `+`. -/
  plus : Bool

namespace DecimalLayout

/-- A mantissa with its point after the first digit. -/
def mantissa : List Char → List Char
  | [] => []
  | [d] => [d]
  | d :: rest => d :: '.' :: rest

/-- The digits `ds` with the point after `point` of them, padded with zeros. -/
def positional (fraction : Bool) (ds : List Char) (point : Int) : List Char :=
  match point with
  | .ofNat (n + 1) =>
    let whole := ds.take (n + 1) ++ List.replicate (n + 1 - ds.length) '0'
    match ds.drop (n + 1) with
    | [] => if fraction then whole ++ ['.', '0'] else whole
    | rest => whole ++ '.' :: rest
  | .ofNat 0 => '0' :: '.' :: ds
  | .negSucc n => '0' :: '.' :: (List.replicate (n + 1) '0' ++ ds)

def text (layout : DecimalLayout) (x : Binary64) : String :=
  let d := Decimal.shortest x
  let ds := Nat.toDigits 10 d.digits
  let lead := d.exponent + (ds.length : Int) - 1
  let body :=
    if d.digits = 0 then positional layout.fraction ['0'] 1
    else if layout.lowest ≤ lead ∧ lead ≤ layout.highest then
      positional layout.fraction ds (lead + 1)
    else
      let sign := if lead < 0 then ['-'] else if layout.plus then ['+'] else []
      mantissa ds ++ 'e' :: (sign ++ Nat.toDigits 10 lead.natAbs)
  String.ofList (if x.negative then '-' :: body else body)

end DecimalLayout

/-! ### Reading digits -/

def digitValue (c : Char) : Nat := c.toNat - '0'.toNat

/-- The number that a run of decimal digits spells. -/
def natOfDigits (ds : List Char) : Nat := ds.foldl (fun n c => 10 * n + digitValue c) 0

/-- A run of decimal digits, without sign, as a number. -/
def natOfDigits? (ds : List Char) : Option Nat :=
  if ds ≠ [] ∧ ds.all Char.isDigit then some (natOfDigits ds) else none

/-- Decimal digits with an optional sign in front. -/
def intOfDigits? : List Char → Option Int
  | '-' :: ds => (natOfDigits? ds).map (fun n => - (n : Int))
  | '+' :: ds => (natOfDigits? ds).map Int.ofNat
  | ds => (natOfDigits? ds).map Int.ofNat

/-- The outcome of reading text as a binary64 number. -/
inductive FloatReading where
  | finite (x : Binary64)
  | infinite (negative : Bool)
  | notANumber
deriving DecidableEq

/-- Digits with an optional fraction and exponent, correctly rounded: `1`, `.5`, `2.`, `1.5e-7`. -/
def readUnsigned (negative : Bool) (cs : List Char) : Option FloatReading :=
  let whole := cs.takeWhile Char.isDigit
  let rest := cs.dropWhile Char.isDigit
  let (frac, rest) := match rest with
    | '.' :: r => (r.takeWhile Char.isDigit, r.dropWhile Char.isDigit)
    | r => ([], r)
  if whole.isEmpty && frac.isEmpty then none
  else
    let exponent := match rest with
      | [] => some 0
      | e :: r => if e = 'e' ∨ e = 'E' then intOfDigits? r else none
    exponent.map fun e =>
      match Binary64.ofDecimal negative (natOfDigits (whole ++ frac)) (e - (frac.length : Int)) with
      | some x => .finite x
      | none => .infinite negative

def lowerAscii (cs : List Char) : List Char := cs.map Char.toLower

/-- The text of a binary64 number: a decimal, or one of the words for infinity and no number. -/
def readFloat (cs : List Char) : Option FloatReading :=
  let (negative, body) := match cs with
    | '-' :: r => (true, r)
    | '+' :: r => (false, r)
    | r => (false, r)
  if lowerAscii body = "inf".toList ∨ lowerAscii body = "infinity".toList then
    some (.infinite negative)
  else if lowerAscii body = "nan".toList then some .notANumber
  else readUnsigned negative body

end Regrant
