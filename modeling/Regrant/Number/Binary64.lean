/-!
# Finite binary64 numbers, exactly

Every finite binary64 number is a whole number of units of `2 ^ (-1074)` with at most 53
significant bits.  A `Binary64` holds that whole number and a sign, so equality and order are
those of the integers `value`, and arithmetic is exact integer arithmetic followed by one
rounding.

`nearest` is the rounding: the closest representable number, an even significand on a tie, and
`none` beyond the largest finite number.
-/

namespace Regrant

/-- At most 53 significant bits, below `2 ^ 1024` in units of `2 ^ (-1074)`. -/
def FitsBinary64 (units : Nat) : Prop :=
  units < 1 <<< 2098 ∧ 1 <<< (units.log2 - 52) ∣ units

instance (units : Nat) : Decidable (FitsBinary64 units) := inferInstanceAs (Decidable (_ ∧ _))

/-- A finite binary64 number: `units` times `2 ^ (-1074)`, negated if `negative`. -/
structure Binary64 where
  negative : Bool
  units : Nat
  fits : FitsBinary64 units
deriving DecidableEq

namespace Binary64

/-- How many units make up the number one. -/
def one : Nat := 1 <<< 1074

def zero (negative : Bool) : Binary64 := ⟨negative, 0, by simp [FitsBinary64]⟩

instance : Inhabited Binary64 := ⟨zero false⟩

/-- The number in units, with its sign. -/
def value (x : Binary64) : Int := if x.negative then - (x.units : Int) else x.units

/-- The multiple of `step` nearest to `num`, as its count; a tie goes to the even count. -/
def nearestMultiple (num step : Nat) : Nat :=
  let count := num / step
  match compare (2 * (num % step)) step with
  | .lt => count
  | .gt => count + 1
  | .eq => count + count % 2

/-- The units of the representable number nearest to `num / den` units. -/
def nearestUnits (num den : Nat) : Nat :=
  let spacing := 1 <<< ((num / den).log2 - 52)
  nearestMultiple num (den * spacing) * spacing

/-- The binary64 number nearest to `num / den` units. -/
def nearest (negative : Bool) (num den : Nat) : Option Binary64 :=
  let units := nearestUnits num den
  if h : FitsBinary64 units then some ⟨negative, units, h⟩ else none

def ofInt (n : Int) : Option Binary64 := nearest (n < 0) (n.natAbs * one) 1

/-- The number nearest to `digits * 10 ^ exponent`.  Exponents far outside the range of
binary64 are settled by the number of digits alone. -/
def ofDecimal (negative : Bool) (digits : Nat) (exponent : Int) : Option Binary64 :=
  if digits = 0 then some (zero negative)
  else
    let size := exponent + (digits.log2 * 30103 / 100000 : Nat)
    if 320 < size then none
    else if size < -340 then some (zero negative)
    else match exponent with
      | .ofNat e => nearest negative (digits * Nat.pow 10 e * one) 1
      | .negSucc e => nearest negative (digits * one) (Nat.pow 10 (e + 1))

def neg (x : Binary64) : Binary64 := ⟨!x.negative, x.units, x.fits⟩

/-- The rounded sum; an exact zero is negative only if both summands are. -/
def add (x y : Binary64) : Option Binary64 :=
  let sum := x.value + y.value
  nearest (if sum = 0 then x.negative && y.negative else sum < 0) sum.natAbs 1

/-- The rounded product. -/
def mul (x y : Binary64) : Option Binary64 :=
  nearest (x.negative != y.negative) (x.units * y.units) one

/-- The rounded quotient by a number other than zero. -/
def div (x y : Binary64) : Option Binary64 :=
  nearest (x.negative != y.negative) (x.units * one) y.units

/-- Equal as numbers: both zeros are equal. -/
def numericEq (x y : Binary64) : Bool := x.value = y.value

def numericCompare (x y : Binary64) : Ordering := compare x.value y.value

theorem numericEq_refl (x : Binary64) : x.numericEq x = true := by simp [numericEq]

theorem numericEq_symm {x y : Binary64} (h : x.numericEq y = true) : y.numericEq x = true := by
  simp [numericEq] at *; exact h.symm

theorem numericEq_trans {x y z : Binary64} (h : x.numericEq y = true)
    (h' : y.numericEq z = true) : x.numericEq z = true := by
  simp [numericEq] at *; exact h.trans h'

/-- The whole number nearest to `x`, a half away from zero. -/
def round (x : Binary64) : Int :=
  let n := (2 * x.units + one) / (2 * one)
  if x.negative then - (n : Int) else n

end Binary64

end Regrant
