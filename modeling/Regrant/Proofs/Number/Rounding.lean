import Mathlib.Algebra.Order.Ring.Nat
import Regrant.Json.Basic

/-!
# Rounding whole numbers

A whole number is rounded to a multiple of the spacing of binary64 numbers at its size.  No binary64
number is nearer (`natAbs_rounded_sub_le`), and of two that are equally near it is the one with
the even significand.  `IsNearest` says this of a number of any sign; that rounding keeps the order
(`IsNearest.value_le`), and that it changes no number of up to 53 bits (`IsNearest.value_eq_of_le`),
follow from it alone.
-/

namespace Regrant.Binary64

/-! ### Spacing -/

/-- The greatest power of two up to a number. -/
def leading (n : Nat) : Nat := 1 <<< n.log2

/-- What lies between the binary64 numbers of this size. -/
def spacing (n : Nat) : Nat := 1 <<< (n.log2 - 52)

variable {m n u v step : Nat}

theorem one_shiftLeft_dvd {a b : Nat} (h : a ≤ b) : 1 <<< a ∣ 1 <<< b := by
  rw [Nat.one_shiftLeft, Nat.one_shiftLeft]
  exact Nat.pow_dvd_pow 2 h

theorem leading_le (h : n ≠ 0) : leading n ≤ n := by
  rw [leading, Nat.one_shiftLeft]
  exact Nat.log2_self_le h

theorem two_mul_one_shiftLeft (k : Nat) : 2 * 1 <<< k = 1 <<< (k + 1) := by
  rw [Nat.one_shiftLeft, Nat.one_shiftLeft, Nat.pow_succ, Nat.mul_comm]

theorem two_mul_leading (n : Nat) : 2 * leading n = 1 <<< (n.log2 + 1) :=
  two_mul_one_shiftLeft n.log2

theorem lt_two_mul_leading (n : Nat) : n < 2 * leading n := by
  rw [two_mul_leading, Nat.one_shiftLeft]
  exact Nat.lt_log2_self

theorem log2_le_log2_of_leading_le (h : leading m ≤ n) : m.log2 ≤ n.log2 := by
  have hpos : 0 < leading m := by
    rw [leading, Nat.one_shiftLeft]
    exact Nat.two_pow_pos _
  rw [Nat.le_log2 (by omega), ← Nat.one_shiftLeft]
  exact h

theorem spacing_pos (n : Nat) : 0 < spacing n := by
  rw [spacing, Nat.one_shiftLeft]
  exact Nat.two_pow_pos _

theorem spacing_dvd_leading (n : Nat) : spacing n ∣ leading n := one_shiftLeft_dvd (by omega)

/-- The binary64 numbers of a size or above are multiples of the spacing at this size. -/
theorem spacing_dvd (hv : FitsBinary64 v) (h : leading n ≤ v) : spacing n ∣ v :=
  (one_shiftLeft_dvd (by have := log2_le_log2_of_leading_le h; omega)).trans hv.2

/-! ### The nearest multiple -/

theorem nearestMultiple_near (n : Nat) (h : 0 < step) :
    2 * (nearestMultiple n step * step) ≤ 2 * n + step ∧
      2 * n ≤ 2 * (nearestMultiple n step * step) + step ∧
      (2 * (nearestMultiple n step * step) = 2 * n + step ∨
          2 * n = 2 * (nearestMultiple n step * step) + step →
        2 ∣ nearestMultiple n step) := by
  have hn : n / step * step + n % step = n := by
    rw [Nat.mul_comm]
    exact Nat.div_add_mod n step
  have hlt := Nat.mod_lt n h
  have hsucc : (n / step + 1) * step = n / step * step + step := Nat.succ_mul _ _
  rw [nearestMultiple]
  rcases hc : compare (2 * (n % step)) step with _ | _ | _
  · rw [Nat.compare_eq_lt] at hc
    simp only
    omega
  · rw [Nat.compare_eq_eq] at hc
    simp only
    rcases Nat.mod_two_eq_zero_or_one (n / step) with heven | hodd
    · rw [heven, Nat.add_zero]
      omega
    · rw [hodd, hsucc]
      omega
  · rw [Nat.compare_eq_gt] at hc
    simp only [hsucc]
    omega

theorem eq_or_add_le_of_dvd {d a b : Nat} (ha : d ∣ a) (hb : d ∣ b) :
    a = b ∨ a + d ≤ b ∨ b + d ≤ a := by
  obtain ⟨i, rfl⟩ := ha
  obtain ⟨j, rfl⟩ := hb
  rcases Nat.lt_trichotomy i j with hij | rfl | hij
  · have h := Nat.mul_le_mul_left d hij
    rw [Nat.mul_succ] at h
    exact Or.inr (Or.inl h)
  · exact Or.inl rfl
  · have h := Nat.mul_le_mul_left d hij
    rw [Nat.mul_succ] at h
    exact Or.inr (Or.inr h)

/-! ### Rounding without sign -/

/-- A number rounded to binary64. -/
def rounded (n : Nat) : Nat := nearestUnits n 1

theorem rounded_eq (n : Nat) : rounded n = nearestMultiple n (spacing n) * spacing n := by
  rw [rounded, nearestUnits, Nat.div_one, Nat.one_mul]
  rfl

theorem spacing_dvd_rounded (n : Nat) : spacing n ∣ rounded n := by
  rw [rounded_eq]
  exact Nat.dvd_mul_left _ _

/-- Rounding goes no farther than half of the spacing. -/
theorem rounded_near (n : Nat) :
    2 * rounded n ≤ 2 * n + spacing n ∧ 2 * n ≤ 2 * rounded n + spacing n := by
  rw [rounded_eq]
  obtain ⟨hup, hdown, -⟩ := nearestMultiple_near n (spacing_pos n)
  exact ⟨hup, hdown⟩

/-- Halfway between two numbers the even one is taken. -/
theorem two_mul_spacing_dvd_rounded
    (h : 2 * rounded n = 2 * n + spacing n ∨ 2 * n = 2 * rounded n + spacing n) :
    2 * spacing n ∣ rounded n := by
  rw [rounded_eq] at h ⊢
  exact Nat.mul_dvd_mul_right ((nearestMultiple_near n (spacing_pos n)).2.2 h) _

theorem rounded_le (n : Nat) : rounded n ≤ 2 * leading n := by
  have hlt := lt_two_mul_leading n
  obtain ⟨hup, -⟩ := rounded_near n
  have hdvd : spacing n ∣ 2 * leading n := Dvd.dvd.mul_left (spacing_dvd_leading n) 2
  have := spacing_pos n
  rcases eq_or_add_le_of_dvd (spacing_dvd_rounded n) hdvd with heq | hle | hle
  · exact heq.le
  · omega
  · omega

theorem log2_le_of_lt {k : Nat} (h : u < 1 <<< (k + 1)) : u.log2 ≤ k := by
  rcases Nat.eq_zero_or_pos u with rfl | hpos
  · exact Nat.zero_le k
  · rw [Nat.one_shiftLeft, ← Nat.log2_lt hpos.ne'] at h
    omega

/-- Rounding may reach the next power of two, but it does not leave the grid at its size. -/
theorem rounded_cases (n : Nat) :
    spacing (rounded n) ∣ spacing n ∨
      (rounded n).log2 = n.log2 + 1 ∧ rounded n = 1 <<< (n.log2 + 1) := by
  have hle := rounded_le n
  rw [two_mul_leading] at hle
  rcases Nat.lt_or_eq_of_le hle with hlt | heq
  · have hlog := log2_le_of_lt hlt
    exact Or.inl (one_shiftLeft_dvd (by omega))
  · refine Or.inr ⟨?_, heq⟩
    rw [heq, Nat.one_shiftLeft, Nat.log2_two_pow]

/-- What is rounded fits, unless it is beyond the largest binary64 number. -/
theorem fits_rounded (h : n < 1 <<< 2097) : FitsBinary64 (rounded n) := by
  constructor
  · have hle : rounded n ≤ 2 * n := by
      rcases Nat.eq_zero_or_pos n with rfl | hpos
      · obtain ⟨hup, -⟩ := rounded_near 0
        have : spacing 0 = 1 := rfl
        omega
      · have := rounded_le n
        have := leading_le (n := n) (by omega)
        omega
    have htwo : 1 <<< 2098 = 2 * 1 <<< 2097 := by decide +kernel
    omega
  · rcases rounded_cases n with hdvd | ⟨hlog, heq⟩
    · exact hdvd.trans (spacing_dvd_rounded n)
    · rw [hlog, heq]
      exact one_shiftLeft_dvd (by omega)

/-- Every other binary64 number is farther away, or as far from a number halfway between. -/
theorem rounded_nearer (hv : FitsBinary64 v) (hne : v ≠ rounded n) :
    ((rounded n : Int) - n).natAbs < ((v : Int) - n).natAbs ∨
      ((rounded n : Int) - n).natAbs = ((v : Int) - n).natAbs ∧
        (2 * rounded n = 2 * n + spacing n ∨ 2 * n = 2 * rounded n + spacing n) := by
  obtain ⟨hup, hdown⟩ := rounded_near n
  rcases Nat.lt_or_ge v (leading n) with hlt | hle
  · -- Below the leading power the spacing may be smaller, but that power itself is nearer.
    rcases Nat.eq_zero_or_pos n with rfl | hpos
    · have : spacing 0 = 1 := rfl
      have : leading 0 = 1 := rfl
      omega
    · have := leading_le (n := n) (by omega)
      rcases eq_or_add_le_of_dvd (spacing_dvd_rounded n) (spacing_dvd_leading n) with h | h | h <;>
        omega
  · rcases eq_or_add_le_of_dvd (spacing_dvd_rounded n) (spacing_dvd hv hle) with h | h | h <;> omega

/-- **No binary64 number is nearer.** -/
theorem natAbs_rounded_sub_le (hv : FitsBinary64 v) :
    ((rounded n : Int) - n).natAbs ≤ ((v : Int) - n).natAbs := by
  by_cases hne : v = rounded n
  · rw [hne]
  · rcases rounded_nearer hv hne with hlt | ⟨heq, -⟩
    · exact hlt.le
    · exact heq.le

/-- **If another binary64 number is as near, rounding goes to the even one.** -/
theorem two_mul_spacing_rounded_dvd (hv : FitsBinary64 v) (hne : v ≠ rounded n)
    (h : ((v : Int) - n).natAbs = ((rounded n : Int) - n).natAbs) :
    2 * spacing (rounded n) ∣ rounded n := by
  obtain ⟨-, htie⟩ := (rounded_nearer hv hne).resolve_left h.le.not_gt
  rcases rounded_cases n with hdvd | ⟨hlog, heq⟩
  · exact (Nat.mul_dvd_mul_left 2 hdvd).trans (two_mul_spacing_dvd_rounded htie)
  · rw [spacing, hlog, heq, two_mul_one_shiftLeft]
    exact one_shiftLeft_dvd (by omega)

/-! ### Rounding with sign -/

/-- No binary64 number is nearer to a whole number, and if another one is as near, this one is
even. -/
structure IsNearest (x : Binary64) (n : Int) : Prop where
  nearest : ∀ y : Binary64, (x.value - n * one).natAbs ≤ (y.value - n * one).natAbs
  even : ∀ y : Binary64, y.value ≠ x.value →
    (y.value - n * one).natAbs = (x.value - n * one).natAbs → 2 * spacing x.units ∣ x.units

variable {x y : Binary64} {a b : Int}

theorem value_neg (x : Binary64) : x.neg.value = -x.value := by
  obtain ⟨negative, units, fits⟩ := x
  cases negative <;> simp [neg, value]

theorem natAbs_value (x : Binary64) : x.value.natAbs = x.units := by
  obtain ⟨negative, units, fits⟩ := x
  cases negative <;> simp [value]

theorem IsNearest.neg (h : x.IsNearest a) : x.neg.IsNearest (-a) := by
  have hmul : -a * (one : Int) = -(a * one) := Int.neg_mul _ _
  constructor
  · intro y
    have := h.nearest y.neg
    rw [value_neg] at this ⊢
    omega
  · intro y hne htie
    rw [value_neg] at hne htie
    refine h.even y.neg ?_ ?_
    · rw [value_neg]
      omega
    · rw [value_neg]
      omega

theorem isNearest_rounded {k : Nat} (h : FitsBinary64 (rounded (k * one))) :
    IsNearest ⟨false, rounded (k * one), h⟩ k := by
  have hk : (k : Int) * (one : Int) = ((k * one : Nat) : Int) := (Int.natCast_mul k one).symm
  have hx : value ⟨false, rounded (k * one), h⟩ = (rounded (k * one) : Nat) := rfl
  have hzero := natAbs_rounded_sub_le (n := k * one) (zero false).fits
  constructor
  · intro y
    have := natAbs_rounded_sub_le (n := k * one) y.fits
    have := natAbs_value y
    rw [hk, hx]
    simp only [zero] at hzero
    omega
  · intro y hne htie
    have := natAbs_rounded_sub_le (n := k * one) y.fits
    have := natAbs_value y
    rw [hk, hx] at htie
    rw [hx] at hne
    simp only [zero] at hzero
    refine two_mul_spacing_rounded_dvd y.fits ?_ ?_
    · omega
    · omega

theorem one_pos : 0 < one := by decide +kernel

/-- A number with the sign of a whole number is as far from it as without sign. -/
theorem natAbs_value_sub (a : Int) (h : FitsBinary64 u) :
    (value ⟨decide (a < 0), u, h⟩ - a * one).natAbs =
      ((u : Int) - (a.natAbs * one : Nat)).natAbs := by
  rw [Int.natCast_mul]
  by_cases hneg : a < 0
  · rw [decide_eq_true hneg, show ((a.natAbs : Nat) : Int) = -a by omega, Int.neg_mul]
    show (-(u : Int) - a * one).natAbs = _
    omega
  · rw [decide_eq_false hneg, show ((a.natAbs : Nat) : Int) = a by omega]
    rfl

/-- Whole numbers of 64 bits are within the range of binary64. -/
theorem exists_toBinary64_eq (h : FitsInt64 a) : ∃ hfits,
    (Number.int a).toBinary64 = ⟨decide (a < 0), rounded (a.natAbs * one), hfits⟩ := by
  have hle : a.natAbs * one ≤ 9223372036854775808 * one :=
    Nat.mul_le_mul_right one (by unfold FitsInt64 at h; omega)
  have hlt : 9223372036854775808 * one < 1 <<< 2097 := by decide +kernel
  have hfits := fits_rounded (hle.trans_lt hlt)
  refine ⟨hfits, ?_⟩
  show (nearest (a < 0) (a.natAbs * one) 1).getD _ = _
  rw [nearest]
  exact congrArg (Option.getD · _) (dif_pos hfits)

/-- **A whole number of 64 bits is rounded to the nearest binary64 number.** -/
theorem isNearest_toBinary64 (h : FitsInt64 a) : (Number.int a).toBinary64.IsNearest a := by
  obtain ⟨hfits, hround⟩ := exists_toBinary64_eq h
  have hnear := isNearest_rounded hfits
  rw [hround]
  by_cases hneg : a < 0
  · have hopposite := hnear.neg
    rw [show -((a.natAbs : Nat) : Int) = a by omega] at hopposite
    rwa [decide_eq_true hneg]
  · rw [show ((a.natAbs : Nat) : Int) = a by omega] at hnear
    rwa [decide_eq_false hneg]

/-! ### What follows of nearest numbers -/

/-- **Rounding keeps the order.** -/
theorem IsNearest.value_le (hx : x.IsNearest a) (hy : y.IsNearest b) (h : a < b) :
    x.value ≤ y.value := by
  have hxy := hx.nearest y
  have hyx := hy.nearest x
  have hlt : a * (one : Int) < b * one := Int.mul_lt_mul_of_pos_right h (by decide +kernel)
  omega

/-- A whole number that is a binary64 number is not changed. -/
theorem IsNearest.value_eq (hx : x.IsNearest a) (h : FitsBinary64 (a.natAbs * one)) :
    x.value = a * one := by
  have hself := hx.nearest ⟨decide (a < 0), a.natAbs * one, h⟩
  rw [natAbs_value_sub] at hself
  omega

/-- A whole number of up to 53 bits is a binary64 number. -/
theorem fits_mul_one (h : n ≤ 9007199254740992) : FitsBinary64 (n * one) := by
  rcases Nat.lt_or_eq_of_le h with hlt | rfl
  · have hle : n * one + one ≤ 1 <<< 1127 := by
      have hpow : 9007199254740992 * one = 1 <<< 1127 := by decide +kernel
      have hmul := Nat.mul_le_mul_right one hlt
      rwa [Nat.succ_mul, hpow] at hmul
    have hpos := one_pos
    constructor
    · have hmax : 1 <<< 1127 < 1 <<< 2098 := by decide +kernel
      omega
    · have hlog : (n * one).log2 ≤ 1126 := log2_le_of_lt (by omega)
      exact (one_shiftLeft_dvd (b := 1074) (by omega)).trans (Nat.dvd_mul_left one n)
  · decide +kernel

theorem IsNearest.value_eq_of_le (hx : x.IsNearest a) (h : a.natAbs ≤ 9007199254740992) :
    x.value = a * one :=
  hx.value_eq (fits_mul_one h)

/-- A whole number of 64 bits is never moved by more than 512. -/
theorem natAbs_toBinary64_sub_le (h : FitsInt64 a) :
    ((Number.int a).toBinary64.value - a * one).natAbs ≤ 512 * one := by
  by_cases hmin : a.natAbs = 9223372036854775808
  · have hfits : FitsBinary64 (a.natAbs * one) := by
      rw [hmin]
      decide +kernel
    rw [(isNearest_toBinary64 h).value_eq hfits]
    omega
  · -- Here the spacing is at most 1024.
    have hspacing : spacing (a.natAbs * one) ≤ 1024 * one := by
      have hle : a.natAbs * one ≤ 9223372036854775807 * one :=
        Nat.mul_le_mul_right one (by unfold FitsInt64 at h; omega)
      have hlt : 9223372036854775807 * one < 1 <<< (1136 + 1) := by decide +kernel
      have hlog := log2_le_of_lt (hle.trans_lt hlt)
      have hpow : 1024 * one = 1 <<< 1084 := by decide +kernel
      have hpos : 0 < 1024 * one := by have := one_pos; omega
      rw [hpow] at hpos ⊢
      exact Nat.le_of_dvd hpos (one_shiftLeft_dvd (by omega))
    obtain ⟨hfits, hround⟩ := exists_toBinary64_eq h
    obtain ⟨hup, hdown⟩ := rounded_near (a.natAbs * one)
    rw [hround, natAbs_value_sub]
    omega

end Regrant.Binary64
