/-!
# Widths of whole numbers

Whole numbers are unbounded here.  Where a format or an operation is limited to so many bits, the
limit is one of these ranges.
-/

namespace Regrant

/-- The whole numbers of 32 bits, one of them the sign. -/
def FitsInt32 (n : Int) : Prop := -2147483648 ≤ n ∧ n ≤ 2147483647

/-- The whole numbers of 64 bits, one of them the sign. -/
def FitsInt64 (n : Int) : Prop := -9223372036854775808 ≤ n ∧ n ≤ 9223372036854775807

/-- The whole numbers of 64 bits, with or without a sign. -/
def FitsWord64 (n : Int) : Prop := -9223372036854775808 ≤ n ∧ n ≤ 18446744073709551615

/-- The whole numbers of 128 bits, with or without a sign. -/
def FitsWord128 (n : Int) : Prop :=
  -170141183460469231731687303715884105728 ≤ n ∧ n ≤ 340282366920938463463374607431768211455

instance (n : Int) : Decidable (FitsInt32 n) := inferInstanceAs (Decidable (_ ∧ _))

instance (n : Int) : Decidable (FitsInt64 n) := inferInstanceAs (Decidable (_ ∧ _))

instance (n : Int) : Decidable (FitsWord64 n) := inferInstanceAs (Decidable (_ ∧ _))

instance (n : Int) : Decidable (FitsWord128 n) := inferInstanceAs (Decidable (_ ∧ _))

end Regrant
