import Regrant.Expr.Eval
import Regrant.Proofs.Number.Rounding

/-!
# Whole numbers in expressions

Two whole numbers of 64 bits are equal in an expression exactly if they are equal, and their sum is
exact or it overflows.  The operators that order them round both to binary64 first, though.  So they
are right about numbers that are rounded to different ones, and two different numbers that are
rounded to one and the same are neither less nor greater than each other (`eval_integers`).
-/

namespace Regrant.Expr

/-- The ordering operators say that the value of `x` is related to that of `y` in this way. -/
structure OrderedAs (facts : Json) (x y : Expr) (o : Ordering) : Prop where
  lt : eval facts (.binary .lt x y) = .ok (.bool (o = .lt))
  gt : eval facts (.binary .gt x y) = .ok (.bool (o = .gt))
  le : eval facts (.binary .le x y) = .ok (.bool (o ≠ .gt))
  ge : eval facts (.binary .ge x y) = .ok (.bool (o ≠ .lt))

variable {facts : Json} {x y : Expr} {v w : Json} {op : BinaryOp} {a b : Int}

/-- An operator other than the connectives is applied to the values of both sides. -/
theorem eval_binary (hx : eval facts x = .ok v) (hy : eval facts y = .ok w) (hand : op ≠ .and)
    (hor : op ≠ .or) : eval facts (.binary op x y) = applyOp op v w := by
  cases op with
  | and => exact absurd rfl hand
  | or => exact absurd rfl hor
  | eq | ne | gt | lt | ge | le | add => simp only [eval, hx, hy]

theorem OrderedAs.unique {o o' : Ordering} (h : OrderedAs facts x y o)
    (h' : OrderedAs facts x y o') : o = o' := by
  have hlt : decide (o = .lt) = decide (o' = .lt) :=
    Json.bool.inj (Except.ok.inj (h.lt.symm.trans h'.lt))
  have hgt : decide (o = .gt) = decide (o' = .gt) :=
    Json.bool.inj (Except.ok.inj (h.gt.symm.trans h'.gt))
  cases o <;> cases o' <;>
    first | rfl | exact absurd hlt (by decide) | exact absurd hgt (by decide)

/-- Numbers are ordered as the nearest binary64 numbers. -/
theorem orderedAs_numbers {m n : Number} (hx : eval facts x = .ok (.number m))
    (hy : eval facts y = .ok (.number n)) :
    OrderedAs facts x y (compare m.toBinary64.value n.toBinary64.value) := by
  constructor
  · rw [eval_binary hx hy (by decide) (by decide)]
    show Except.ok (Json.bool (compare m.toBinary64.value n.toBinary64.value == .lt)) = _
    cases compare m.toBinary64.value n.toBinary64.value <;> rfl
  · rw [eval_binary hx hy (by decide) (by decide)]
    show Except.ok (Json.bool (compare m.toBinary64.value n.toBinary64.value == .gt)) = _
    cases compare m.toBinary64.value n.toBinary64.value <;> rfl
  · rw [eval_binary hx hy (by decide) (by decide)]
    show Except.ok (Json.bool (compare m.toBinary64.value n.toBinary64.value != .gt)) = _
    cases compare m.toBinary64.value n.toBinary64.value <;> rfl
  · rw [eval_binary hx hy (by decide) (by decide)]
    show Except.ok (Json.bool (compare m.toBinary64.value n.toBinary64.value != .lt)) = _
    cases compare m.toBinary64.value n.toBinary64.value <;> rfl

theorem toInt64?_int (h : FitsInt64 a) : (Number.int a).toInt64? = some a := if_pos h

theorem looselyEqual_int (ha : FitsInt64 a) (hb : FitsInt64 b) :
    (Json.int a).looselyEqual (.int b) = decide (a = b) := by
  simp only [Json.int, Json.looselyEqual, toInt64?_int ha, toInt64?_int hb]

theorem add_int (ha : FitsInt64 a) (hb : FitsInt64 b) : add (.int a) (.int b) =
    if FitsInt64 (a + b) then .ok (.int (a + b)) else .error .overflow := by
  simp only [Json.int, add, addNumbers, toInt64?_int ha, toInt64?_int hb]

/-- Rounding never turns an order round. -/
theorem compare_eq_of_value_ne {r s : Binary64} (hr : r.IsNearest a) (hs : s.IsNearest b)
    (hab : a ≠ b) (h : r.value ≠ s.value) : compare r.value s.value = compare a b := by
  rcases Int.lt_trichotomy a b with hlt | heq | hgt
  · rw [compare_lt_iff_lt.2 hlt, compare_lt_iff_lt]
    exact lt_of_le_of_ne (hr.value_le hs hlt) h
  · exact absurd heq hab
  · rw [compare_gt_iff_gt.2 hgt, compare_gt_iff_gt]
    exact lt_of_le_of_ne (hs.value_le hr hgt) h.symm

/-- Numbers that are rounded to the same one lie at most twice its rounding error apart. -/
theorem natAbs_sub_le_of_value_eq (ha : FitsInt64 a) (hb : FitsInt64 b)
    (h : (Number.int a).toBinary64.value = (Number.int b).toBinary64.value) :
    (a - b).natAbs ≤ 1024 := by
  have hfrom := Binary64.natAbs_toBinary64_sub_le ha
  have hto := Binary64.natAbs_toBinary64_sub_le hb
  rw [h] at hfrom
  have hle : ((a - b) * (Binary64.one : Int)).natAbs ≤ 1024 * Binary64.one := by
    rw [Int.sub_mul]
    omega
  rw [Int.natAbs_mul, Int.natAbs_natCast] at hle
  exact Nat.le_of_mul_le_mul_right hle Binary64.one_pos

/-- Rounding keeps numbers of up to 53 bits apart. -/
theorem eq_of_value_eq (ha : FitsInt64 a) (hb : FitsInt64 b) (hale : a.natAbs ≤ 9007199254740992)
    (hble : b.natAbs ≤ 9007199254740992)
    (h : (Number.int a).toBinary64.value = (Number.int b).toBinary64.value) : a = b := by
  rw [(Binary64.isNearest_toBinary64 ha).value_eq_of_le hale,
    (Binary64.isNearest_toBinary64 hb).value_eq_of_le hble] at h
  exact Int.eq_of_mul_eq_mul_right (by decide +kernel) h

/-- **Whole numbers of 64 bits are compared for equality and added exactly, and ordered as the
nearest binary64 numbers.**  So the order is right exactly if numbers that are rounded to the same
one are equal.  Different ones lie at most 1024 apart, and they are not both of 53 bits. -/
theorem eval_integers (hx : eval facts x = .ok (.int a)) (hy : eval facts y = .ok (.int b))
    (ha : FitsInt64 a) (hb : FitsInt64 b) :
    eval facts (.binary .eq x y) = .ok (.bool (a = b)) ∧
    eval facts (.binary .add x y) =
      (if FitsInt64 (a + b) then .ok (.int (a + b)) else .error .overflow) ∧
    ∃ r s : Binary64, r.IsNearest a ∧ s.IsNearest b ∧
      OrderedAs facts x y (compare r.value s.value) ∧
      (OrderedAs facts x y (compare a b) ↔ (r.value = s.value → a = b)) ∧
      (r.value = s.value → (a - b).natAbs ≤ 1024) ∧
      (r.value = s.value → a.natAbs ≤ 9007199254740992 → b.natAbs ≤ 9007199254740992 →
        a = b) := by
  have hr := Binary64.isNearest_toBinary64 ha
  have hs := Binary64.isNearest_toBinary64 hb
  have hordered := orderedAs_numbers hx hy
  refine ⟨?_, ?_, _, _, hr, hs, hordered, ?_, natAbs_sub_le_of_value_eq ha hb,
    fun h hale hble => eq_of_value_eq ha hb hale hble h⟩
  · rw [eval_binary hx hy (by decide) (by decide)]
    exact congrArg (Except.ok ∘ Json.bool) (looselyEqual_int ha hb)
  · rw [eval_binary hx hy (by decide) (by decide)]
    exact add_int ha hb
  · constructor
    · intro h heq
      have hcompare := h.unique hordered
      rwa [compare_eq_iff_eq.2 heq, compare_eq_iff_eq] at hcompare
    · intro h
      by_cases hab : a = b
      · subst hab
        rwa [compare_eq_iff_eq.2 rfl] at hordered ⊢
      · rwa [← compare_eq_of_value_ne hr hs hab (mt h hab)]

/-- From this number on binary64 leaves whole numbers out. -/
def largeFacts : Json := .object [("size", .int 9007199254740992)]

/-- Two numbers in a row that are neither equal nor less nor greater than each other. -/
theorem eval_integers_largeFacts :
    eval largeFacts (.path "size" []) = .ok (.int 9007199254740992) ∧
    eval largeFacts (.literal (.int 9007199254740993)) = .ok (.int 9007199254740993) ∧
    FitsInt64 9007199254740992 ∧ FitsInt64 9007199254740993 ∧
    eval largeFacts (.binary .eq (.path "size" []) (.literal (.int 9007199254740993))) =
      .ok (.bool false) ∧
    eval largeFacts (.binary .add (.path "size" []) (.literal (.int 9007199254740993))) =
      .ok (.int 18014398509481985) ∧
    OrderedAs largeFacts (.path "size" []) (.literal (.int 9007199254740993)) .eq ∧
    ¬ OrderedAs largeFacts (.path "size" []) (.literal (.int 9007199254740993))
      (compare (9007199254740992 : Int) 9007199254740993) := by
  have hx : eval largeFacts (.path "size" []) = .ok (.int 9007199254740992) := rfl
  have hy : eval largeFacts (.literal (.int 9007199254740993)) =
      .ok (.int 9007199254740993) := rfl
  have ha : FitsInt64 9007199254740992 := by decide
  have hb : FitsInt64 9007199254740993 := by decide
  have hsame : (Number.int 9007199254740992).toBinary64.value =
      (Number.int 9007199254740993).toBinary64.value := by decide +kernel
  obtain ⟨heq, hadd, r, s, -, -, hordered, hright, -⟩ := eval_integers hx hy ha hb
  have hequal := orderedAs_numbers hx hy
  rw [compare_eq_iff_eq.2 hsame] at hequal
  have hvalue : r.value = s.value := compare_eq_iff_eq.1 (hordered.unique hequal)
  exact ⟨hx, hy, ha, hb, heq, hadd, hequal,
    fun h => absurd (hright.1 h hvalue) (by decide)⟩

end Regrant.Expr
