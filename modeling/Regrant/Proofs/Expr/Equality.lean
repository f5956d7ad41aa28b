import Regrant.Proofs.Document
import Regrant.Proofs.Expr.Integers
import Regrant.Proofs.Related

/-!
# Equality in expressions

The equality that expressions test is reflexive and symmetric.  It compares whole numbers of 64 bits
exactly and all other numbers as binary64, so two different whole numbers can both equal a number of
another kind that they are rounded to, and only such two break transitivity (`Equal.not_trans_iff`).

Membership in a list tests the same equality (`exists_member_iff`).  Inside of lists, though, a
number equals only a number of the same kind, so lists can differ whose items are equal one by one
(`equal_list_iff`).
-/

namespace Regrant

/-! ### Values of the same kind -/

theorem Number.same_refl (n : Number) : n.same n = true := by
  cases n with
  | int a => exact decide_eq_true rfl
  | float r => exact r.numericEq_refl

theorem Number.same_right {m n k : Number} (h : m.same n = true) (h' : m.same k = true) :
    n.same k = true := by
  cases m with
  | int a =>
    cases n with
    | float s => cases h
    | int b =>
      obtain rfl := of_decide_eq_true h
      exact h'
  | float r =>
    cases n with
    | int b => cases h
    | float s =>
      cases k with
      | int c => cases h'
      | float t => exact Binary64.numericEq_trans (Binary64.numericEq_symm h) h'

namespace Json

theorem sameList_iff {xs ys : List Json} :
    sameList xs ys = true ↔ List.Forall₂ (fun x y => x.same y = true) xs ys := by
  induction xs generalizing ys with
  | nil => cases ys <;> simp [sameList]
  | cons x xs ih => cases ys <;> simp [sameList, ih]

theorem sameFields_iff {fs gs : List (String × Json)} : sameFields fs gs = true ↔
    List.Forall₂ (fun f g => f.1 = g.1 ∧ f.2.same g.2 = true) fs gs := by
  induction fs generalizing gs with
  | nil => cases gs <;> simp [sameFields]
  | cons f fs ih => cases gs <;> simp [sameFields, ih]

theorem same_refl (x : Json) : x.same x = true := by
  induction x using inductionOn with
  | null => rfl
  | bool b => exact beq_self_eq_true b
  | number n => exact n.same_refl
  | text s => exact beq_self_eq_true s
  | list items ih => exact sameList_iff.2 (List.forall₂_same.2 ih)
  | object fields ih => exact sameFields_iff.2 (List.forall₂_same.2 fun f hf => ⟨rfl, ih f hf⟩)

/-- Values that are the same as a third one are the same. -/
theorem same_right {x y z : Json} (h : x.same y = true) (h' : x.same z = true) :
    y.same z = true := by
  induction x using inductionOn generalizing y z with
  | null =>
    cases y with
    | null => exact h'
    | _ => cases h
  | bool b =>
    cases y with
    | bool c =>
      obtain rfl := eq_of_beq h
      exact h'
    | _ => cases h
  | number m =>
    cases y with
    | number n =>
      cases z with
      | number k => exact Number.same_right h h'
      | _ => cases h'
    | _ => cases h
  | text s =>
    cases y with
    | text t =>
      obtain rfl := eq_of_beq h
      exact h'
    | _ => cases h
  | list items ih =>
    cases y with
    | list items' =>
      cases z with
      | list items'' =>
        exact sameList_iff.2 (forall₂_right_of_mem (sameList_iff.1 h) (sameList_iff.1 h')
          fun j hj _ _ => ih j hj)
      | _ => cases h'
    | _ => cases h
  | object fields ih =>
    cases y with
    | object fields' =>
      cases z with
      | object fields'' =>
        exact sameFields_iff.2 (forall₂_right_of_mem (sameFields_iff.1 h) (sameFields_iff.1 h')
          fun f hf _ _ hg hk => ⟨hg.1.symm.trans hk.1, ih f hf hg.2 hk.2⟩)
      | _ => cases h'
    | _ => cases h

theorem same_symm {x y : Json} (h : x.same y = true) : y.same x = true :=
  same_right h x.same_refl

theorem same_trans {x y z : Json} (h : x.same y = true) (h' : y.same z = true) :
    x.same z = true :=
  same_right (same_symm h) h'

end Json

/-! ### Values that are equal -/

theorem Number.toInt64?_eq_some_iff {n : Number} {a : Int} :
    n.toInt64? = some a ↔ n = .int a ∧ FitsInt64 a := by
  cases n with
  | int b =>
    rw [toInt64?]
    split
    · rw [Option.some.injEq, Number.int.injEq]
      constructor
      · rintro rfl
        exact ⟨rfl, ‹_›⟩
      · exact And.left
    · constructor
      · intro h
        cases h
      · rintro ⟨⟨⟩, h⟩
        exact absurd h ‹_›
  | float r =>
    constructor
    · intro h
      cases h
    · rintro ⟨⟨⟩, -⟩

namespace Json

variable {x y z : Json}

/-- Numbers are equal as binary64 numbers, and exactly where both are whole and of 64 bits. -/
theorem looselyEqual_number {m n : Number} : (number m).looselyEqual (.number n) = true ↔
    m.toBinary64.value = n.toBinary64.value ∧
      ∀ a b, m.toInt64? = some a → n.toInt64? = some b → a = b := by
  rw [looselyEqual]
  cases hm : m.toInt64? with
  | none => simp [Binary64.numericEq]
  | some a =>
    cases hn : n.toInt64? with
    | none => simp [Binary64.numericEq]
    | some b =>
      obtain ⟨rfl, -⟩ := Number.toInt64?_eq_some_iff.1 hm
      obtain ⟨rfl, -⟩ := Number.toInt64?_eq_some_iff.1 hn
      simp only [decide_eq_true_eq, Option.some.injEq]
      constructor
      · rintro rfl
        exact ⟨rfl, fun _ _ h h' => h.symm.trans h'⟩
      · rintro ⟨-, h⟩
        exact h a b rfl rfl

theorem looselyEqual_eq_same (h : ¬ ∃ m n, x = .number m ∧ y = .number n) :
    x.looselyEqual y = x.same y := by
  rw [looselyEqual]
  intro m n hx hy
  exact h ⟨m, n, hx, hy⟩

/-- Values are the same if they are equal, and of the same kind where they are numbers. -/
theorem same_iff : x.same y = true ↔ x.looselyEqual y = true ∧
    ∀ m n, x = .number m → y = .number n → m.same n = true := by
  by_cases hnumbers : ∃ m n, x = .number m ∧ y = .number n
  · obtain ⟨m, n, rfl, rfl⟩ := hnumbers
    constructor
    · intro h
      have h : m.same n = true := h
      refine ⟨looselyEqual_number.2 ?_, fun _ _ hm hn => by cases hm; cases hn; exact h⟩
      cases m with
      | int a =>
        cases n with
        | float s => cases h
        | int b =>
          obtain rfl := of_decide_eq_true h
          exact ⟨rfl, fun _ _ ha hb => Option.some.inj (ha.symm.trans hb)⟩
      | float r =>
        cases n with
        | int b => cases h
        | float s => exact ⟨of_decide_eq_true h, fun _ _ ha => by cases ha⟩
    · rintro ⟨-, h⟩
      exact h m n rfl rfl
  · rw [looselyEqual_eq_same hnumbers, iff_self_and]
    rintro - m n rfl rfl
    exact absurd ⟨m, n, rfl, rfl⟩ hnumbers

theorem looselyEqual_refl (x : Json) : x.looselyEqual x = true := (same_iff.1 x.same_refl).1

/-- Equal values are two numbers, or the same and no numbers. -/
theorem looselyEqual_cases (h : x.looselyEqual y = true) :
    (∃ m n, x = .number m ∧ y = .number n) ∨
      x.same y = true ∧ (∀ m, x ≠ .number m) ∧ ∀ n, y ≠ .number n := by
  by_cases hnumbers : ∃ m n, x = .number m ∧ y = .number n
  · exact Or.inl hnumbers
  · rw [looselyEqual_eq_same hnumbers] at h
    refine Or.inr ⟨h, ?_, ?_⟩
    · rintro m rfl
      cases y with
      | number n => exact hnumbers ⟨m, n, rfl, rfl⟩
      | _ => cases h
    · rintro n rfl
      cases x with
      | number m => exact hnumbers ⟨m, n, rfl, rfl⟩
      | _ => cases h

theorem looselyEqual_symm (h : x.looselyEqual y = true) : y.looselyEqual x = true := by
  rcases looselyEqual_cases h with ⟨m, n, rfl, rfl⟩ | ⟨hsame, -⟩
  · obtain ⟨hvalue, hexact⟩ := looselyEqual_number.1 h
    exact looselyEqual_number.2 ⟨hvalue.symm, fun b a hb ha => (hexact a b ha hb).symm⟩
  · exact (same_iff.1 (same_symm hsame)).1

/-- Equality is transitive, but for two whole numbers of 64 bits with a number between them that is
none. -/
theorem not_looselyEqual_iff (h : x.looselyEqual y = true) (h' : y.looselyEqual z = true) :
    ¬ x.looselyEqual z = true ↔ ∃ (a c : Int) (n : Number), x = .int a ∧ y = .number n ∧
      z = .int c ∧ FitsInt64 a ∧ FitsInt64 c ∧ n.toInt64? = none ∧ a ≠ c := by
  rcases looselyEqual_cases h with ⟨m, n, rfl, rfl⟩ | ⟨hsame, hx, hy⟩
  · rcases looselyEqual_cases h' with ⟨_, k, hn, rfl⟩ | ⟨-, hy, -⟩
    · cases hn
      obtain ⟨hvalue, hexact⟩ := looselyEqual_number.1 h
      obtain ⟨hvalue', hexact'⟩ := looselyEqual_number.1 h'
      constructor
      · intro hne
        -- Rounded, the outer numbers are equal, so only their exact values can keep them apart.
        have hints : ∃ a c, m.toInt64? = some a ∧ k.toInt64? = some c ∧ a ≠ c := by
          by_contra hnone
          refine hne (looselyEqual_number.2 ⟨hvalue.trans hvalue', fun a c ha hc => ?_⟩)
          by_contra hac
          exact hnone ⟨a, c, ha, hc, hac⟩
        obtain ⟨a, c, ha, hc, hac⟩ := hints
        have hn : n.toInt64? = none := by
          rw [Option.eq_none_iff_forall_ne_some]
          intro b hb
          exact hac ((hexact a b ha hb).trans (hexact' b c hb hc))
        obtain ⟨rfl, hafits⟩ := Number.toInt64?_eq_some_iff.1 ha
        obtain ⟨rfl, hcfits⟩ := Number.toInt64?_eq_some_iff.1 hc
        exact ⟨a, c, n, rfl, rfl, rfl, hafits, hcfits, hn, hac⟩
      · rintro ⟨a, c, _, hm, -, hk, ha, hc, -, hac⟩ hequal
        cases hm
        cases hk
        exact hac ((looselyEqual_number.1 hequal).2 a c (Expr.toInt64?_int ha)
          (Expr.toInt64?_int hc))
    · exact absurd rfl (hy n)
  · rcases looselyEqual_cases h' with ⟨n, _, rfl, -⟩ | ⟨hsame', -⟩
    · exact absurd rfl (hy n)
    · constructor
      · intro hne
        exact absurd (same_iff.1 (same_trans hsame hsame')).1 hne
      · rintro ⟨a, -, -, rfl, -⟩
        exact absurd rfl (hx (.int a))

end Json

namespace Expr

variable {facts : Json} {x y z : Expr} {xs ys : List Expr}

/-- The operator for equality holds of two expressions. -/
def Equal (facts : Json) (x y : Expr) : Prop := eval facts (.binary .eq x y) = .ok (.bool true)

theorem equal_iff : Equal facts x y ↔ ∃ v w, eval facts x = .ok v ∧ eval facts y = .ok w ∧
    v.looselyEqual w = true := by
  rw [Equal, eval]
  · cases eval facts x with
    | error e => simp
    | ok v =>
      cases eval facts y with
      | error e => simp
      | ok w => simp [applyOp]
  · intro h
    cases h
  · intro h
    cases h

theorem evalAll_eq_ok_iff {vs : List Json} : evalAll facts xs = .ok vs ↔
    List.Forall₂ (fun x v => eval facts x = .ok v) xs vs := by
  induction xs generalizing vs with
  | nil => simp [evalAll, eq_comm]
  | cons x xs ih =>
    rw [evalAll, List.forall₂_cons_left_iff]
    cases hx : eval facts x with
    | error e => simp
    | ok v =>
      cases hxs : evalAll facts xs with
      | error e => simp [← ih, hxs]
      | ok rest =>
        have hrest : ∀ {us : List Json}, List.Forall₂ (fun x v => eval facts x = .ok v) xs us ↔
            rest = us := by
          intro us
          rw [← ih, hxs, Except.ok.injEq]
        simp only [hrest, Except.ok.injEq]
        constructor
        · rintro rfl
          exact ⟨v, rest, rfl, rfl, rfl⟩
        · rintro ⟨_, _, rfl, rfl, rfl⟩
          rfl

theorem eval_list_eq_ok_iff {v : Json} : eval facts (.list xs) = .ok v ↔
    ∃ vs, evalAll facts xs = .ok vs ∧ v = .list vs := by
  rw [eval]
  cases evalAll facts xs with
  | error e => simp
  | ok vs => simp [eq_comm]

/-- Two expressions have values that are the same. -/
theorem exists_same_iff : (∃ v w, eval facts x = .ok v ∧ eval facts y = .ok w ∧
      v.same w = true) ↔
    Equal facts x y ∧ ∀ m n, eval facts x = .ok (.number m) → eval facts y = .ok (.number n) →
      m.same n = true := by
  rw [equal_iff]
  constructor
  · rintro ⟨v, w, hx, hy, h⟩
    obtain ⟨hequal, hkind⟩ := Json.same_iff.1 h
    refine ⟨⟨v, w, hx, hy, hequal⟩, fun m n hm hn => ?_⟩
    exact hkind m n (Except.ok.inj (hx.symm.trans hm)) (Except.ok.inj (hy.symm.trans hn))
  · rintro ⟨⟨v, w, hx, hy, hequal⟩, hkind⟩
    refine ⟨v, w, hx, hy, Json.same_iff.2 ⟨hequal, ?_⟩⟩
    rintro m n rfl rfl
    exact hkind m n hx hy

/-- **Lists are equal if their items are equal one by one and numbers are of the same kind.** -/
theorem equal_list_iff : Equal facts (.list xs) (.list ys) ↔
    List.Forall₂ (fun x y => Equal facts x y ∧ ∀ m n, eval facts x = .ok (.number m) →
      eval facts y = .ok (.number n) → m.same n = true) xs ys := by
  have hlist : Equal facts (.list xs) (.list ys) ↔ ∃ vs ws, evalAll facts xs = .ok vs ∧
      evalAll facts ys = .ok ws ∧ Json.sameList vs ws = true := by
    rw [equal_iff]
    constructor
    · rintro ⟨_, _, hxs, hys, h⟩
      obtain ⟨vs, hvs, rfl⟩ := eval_list_eq_ok_iff.1 hxs
      obtain ⟨ws, hws, rfl⟩ := eval_list_eq_ok_iff.1 hys
      exact ⟨vs, ws, hvs, hws, h⟩
    · rintro ⟨vs, ws, hvs, hws, h⟩
      exact ⟨_, _, eval_list_eq_ok_iff.2 ⟨vs, hvs, rfl⟩, eval_list_eq_ok_iff.2 ⟨ws, hws, rfl⟩, h⟩
  simp only [hlist, evalAll_eq_ok_iff, Json.sameList_iff, exists_forall₂_iff, exists_same_iff]

theorem exists_value_mem_iff {ws : List Json} (hys : evalAll facts ys = .ok ws)
    {P : Json → Prop} : (∃ w ∈ ws, P w) ↔ ∃ y ∈ ys, ∃ w, eval facts y = .ok w ∧ P w := by
  have hitems := evalAll_eq_ok_iff.1 hys
  clear hys
  induction hitems with
  | nil => simp
  | cons hy _ ih => simp [hy, ih]

/-- Membership in a list, in either form, is equality with one of its items. -/
theorem exists_member_iff {v : Json} {ws : List Json} (hx : eval facts x = .ok v)
    (hys : evalAll facts ys = .ok ws) : ∃ b, eval facts (.member x (.list ys)) = .ok (.bool b) ∧
      eval facts (.call .contains [.list ys, x]) = .ok (.bool b) ∧
      (b = true ↔ ∃ y ∈ ys, Equal facts y x) := by
  have hlist := eval_list_eq_ok_iff.2 ⟨ws, hys, rfl⟩
  refine ⟨ws.any fun w => w.looselyEqual v, ?_, ?_, ?_⟩
  · rw [eval, hx, hlist]
    rfl
  · simp only [eval, evalAll, hx, hys]
    rfl
  · simp only [List.any_eq_true, exists_value_mem_iff hys, equal_iff, hx, Except.ok.injEq,
      exists_and_left, exists_eq_left']

/-- A test for equality has a value where both sides have one. -/
theorem eval_eq_eq_ok {v w : Json} (hx : eval facts x = .ok v) (hy : eval facts y = .ok w) :
    eval facts (.binary .eq x y) = .ok (.bool (v.looselyEqual w)) :=
  eval_binary hx hy (by decide) (by decide)

theorem Equal.refl {v : Json} (hx : eval facts x = .ok v) : Equal facts x x :=
  equal_iff.2 ⟨v, v, hx, hx, v.looselyEqual_refl⟩

theorem Equal.symm (h : Equal facts x y) : Equal facts y x := by
  obtain ⟨v, w, hx, hy, h⟩ := equal_iff.1 h
  exact equal_iff.2 ⟨w, v, hy, hx, Json.looselyEqual_symm h⟩

/-- Equal numbers are rounded to the same number. -/
theorem Equal.value_eq {m n : Number} (h : Equal facts x y) (hx : eval facts x = .ok (.number m))
    (hy : eval facts y = .ok (.number n)) : m.toBinary64.value = n.toBinary64.value := by
  obtain ⟨v, w, hxv, hyw, h⟩ := equal_iff.1 h
  cases hx.symm.trans hxv
  cases hy.symm.trans hyw
  exact (Json.looselyEqual_number.1 h).1

/-- What is not equal though both sides equal a third expression: two different whole numbers of 64
bits, where the third is none. -/
theorem Equal.not_trans_iff (h : Equal facts x y) (h' : Equal facts y z) :
    ¬ Equal facts x z ↔ ∃ a c n, eval facts x = .ok (.int a) ∧
      eval facts y = .ok (.number n) ∧ eval facts z = .ok (.int c) ∧ FitsInt64 a ∧ FitsInt64 c ∧
      n.toInt64? = none ∧ a ≠ c := by
  obtain ⟨v, w, hx, hy, hvw⟩ := equal_iff.1 h
  obtain ⟨_, u, hy', hz, hwu⟩ := equal_iff.1 h'
  cases hy.symm.trans hy'
  have hxz : Equal facts x z ↔ v.looselyEqual u = true := by
    rw [equal_iff, hx, hz]
    simp
  rw [hxz, Json.not_looselyEqual_iff hvw hwu, hx, hy, hz]
  simp only [Except.ok.injEq]

/-- **The laws of equality.**  A test for equality has a value where both sides have one, and it is
reflexive and symmetric.  Two expressions that equal a third one are equal, but for different whole
numbers of 64 bits with a number between them that is none.  These lie at most 1024 apart, and they
are not both of 53 bits.  Lists are equal if their items are equal one by one and the numbers of the
same kind.  Membership in a list is equality with one of its items, of whatever kind. -/
theorem equal_laws (facts : Json) :
    (∀ x y v w, eval facts x = .ok v → eval facts y = .ok w →
      ∃ b, eval facts (.binary .eq x y) = .ok (.bool b)) ∧
    (∀ x v, eval facts x = .ok v → Equal facts x x) ∧
    (∀ x y, Equal facts x y → Equal facts y x) ∧
    (∀ x y z, Equal facts x y → Equal facts y z → (¬ Equal facts x z ↔ ∃ a c n,
      eval facts x = .ok (.int a) ∧ eval facts y = .ok (.number n) ∧
      eval facts z = .ok (.int c) ∧ FitsInt64 a ∧ FitsInt64 c ∧ n.toInt64? = none ∧ a ≠ c ∧
      (a - c).natAbs ≤ 1024 ∧ 9007199254740992 < max a.natAbs c.natAbs)) ∧
    (∀ xs ys, Equal facts (.list xs) (.list ys) ↔ List.Forall₂ (fun x y => Equal facts x y ∧
      ∀ m n, eval facts x = .ok (.number m) → eval facts y = .ok (.number n) →
        m.same n = true) xs ys) ∧
    ∀ x v ys ws, eval facts x = .ok v → evalAll facts ys = .ok ws →
      ∃ b, eval facts (.member x (.list ys)) = .ok (.bool b) ∧
        eval facts (.call .contains [.list ys, x]) = .ok (.bool b) ∧
        (b = true ↔ ∃ y ∈ ys, Equal facts y x) := by
  refine ⟨fun x y v w hx hy => ⟨_, eval_eq_eq_ok hx hy⟩, fun x v => Equal.refl,
    fun x y => Equal.symm, fun x y z h h' => ?_, fun xs ys => equal_list_iff,
    fun x v ys ws => exists_member_iff⟩
  rw [h.not_trans_iff h']
  constructor
  · rintro ⟨a, c, n, hx, hy, hz, ha, hc, hn, hac⟩
    have hvalue := (h.value_eq hx hy).trans (h'.value_eq hy hz)
    refine ⟨a, c, n, hx, hy, hz, ha, hc, hn, hac, natAbs_sub_le_of_value_eq ha hc hvalue, ?_⟩
    by_contra hle
    obtain ⟨hale, hcle⟩ := max_le_iff.1 (not_lt.1 hle)
    exact hac (eq_of_value_eq ha hc hale hcle hvalue)
  · rintro ⟨a, c, n, hx, hy, hz, ha, hc, hn, hac, -⟩
    exact ⟨a, c, n, hx, hy, hz, ha, hc, hn, hac⟩

/-- The size in `largeFacts`, as a binary64 number. -/
def largeFloat : Expr := .literal (.float (some (Number.int 9007199254740992).toBinary64))

/-- A size and the number after it both equal a number of the other kind but not each other, and in
lists the size does not equal this number. -/
theorem equal_laws_largeFacts :
    Equal largeFacts (.path "size" []) largeFloat ∧
    Equal largeFacts largeFloat (.path "size" []) ∧
    Equal largeFacts largeFloat (.literal (.int 9007199254740993)) ∧
    ¬ Equal largeFacts (.path "size" []) (.literal (.int 9007199254740993)) ∧
    ¬ Equal largeFacts (.list [.path "size" []]) (.list [largeFloat]) ∧
    eval largeFacts (.member largeFloat (.list [.path "size" []])) = .ok (.bool true) := by
  obtain ⟨-, -, hsymm, htrans, hlist, hmember⟩ := equal_laws largeFacts
  have hx : eval largeFacts (.path "size" []) = .ok (.int 9007199254740992) := rfl
  have hy : eval largeFacts largeFloat =
      .ok (.number (.float (Number.int 9007199254740992).toBinary64)) := rfl
  have hz : eval largeFacts (.literal (.int 9007199254740993)) =
      .ok (.int 9007199254740993) := rfl
  have hvalue : (Number.int 9007199254740992).toBinary64.value =
      (Number.int 9007199254740993).toBinary64.value := by decide +kernel
  have hxy : Equal largeFacts (.path "size" []) largeFloat :=
    equal_iff.2 ⟨_, _, hx, hy, Json.looselyEqual_number.2 ⟨rfl, fun _ _ _ h => by cases h⟩⟩
  have hyz : Equal largeFacts largeFloat (.literal (.int 9007199254740993)) :=
    equal_iff.2 ⟨_, _, hy, hz, Json.looselyEqual_number.2 ⟨hvalue, fun _ _ h => by cases h⟩⟩
  have hxz := (htrans _ _ _ hxy hyz).2 ⟨_, _, _, hx, hy, hz, by decide, by decide, rfl,
    by decide, by decide, by decide⟩
  refine ⟨hxy, hsymm _ _ hxy, hyz, hxz, ?_, ?_⟩
  · intro h
    cases (hlist _ _).1 h with
    | cons hitem => cases hitem.2 _ _ hx hy
  · obtain ⟨b, hin, -, hb⟩ := hmember largeFloat _ [.path "size" []] [_] hy
      (evalAll_eq_ok_iff.2 (.cons hx .nil))
    rw [hin, hb.2 ⟨_, List.mem_singleton_self _, hxy⟩]

end Expr

end Regrant
