import Mathlib.Logic.Function.Iterate
import Regrant.Regex.Basic

/-!
# What regular expressions match

`Regex.Spans` says when the part of a text between two positions matches a regular expression, by
recursion on the expression.  `reach` moves whole sets of positions instead; `testBit_reach` says
that it moves them along the spans, and `search_iff` that a search finds a span if there is one.

Repetition is where the two differ in form: a span may repeat any number of times, `reach` goes
round no more than once for each position of the text and once more.  That is enough, since spans
only lead forward: rounds that go nowhere can be left out or repeated (`Forward.exists_steps_le`,
`Forward.steps_iff`).
-/

namespace Regrant.Regex

/-! ### Steps -/

/-- From `i` to `j` in so many steps. -/
def Steps (R : Nat → Nat → Prop) : Nat → Nat → Nat → Prop
  | 0, i, j => i = j
  | n + 1, i, j => ∃ m, R i m ∧ Steps R n m j

/-- No step leads back, and no step that moves leads beyond `last`. -/
def Forward (last : Nat) (R : Nat → Nat → Prop) : Prop :=
  ∀ i j, R i j → i ≤ j ∧ (i < j → j ≤ last)

section

variable {R : Nat → Nat → Prop} {last n m i j k : Nat}

theorem Steps.trans (h : Steps R n i j) (g : Steps R m j k) : Steps R (n + m) i k := by
  induction n generalizing i with
  | zero =>
    obtain rfl : i = j := h
    rwa [Nat.zero_add]
  | succ n ih =>
    obtain ⟨l, hl, h⟩ := h
    rw [Nat.succ_add_eq_add_succ]
    exact ⟨l, hl, ih h⟩

theorem Steps.split (h : Steps R (n + m) i k) : ∃ j, Steps R n i j ∧ Steps R m j k := by
  induction n generalizing i with
  | zero => exact ⟨i, rfl, by rwa [Nat.zero_add] at h⟩
  | succ n ih =>
    rw [Nat.succ_add_eq_add_succ] at h
    obtain ⟨l, hl, h⟩ := h
    obtain ⟨j, hn, hm⟩ := ih h
    exact ⟨j, ⟨l, hl, hn⟩, hm⟩

theorem Forward.steps (hR : Forward last R) : Forward last (Steps R n) := by
  induction n with
  | zero =>
    intro i j h
    obtain rfl : i = j := h
    exact ⟨Nat.le_refl _, fun hlt => absurd hlt (Nat.lt_irrefl _)⟩
  | succ n ih =>
    rintro i j ⟨m, hm, h⟩
    have hstep := hR i m hm
    have hrest := ih m j h
    constructor
    · omega
    · intro hlt
      by_cases hmj : m < j
      · exact hrest.2 hmj
      · have hmove : i < m := by omega
        have := hstep.2 hmove
        omega

/-- Steps that all move cover the ground; if one does not, it can be left out or made twice. -/
theorem Forward.steps_succ (hR : Forward last R) (h : Steps R (n + 1) i j) :
    Steps R n i j ∧ Steps R (n + 2) i j ∨ i + (n + 1) ≤ j := by
  induction n generalizing i with
  | zero =>
    obtain ⟨m, hm, h⟩ := h
    obtain rfl : m = j := h
    have hstep := hR i m hm
    by_cases heq : i = m
    · subst heq
      exact Or.inl ⟨rfl, i, hm, i, hm, rfl⟩
    · right
      omega
  | succ n ih =>
    obtain ⟨m, hm, h⟩ := h
    have hstep := hR i m hm
    by_cases heq : i = m
    · subst heq
      exact Or.inl ⟨h, i, hm, i, hm, h⟩
    · rcases ih h with ⟨hless, hmore⟩ | hle
      · exact Or.inl ⟨⟨m, hm, hless⟩, m, hm, hmore⟩
      · right
        omega

/-- Beyond the last position, the number of steps does not matter. -/
theorem Forward.steps_iff (hR : Forward last R) (hn : last < n) (hm : last < m) :
    Steps R n i j ↔ Steps R m i j := by
  have hstep : ∀ k, last < k → (Steps R k i j ↔ Steps R (k + 1) i j) := by
    intro k hk
    have hfar : ∀ l, last < l → Steps R l i j → ¬ i + l ≤ j := by
      intro l hl h hle
      have := (hR.steps i j h).2 (by omega)
      omega
    constructor
    · intro h
      obtain ⟨l, rfl⟩ : ∃ l, k = l + 1 := ⟨k - 1, by omega⟩
      rcases hR.steps_succ h with ⟨-, hmore⟩ | hle
      · exact hmore
      · exact absurd hle (hfar _ hk h)
    · intro h
      rcases hR.steps_succ h with ⟨hless, -⟩ | hle
      · exact hless
      · exact absurd hle (hfar _ (by omega) h)
  have hall : ∀ d, Steps R (last + 1) i j ↔ Steps R (last + 1 + d) i j := by
    intro d
    induction d with
    | zero => rfl
    | succ d ih => rw [ih, hstep (last + 1 + d) (by omega), Nat.add_assoc]
  obtain ⟨a, rfl⟩ : ∃ a, n = last + 1 + a := ⟨n - (last + 1), by omega⟩
  obtain ⟨b, rfl⟩ : ∃ b, m = last + 1 + b := ⟨m - (last + 1), by omega⟩
  rw [← hall a, ← hall b]

/-- Steps that do not move can be left out, and there are no more others than positions. -/
theorem Forward.exists_steps_le (hR : Forward last R) (h : Steps R n i j) :
    ∃ m ≤ n, m ≤ last ∧ Steps R m i j := by
  induction n with
  | zero => exact ⟨0, Nat.le_refl _, Nat.zero_le _, h⟩
  | succ n ih =>
    rcases hR.steps_succ h with ⟨hless, -⟩ | hle
    · obtain ⟨m, hm, hlast, h⟩ := ih hless
      exact ⟨m, by omega, hlast, h⟩
    · have := (hR.steps i j h).2 (by omega)
      exact ⟨n + 1, Nat.le_refl _, by omega, h⟩

end

/-! ### Spans -/

/-- The text between two positions matches. -/
def Spans (text : List Char) : Regex → Nat → Nat → Prop
  | empty, i, j => i = j
  | chars set, i, j => j = i + 1 ∧ ∃ c, text[i]? = some c ∧ set c = true
  | look l, i, j => i = j ∧ ∃ p, (positions text)[i]? = some p ∧ l.holds p.1 p.2 = true
  | concat r s, i, k => ∃ j, r.Spans text i j ∧ s.Spans text j k
  | alternate r s, i, j => r.Spans text i j ∨ s.Spans text i j
  | times r low extra, i, j =>
    ∃ n, low ≤ n ∧ (∀ k ∈ extra, n ≤ low + k) ∧ Steps (r.Spans text) n i j

variable {text : List Char}

theorem forward_spans (text : List Char) (r : Regex) : Forward text.length (r.Spans text) := by
  induction r with
  | empty =>
    intro i j h
    obtain rfl : i = j := h
    exact ⟨Nat.le_refl _, fun hlt => absurd hlt (Nat.lt_irrefl _)⟩
  | chars set =>
    rintro i j ⟨rfl, c, hget, -⟩
    have := (List.getElem?_eq_some_iff.1 hget).1
    constructor
    · omega
    · omega
  | look l =>
    rintro i j ⟨rfl, -⟩
    exact ⟨Nat.le_refl _, fun hlt => absurd hlt (Nat.lt_irrefl _)⟩
  | concat r s ihr ihs =>
    rintro i k ⟨j, hr, hs⟩
    have hr := ihr i j hr
    have hs := ihs j k hs
    constructor
    · omega
    · intro hlt
      by_cases hjk : j < k
      · exact hs.2 hjk
      · have := hr.2 (by omega)
        omega
  | alternate r s ihr ihs =>
    rintro i j (h | h)
    · exact ihr i j h
    · exact ihs i j h
  | times r low extra ih =>
    rintro i j ⟨n, -, -, h⟩
    exact ih.steps i j h

/-! ### Sets of positions -/

theorem testBit_positionsWhere {α : Type} {p : α → Bool} {l : List α} {i : Nat} :
    (positionsWhere p l).testBit i = true ↔ ∃ a, l[i]? = some a ∧ p a = true := by
  induction l generalizing i with
  | nil => simp [positionsWhere]
  | cons a l ih =>
    have hcons : positionsWhere p (a :: l) = 2 * positionsWhere p l + (if p a then 1 else 0) := rfl
    have hbit : (if p a = true then 1 else 0) < 2 := by split <;> omega
    cases i with
    | zero =>
      rw [hcons, Nat.testBit_zero, List.getElem?_cons_zero]
      cases hp : p a
      · simp [hp]
      · simp [hp]
    | succ i =>
      have hhalf : (2 * positionsWhere p l + (if p a then 1 else 0)) / 2 = positionsWhere p l := by
        omega
      rw [hcons, Nat.testBit_add_one, hhalf, ih, List.getElem?_cons_succ]

theorem testBit_double {n i : Nat} :
    (2 * n).testBit i = true ↔ ∃ j, i = j + 1 ∧ n.testBit j = true := by
  cases i with
  | zero => simp [Nat.testBit_zero]
  | succ i =>
    have hhalf : 2 * n / 2 = n := by omega
    rw [Nat.testBit_add_one, hhalf]
    simp

theorem iterate_eq {α : Type} [DecidableEq α] (f : α → α) (n : Nat) (a : α) :
    iterate f n a = f^[n] a := by
  induction n generalizing a with
  | zero => rfl
  | succ n ih =>
    rw [iterate, Function.iterate_succ_apply]
    split
    · rename_i hfix
      have hfix : f a = a := hfix
      rw [hfix, Function.iterate_fixed hfix]
    · exact ih (f a)

section

variable {R : Nat → Nat → Prop} {f : Nat → Nat}

theorem testBit_iterate
    (hf : ∀ starts j, (f starts).testBit j = true ↔ ∃ i, starts.testBit i = true ∧ R i j)
    (n starts j : Nat) :
    (f^[n] starts).testBit j = true ↔ ∃ i, starts.testBit i = true ∧ Steps R n i j := by
  induction n generalizing starts with
  | zero =>
    constructor
    · intro h
      exact ⟨j, h, rfl⟩
    · rintro ⟨i, h, rfl⟩
      exact h
  | succ n ih =>
    rw [Function.iterate_succ_apply, ih]
    constructor
    · rintro ⟨m, hm, h⟩
      obtain ⟨i, hi, hR⟩ := (hf _ _).1 hm
      exact ⟨i, hi, m, hR, h⟩
    · rintro ⟨i, hi, m, hR, h⟩
      exact ⟨m, (hf _ _).2 ⟨i, hi, hR⟩, h⟩

/-- Rounds that keep what was found before. -/
theorem testBit_iterate_or
    (hf : ∀ starts j, (f starts).testBit j = true ↔ ∃ i, starts.testBit i = true ∧ R i j)
    (n starts j : Nat) :
    ((fun found => found ||| f found)^[n] starts).testBit j = true ↔
      ∃ i, starts.testBit i = true ∧ ∃ m ≤ n, Steps R m i j := by
  induction n generalizing j with
  | zero =>
    constructor
    · intro h
      exact ⟨j, h, 0, Nat.le_refl _, rfl⟩
    · rintro ⟨i, hi, m, hm, h⟩
      obtain rfl : m = 0 := by omega
      obtain rfl : i = j := h
      exact hi
  | succ n ih =>
    rw [Function.iterate_succ_apply', Nat.testBit_or, Bool.or_eq_true, ih, hf]
    constructor
    · rintro (⟨i, hi, m, hm, h⟩ | ⟨l, hl, hlast⟩)
      · exact ⟨i, hi, m, by omega, h⟩
      · obtain ⟨i, hi, m, hm, h⟩ := (ih l).1 hl
        exact ⟨i, hi, m + 1, by omega, h.trans ⟨j, hlast, rfl⟩⟩
    · rintro ⟨i, hi, m, hm, h⟩
      by_cases hmn : m ≤ n
      · exact Or.inl ⟨i, hi, m, hmn, h⟩
      · obtain rfl : m = n + 1 := by omega
        obtain ⟨l, hbefore, k, hlast, hk⟩ := h.split
        obtain rfl : k = j := hk
        exact Or.inr ⟨l, (ih l).2 ⟨i, hi, n, Nat.le_refl _, hbefore⟩, hlast⟩

end

/-- The rounds of a repetition are cut at the number of positions, and nothing is lost. -/
theorem steps_rounds {R : Nat → Nat → Prop} {last : Nat} (hR : Forward last R) {low : Nat}
    {extra : Option Nat} {i j : Nat} :
    (∃ m, Steps R (min low (last + 1)) i m ∧
        ∃ n ≤ min (extra.getD (last + 1)) (last + 1), Steps R n m j) ↔
      ∃ n, low ≤ n ∧ (∀ k ∈ extra, n ≤ low + k) ∧ Steps R n i j := by
  have hlow : ∀ a b, Steps R (min low (last + 1)) a b ↔ Steps R low a b := by
    intro a b
    by_cases hle : low ≤ last + 1
    · rw [Nat.min_eq_left hle]
    · exact hR.steps_iff (by omega) (by omega)
  simp only [hlow]
  constructor
  · rintro ⟨m, hm, n, hn, h⟩
    refine ⟨low + n, Nat.le_add_right _ _, ?_, hm.trans h⟩
    rintro k hk
    obtain rfl : extra = some k := hk
    have : n ≤ k := Nat.le_trans hn (Nat.min_le_left _ _)
    omega
  · rintro ⟨n, hn, hextra, h⟩
    obtain ⟨d, rfl⟩ := Nat.exists_eq_add_of_le hn
    obtain ⟨m, hm, h⟩ := h.split
    obtain ⟨d', hd', hlast, h⟩ := hR.exists_steps_le h
    refine ⟨m, hm, d', ?_, h⟩
    cases extra with
    | none =>
      rw [Option.getD_none, Nat.min_self]
      omega
    | some k =>
      have := hextra k rfl
      rw [Option.getD_some]
      omega

/-- **Sets of positions move along the spans.** -/
theorem testBit_reach {r : Regex} {starts j : Nat} :
    (r.reach text starts).testBit j = true ↔ ∃ i, starts.testBit i = true ∧ r.Spans text i j := by
  induction r generalizing starts j with
  | empty =>
    constructor
    · intro h
      exact ⟨j, h, rfl⟩
    · rintro ⟨i, h, rfl⟩
      exact h
  | chars set =>
    rw [reach, testBit_double]
    simp only [Nat.testBit_and, Bool.and_eq_true, testBit_positionsWhere]
    constructor
    · rintro ⟨i, rfl, hi, hset⟩
      exact ⟨i, hi, rfl, hset⟩
    · rintro ⟨i, hi, rfl, hset⟩
      exact ⟨i, rfl, hi, hset⟩
  | look l =>
    rw [reach, Nat.testBit_and, Bool.and_eq_true, testBit_positionsWhere]
    constructor
    · rintro ⟨hj, hl⟩
      exact ⟨j, hj, rfl, hl⟩
    · rintro ⟨i, hi, rfl, hl⟩
      exact ⟨hi, hl⟩
  | concat r s ihr ihs =>
    rw [reach, ihs]
    constructor
    · rintro ⟨m, hm, hs⟩
      obtain ⟨i, hi, hr⟩ := ihr.1 hm
      exact ⟨i, hi, m, hr, hs⟩
    · rintro ⟨i, hi, m, hr, hs⟩
      exact ⟨m, ihr.2 ⟨i, hi, hr⟩, hs⟩
  | alternate r s ihr ihs =>
    rw [reach, Nat.testBit_or, Bool.or_eq_true, ihr, ihs]
    constructor
    · rintro (⟨i, hi, h⟩ | ⟨i, hi, h⟩)
      · exact ⟨i, hi, Or.inl h⟩
      · exact ⟨i, hi, Or.inr h⟩
    · rintro ⟨i, hi, h | h⟩
      · exact Or.inl ⟨i, hi, h⟩
      · exact Or.inr ⟨i, hi, h⟩
  | times r low extra ih =>
    have hround : ∀ starts j, (r.reach text starts).testBit j = true ↔
        ∃ i, starts.testBit i = true ∧ r.Spans text i j := fun _ _ => ih
    rw [reach]
    simp only [iterate_eq]
    rw [testBit_iterate_or hround]
    simp only [testBit_iterate hround]
    constructor
    · rintro ⟨m, ⟨i, hi, hm⟩, n, hn, h⟩
      exact ⟨i, hi, (steps_rounds (forward_spans text r)).1 ⟨m, hm, n, hn, h⟩⟩
    · rintro ⟨i, hi, h⟩
      obtain ⟨m, hm, n, hn, h⟩ := (steps_rounds (forward_spans text r)).2 h
      exact ⟨m, ⟨i, hi, hm⟩, n, hn, h⟩

/-- **A search finds a span if there is one.** -/
theorem search_iff {r : Regex} :
    r.search text = true ↔ ∃ i j, i ≤ text.length ∧ r.Spans text i j := by
  have hstarts : ∀ i, ((1 <<< (text.length + 1)) - 1).testBit i = true ↔ i ≤ text.length := by
    intro i
    rw [Nat.one_shiftLeft, Nat.testBit_two_pow_sub_one, decide_eq_true_eq, Nat.lt_succ_iff]
  rw [search, bne_iff_ne]
  constructor
  · intro h
    obtain ⟨j, hj⟩ := Nat.exists_testBit_of_ne_zero h
    obtain ⟨i, hi, hspan⟩ := testBit_reach.1 hj
    exact ⟨i, j, (hstarts i).1 hi, hspan⟩
  · rintro ⟨i, j, hi, hspan⟩ hzero
    have hj := testBit_reach.2 ⟨i, (hstarts i).2 hi, hspan⟩
    rw [hzero, Nat.zero_testBit] at hj
    cases hj

/-! ### Anchors -/

theorem getElem?_positions {i : Nat} (hi : i ≤ text.length) :
    ∃ before after, (positions text)[i]? = some (before, after) ∧
      (before.isNone = true ↔ i = 0) ∧ (after.isNone = true ↔ i = text.length) := by
  have hbefore : ∃ b, (none :: text.map some)[i]? = some b ∧ (b.isNone = true ↔ i = 0) := by
    cases i with
    | zero => exact ⟨none, rfl, by simp⟩
    | succ i =>
      have hlt : i < text.length := by omega
      exact ⟨some text[i], by simp [hlt], by simp⟩
  have hafter : ∃ a, (text.map some ++ [none])[i]? = some a ∧
      (a.isNone = true ↔ i = text.length) := by
    by_cases hlt : i < text.length
    · refine ⟨some text[i], ?_, by simp; omega⟩
      rw [List.getElem?_append_left (by simpa using hlt)]
      simp [hlt]
    · obtain rfl : i = text.length := by omega
      exact ⟨none, by simp, by simp⟩
  obtain ⟨b, hb, hstart⟩ := hbefore
  obtain ⟨a, ha, hend⟩ := hafter
  exact ⟨b, a, List.getElem?_zip_eq_some.2 ⟨hb, ha⟩, hstart, hend⟩

theorem length_positions : (positions text).length = text.length + 1 := by
  simp [positions]

theorem spans_textStart {i j : Nat} :
    (look .textStart).Spans text i j ↔ i = 0 ∧ j = 0 := by
  constructor
  · rintro ⟨rfl, p, hp, hl⟩
    have hlt := (List.getElem?_eq_some_iff.1 hp).1
    rw [length_positions] at hlt
    obtain ⟨b, a, hget, hstart, -⟩ := getElem?_positions (show i ≤ text.length by omega)
    rw [hget] at hp
    cases hp
    exact ⟨hstart.1 hl, hstart.1 hl⟩
  · rintro ⟨rfl, rfl⟩
    obtain ⟨b, a, hget, hstart, -⟩ := getElem?_positions (Nat.zero_le text.length)
    exact ⟨rfl, (b, a), hget, hstart.2 rfl⟩

theorem spans_textEnd {i j : Nat} :
    (look .textEnd).Spans text i j ↔ i = text.length ∧ j = text.length := by
  constructor
  · rintro ⟨rfl, p, hp, hl⟩
    have hlt := (List.getElem?_eq_some_iff.1 hp).1
    rw [length_positions] at hlt
    obtain ⟨b, a, hget, -, hend⟩ := getElem?_positions (show i ≤ text.length by omega)
    rw [hget] at hp
    cases hp
    exact ⟨hend.1 hl, hend.1 hl⟩
  · rintro ⟨rfl, rfl⟩
    obtain ⟨b, a, hget, -, hend⟩ := getElem?_positions (Nat.le_refl text.length)
    exact ⟨rfl, (b, a), hget, hend.2 rfl⟩

end Regrant.Regex
