import Regrant.Regex.Parse

/-!
# Reading plain parts of regular expressions

What one step of the reader makes of the parts that need no look ahead: characters that stand for
themselves, escaped characters, the dot and its repetition, anchors, groups without a name and
alternatives.  All is read under the flags that hold at the start of a pattern.

`escape` writes a text so that each of its characters stands for itself, and `replaceAll` replaces
text as editors do, from left to right.  `replaceAll_flatMap` says what a replacement does to a text
in which backslashes only stand in front of what they escape.
-/

namespace Regrant.Regex

/-! ### Steps of the reader -/

section

variable {parts branches : List Part} {outer : List Group} {names : List String} {c : Char}
  {cs rest : List Char}

/-- A reader under the flags of the start. -/
def Reader.plain (parts branches : List Part) (outer : List Group) (names : List String) : Reader :=
  ⟨⟨{}, parts, branches⟩, outer, names⟩

theorem escapeAt_of_isMeta (h : isMeta c = true) :
    escapeAt {} (c :: cs) = some (.literal c false, cs) := by
  rw [isMeta, List.contains_iff_mem] at h
  simp only [String.reduceToList, List.mem_cons, List.not_mem_nil, or_false] at h
  rcases h with rfl | rfl | rfl | rfl | rfl | rfl | rfl | rfl | rfl | rfl | rfl | rfl | rfl | rfl |
    rfl | rfl | rfl | rfl <;> rfl

theorem atomAt_of_not_isMeta (h : isMeta c = false) :
    atomAt {} (c :: cs) = some ((.chars (· = c), 0), cs) := by
  have hne : ∀ d, isMeta d = true → c ≠ d := by
    rintro d hd rfl
    rw [h] at hd
    cases hd
  rw [atomAt]
  · rfl
  all_goals exact hne _ rfl

theorem step_escaped (h : isMeta c = true) :
    (Reader.plain parts branches outer names).step ('\\' :: c :: cs) =
      some (Reader.plain (⟨some (.chars (· = c)), 0⟩ :: parts) branches outer names, cs) := by
  have hatom : atomAt {} ('\\' :: c :: cs) = some ((.chars (· = c), 0), cs) := by
    rw [atomAt, escapeAt_of_isMeta h]
    rfl
  show (atomAt {} ('\\' :: c :: cs)).bind _ = _
  rw [hatom]
  rfl

theorem step_literal (h : isMeta c = false) :
    (Reader.plain parts branches outer names).step (c :: cs) =
      some (Reader.plain (⟨some (.chars (· = c)), 0⟩ :: parts) branches outer names, cs) := by
  have hne : ∀ d, isMeta d = true → ∀ rest : List Char, c :: cs ≠ d :: rest := by
    rintro d hd rest heq
    cases heq
    rw [h] at hd
    cases hd
  rw [Reader.step]
  · show (atomAt {} (c :: cs)).bind _ = _
    rw [atomAt_of_not_isMeta h]
    rfl
  all_goals exact hne _ rfl

theorem step_dot : (Reader.plain parts branches outer names).step ('.' :: cs) =
    some (Reader.plain (⟨some (.chars ({} : Flags).dot), 0⟩ :: parts) branches outer names, cs) :=
  rfl

theorem step_star {r : Regex} {depth : Nat} :
    (Reader.plain (⟨some r, depth⟩ :: parts) branches outer names).step ('*' :: cs) =
      some (Reader.plain (⟨some (.times r 0 none), depth + 1⟩ :: parts) branches outer names,
        lazyMark cs) := rfl

theorem step_textStart : (Reader.plain parts branches outer names).step ('^' :: cs) =
    some (Reader.plain (⟨some (.look .textStart), 0⟩ :: parts) branches outer names, cs) := rfl

theorem step_textEnd : (Reader.plain parts branches outer names).step ('$' :: cs) =
    some (Reader.plain (⟨some (.look .textEnd), 0⟩ :: parts) branches outer names, cs) := rfl

theorem step_open : (Reader.plain parts branches outer names).step ('(' :: '?' :: ':' :: cs) =
    some (Reader.plain [] [] (⟨{}, parts, branches⟩ :: outer) names, cs) := rfl

theorem step_close {g : Group} :
    Reader.step ⟨g, ⟨{}, parts, branches⟩ :: outer, names⟩ (')' :: cs) =
      some (Reader.plain (⟨some (g.close.regex.getD .empty), g.close.depth + 1⟩ :: parts) branches
        outer names, cs) := rfl

theorem step_bar : (Reader.plain parts branches outer names).step ('|' :: cs) =
    some (Reader.plain [] (Group.sequence ⟨{}, parts, branches⟩ :: branches) outer names, cs) := rfl

theorem run_cons {s : Reader}
    (h : (Reader.plain parts branches outer names).step (c :: cs) = some (s, rest))
    (hlen : rest.length ≤ cs.length) :
    (Reader.plain parts branches outer names).run (c :: cs) = s.run rest := by
  have hskip : skip (Reader.plain parts branches outer names).inner.flags (c :: cs) = c :: cs := rfl
  rw [Reader.run, hskip]
  simp only [h]
  exact if_pos (Nat.lt_succ_of_le hlen)

theorem run_nil : (Reader.plain parts branches [] names).run [] =
    some (Group.close ⟨{}, parts, branches⟩) := by
  rw [Reader.run]
  rfl

/-- A pattern that can be read, and is not nested too deep, is refused for its size only. -/
theorem parse?_eq {pattern : String} {r : Regex} {depth : Nat}
    (h : (Reader.plain [] [] [] []).run pattern.toList = some ⟨some r, depth⟩)
    (hdepth : depth ≤ maxNesting) :
    parse? pattern = if r.unfolded ≤ maxUnfolded then some r else none := by
  show ((Reader.plain [] [] [] []).run pattern.toList >>= fun p => p.regex >>= fun r =>
    if p.depth ≤ maxNesting ∧ r.unfolded ≤ maxUnfolded then some r else none) = _
  rw [h]
  show (if depth ≤ maxNesting ∧ r.unfolded ≤ maxUnfolded then some r else none) = _
  simp only [hdepth, true_and]

end

/-! ### Text that stands for itself -/

/-- A character that means something in regular expressions is escaped by a backslash. -/
def escapeChar (c : Char) : List Char := if isMeta c then ['\\', c] else [c]

/-- The text as a regular expression that only the text matches. -/
def escape (cs : List Char) : List Char := cs.flatMap escapeChar

/-- Replace the text `o :: old` wherever it occurs, from left to right. -/
def replaceAll (o : Char) (old new : List Char) : List Char → List Char
  | [] => []
  | c :: cs =>
    if (o :: old).isPrefixOf (c :: cs) then new ++ replaceAll o old new (cs.drop old.length)
    else c :: replaceAll o old new cs
termination_by cs => cs.length
decreasing_by
  · simp only [List.length_drop, List.length_cons]
    omega
  · simp

section

variable {w : Char} {new : List Char}

theorem replaceAll_match (cs : List Char) :
    replaceAll '\\' [w] new ('\\' :: w :: cs) = new ++ replaceAll '\\' [w] new cs := by
  rw [replaceAll, if_pos (by simp)]
  rfl

theorem replaceAll_cons {c : Char} {cs : List Char} (h : c ≠ '\\' ∨ cs.head? ≠ some w) :
    replaceAll '\\' [w] new (c :: cs) = c :: replaceAll '\\' [w] new cs := by
  rw [replaceAll, if_neg]
  intro hprefix
  cases cs with
  | nil => simp at hprefix
  | cons d cs =>
    simp only [List.isPrefixOf, Bool.and_true, Bool.and_eq_true, beq_iff_eq] at hprefix
    rcases h with hc | hd
    · exact hc hprefix.1.symm
    · exact hd (congrArg some hprefix.2.symm)

/-- Text without backslashes is kept. -/
theorem replaceAll_append {a cs : List Char} (h : '\\' ∉ a) :
    replaceAll '\\' [w] new (a ++ cs) = a ++ replaceAll '\\' [w] new cs := by
  induction a with
  | nil => rfl
  | cons c a ih =>
    obtain ⟨hc, ha⟩ := not_or.1 (mt List.mem_cons.2 h)
    rw [List.cons_append, replaceAll_cons (Or.inl (Ne.symm hc)), ih ha, List.cons_append]

/-- The spelling of a character is kept by a replacement of `w`, or it is `w` with a backslash. -/
inductive Respelled (w : Char) (new : List Char) : List Char → List Char → Prop
  | replaced : Respelled w new ['\\', w] new
  | escaped {c : Char} : c ≠ w → Respelled w new ['\\', c] ['\\', c]
  | free {c : Char} {a : List Char} : '\\' ∉ c :: a → c ≠ w → Respelled w new (c :: a) (c :: a)

theorem Respelled.escapeChar_self (h : isMeta w = true) : Respelled w new (escapeChar w) new := by
  rw [escapeChar, if_pos h]
  exact .replaced

theorem Respelled.escapeChar_ne {c : Char} (h : c ≠ w) :
    Respelled w new (escapeChar c) (escapeChar c) := by
  rw [escapeChar]
  split
  · exact .escaped h
  · rename_i hmeta
    refine .free (fun hmem => ?_) h
    obtain rfl := List.mem_singleton.1 hmem
    exact hmeta rfl

/-- No spelling begins with the character that is replaced behind a backslash. -/
theorem Respelled.head?_append_ne {a a' : List Char} (h : Respelled w new a a') (hw : w ≠ '\\')
    (cs : List Char) : (a ++ cs).head? ≠ some w := by
  cases h with
  | replaced => simpa using Ne.symm hw
  | escaped _ => simpa using Ne.symm hw
  | free _ hc => simpa using hc

/-- A replacement of escaped characters goes through a text character by character. -/
theorem replaceAll_flatMap {spell spell' : Char → List Char} (hw : w ≠ '\\')
    (h : ∀ c, Respelled w new (spell c) (spell' c)) (cs : List Char) :
    replaceAll '\\' [w] new (cs.flatMap spell) = cs.flatMap spell' := by
  induction cs with
  | nil => rw [List.flatMap_nil, List.flatMap_nil, replaceAll]
  | cons c cs ih =>
    -- an escaped backslash is not taken for the start of a match
    have hnext : (cs.flatMap spell).head? ≠ some w := by
      cases cs with
      | nil => simp
      | cons d cs => exact (h d).head?_append_ne hw _
    rw [List.flatMap_cons, List.flatMap_cons, ← ih]
    have hc := h c
    generalize spell c = a at hc
    generalize spell' c = a' at hc
    cases hc with
    | replaced => exact replaceAll_match _
    | @escaped d hd =>
      rw [List.cons_append, List.singleton_append, replaceAll_cons (Or.inr (by simpa using hd)),
        replaceAll_cons (Or.inr hnext)]
      rfl
    | free ha _ => exact replaceAll_append ha

end

end Regrant.Regex
