import Regrant.Proofs.Path.Language
import Regrant.Proofs.Regex.Group
import Regrant.Proofs.Regex.Literal

/-!
# Path patterns as regular expressions

A path pattern can be spelled as a regular expression: everything in it is escaped, then the two
wildcards get their meaning back by replacing `\*` by `.*` and `\?` by `.`, and anchors are set
around it (`expression`).  Backslashes of the pattern come out as two, so a backslash in front of a
wildcard is not mistaken for the mark of an escaped one (`wildcards_eq`).

* `run_expression`: the parts that the text is read into;
* `spans_pieces`: the pieces of a pattern match what can be cut for them;
* `parse?_expression`: the regular expression is found in a path exactly if one of the patterns
  takes the whole path;
* `matchesPath_iff_globs`: residuals and regular expression agree on the language of a pattern.
-/

namespace Regrant.PathPattern

open Regex (Part Group Reader isMeta escapeChar escape replaceAll Respelled replaceAll_flatMap)

/-! ### Spelling -/

/-- A pattern with its wildcards as a regular expression. -/
def wildcards (pattern : List Char) : List Char :=
  replaceAll '\\' ['?'] ['.'] (replaceAll '\\' ['*'] ['.', '*'] (escape pattern))

/-- An alternative in brackets. -/
def bracket (a : List Char) : List Char := '(' :: '?' :: ':' :: (a ++ [')'])

/-- The regular expression of all of a path that one of the patterns takes. -/
def expression (patterns : List (List Char)) : String :=
  String.ofList ('^' ::
    (bracket (['|'].intercalate (patterns.map fun p => bracket (wildcards p))) ++ ['$']))

namespace Piece

/-- How a piece is spelled in a regular expression. -/
def spelling : Piece → List Char
  | .anyRun => ['.', '*']
  | .anyChar => ['.']
  | .exactly c => escapeChar c

/-- What the spelling of a piece is read as. -/
def regex : Piece → Regex
  | .anyRun => .times (.chars ({} : Regex.Flags).dot) 0 none
  | .anyChar => .chars ({} : Regex.Flags).dot
  | .exactly c => .chars (· = c)

def part : Piece → Part
  | .anyRun => ⟨some (Piece.anyRun.regex), 1⟩
  | p => ⟨some p.regex, 0⟩

end Piece

/-- The spelling of a character once the runs have their meaning back. -/
def starSpelling (c : Char) : List Char := if c = '*' then ['.', '*'] else escapeChar c

theorem respelled_star (c : Char) : Respelled '*' ['.', '*'] (escapeChar c) (starSpelling c) := by
  rw [starSpelling]
  split
  · rename_i hc
    subst hc
    exact .escapeChar_self rfl
  · rename_i hc
    exact .escapeChar_ne hc

theorem respelled_mark (c : Char) : Respelled '?' ['.'] (starSpelling c) (pieceOf c).spelling := by
  by_cases hstar : c = '*'
  · subst hstar
    exact .free (by decide) (by decide)
  · rw [starSpelling, if_neg hstar]
    by_cases hmark : c = '?'
    · subst hmark
      exact .escapeChar_self rfl
    · rw [pieceOf_eq_exactly hstar hmark]
      exact .escapeChar_ne hmark

/-- **The wildcards, and nothing else, get their meaning back.** -/
theorem wildcards_eq (pattern : List Char) :
    wildcards pattern = (pattern.map pieceOf).flatMap Piece.spelling := by
  rw [wildcards, escape, replaceAll_flatMap (by decide) respelled_star,
    replaceAll_flatMap (by decide) respelled_mark, List.flatMap_map]

/-! ### Reading -/

section

variable {parts branches : List Part} {outer : List Group} {names : List String} {rest : List Char}

theorem lazyMark_eq (h : rest.head? ≠ some '?') : Regex.lazyMark rest = rest := by
  rw [Regex.lazyMark]
  rintro cs rfl
  exact h rfl

/-- No spelling begins with a question mark, which would make a repetition before it a lazy one. -/
theorem Piece.head?_spelling_append (p : Piece) (rest : List Char) :
    (p.spelling ++ rest).head? ≠ some '?' := by
  cases p with
  | anyRun => simp [spelling]
  | anyChar => simp [spelling]
  | exactly c =>
    rw [spelling, escapeChar]
    split
    · simp
    · rename_i hmeta
      intro heq
      obtain rfl : c = '?' := Option.some.inj heq
      exact hmeta rfl

theorem run_piece (p : Piece) (h : rest.head? ≠ some '?') :
    (Reader.plain parts branches outer names).run (p.spelling ++ rest) =
      (Reader.plain (p.part :: parts) branches outer names).run rest := by
  cases p with
  | anyRun =>
    have hlazy : Regex.lazyMark rest = rest := lazyMark_eq h
    show Reader.run _ ('.' :: '*' :: rest) = _
    rw [Regex.run_cons Regex.step_dot (Nat.le_refl _),
      Regex.run_cons Regex.step_star (Nat.le_of_eq (congrArg List.length hlazy)), hlazy]
    rfl
  | anyChar =>
    show Reader.run _ ('.' :: rest) = _
    rw [Regex.run_cons Regex.step_dot (Nat.le_refl _)]
    rfl
  | exactly c =>
    rw [Piece.spelling, escapeChar]
    split
    · rename_i hmeta
      show Reader.run _ ('\\' :: c :: rest) = _
      rw [Regex.run_cons (Regex.step_escaped hmeta) (by simp)]
      rfl
    · rename_i hmeta
      show Reader.run _ (c :: rest) = _
      rw [Regex.run_cons (Regex.step_literal (Bool.eq_false_iff.2 hmeta)) (Nat.le_refl _)]
      rfl

theorem run_pieces (ps : List Piece) (h : rest.head? ≠ some '?') :
    (Reader.plain parts branches outer names).run (ps.flatMap Piece.spelling ++ rest) =
      (Reader.plain ((ps.map Piece.part).reverse ++ parts) branches outer names).run rest := by
  induction ps generalizing parts with
  | nil => rfl
  | cons p ps ih =>
    have hnext : (ps.flatMap Piece.spelling ++ rest).head? ≠ some '?' := by
      cases ps with
      | nil => exact h
      | cons q ps =>
        rw [List.flatMap_cons, List.append_assoc]
        exact q.head?_spelling_append _
    rw [List.flatMap_cons, List.append_assoc, run_piece p hnext, ih, List.map_cons,
      List.reverse_cons, List.append_assoc]
    rfl

/-- What a group in brackets is to the group around it. -/
def bracketed (g : Group) : Part := ⟨some g.close.body, g.close.depth + 1⟩

/-- What the alternative of a pattern is read as. -/
def alternative (ps : List Piece) : Part := bracketed ⟨{}, (ps.map Piece.part).reverse, []⟩

theorem run_alternative (ps : List Piece) :
    (Reader.plain parts branches outer names).run (bracket (ps.flatMap Piece.spelling) ++ rest) =
      (Reader.plain (alternative ps :: parts) branches outer names).run rest := by
  have hspell : bracket (ps.flatMap Piece.spelling) ++ rest =
      '(' :: '?' :: ':' :: (ps.flatMap Piece.spelling ++ ')' :: rest) := by
    simp [bracket]
  rw [hspell, Regex.run_cons Regex.step_open (Nat.le_add_right _ 2), run_pieces ps (by simp),
    List.append_nil, Regex.run_cons Regex.step_close (Nat.le_refl _)]
  rfl

/-- The alternatives are kept in reverse, the last one being still open. -/
theorem run_alternatives {p : List Piece} {ps : List (List Piece)} {a : Part} {as : List Part}
    (h : ((p :: ps).map alternative).reverse ++ branches = a :: as) :
    (Reader.plain [] branches outer names).run
        (['|'].intercalate ((p :: ps).map fun q => bracket (q.flatMap Piece.spelling)) ++ rest) =
      (Reader.plain [a] as outer names).run rest := by
  induction ps generalizing p branches with
  | nil =>
    obtain ⟨rfl, rfl⟩ := List.cons.inj h
    rw [List.map_singleton, List.intercalate_singleton, run_alternative]
    rfl
  | cons q ps ih =>
    have hbar : ['|'].intercalate
          ((p :: q :: ps).map fun q => bracket (q.flatMap Piece.spelling)) ++ rest =
        bracket (p.flatMap Piece.spelling) ++ '|' ::
          (['|'].intercalate
            ((q :: ps).map fun q => bracket (q.flatMap Piece.spelling)) ++ rest) := by
      rw [List.map_cons, List.map_cons, List.intercalate_cons_cons, List.append_assoc,
        List.append_assoc]
      rfl
    rw [hbar, run_alternative, Regex.run_cons Regex.step_bar (Nat.le_refl _)]
    refine ih ?_
    show ((q :: ps).map alternative).reverse ++ alternative p :: branches = a :: as
    rw [← h]
    simp

end

/-! ### The whole expression -/

/-- The parts of the whole expression, the last one first, for its alternatives in this order. -/
def wholeParts (a : Part) (as : List Part) : List Part :=
  [⟨some (.look .textEnd), 0⟩, bracketed ⟨{}, [a], as⟩, ⟨some (.look .textStart), 0⟩]

theorem toList_expression (patterns : List (List Char)) :
    (expression patterns).toList = '^' :: '(' :: '?' :: ':' ::
      (['|'].intercalate ((patterns.map (·.map pieceOf)).map fun ps =>
        bracket (ps.flatMap Piece.spelling)) ++ [')', '$']) := by
  have hspell : patterns.map (fun p => bracket (wildcards p)) =
      (patterns.map (·.map pieceOf)).map (fun ps => bracket (ps.flatMap Piece.spelling)) := by
    simp only [List.map_map, wildcards_eq]
    rfl
  rw [expression, String.toList_ofList, bracket, hspell]
  simp

theorem run_expression {patterns : List (List Char)} {a : Part} {as : List Part}
    (h : (patterns.map fun p => alternative (p.map pieceOf)).reverse = a :: as) :
    (Reader.plain [] [] [] []).run (expression patterns).toList =
      some (Group.close ⟨{}, wholeParts a as, []⟩) := by
  have hne : patterns ≠ [] := by
    rintro rfl
    cases h
  obtain ⟨p, ps, rfl⟩ := List.exists_cons_of_ne_nil hne
  have hall : (((p :: ps).map (·.map pieceOf)).map alternative).reverse ++ [] = a :: as := by
    rw [← h, List.append_nil, List.map_map]
    rfl
  rw [toList_expression, Regex.run_cons Regex.step_textStart (Nat.le_refl _),
    Regex.run_cons Regex.step_open (Nat.le_add_right _ 2), List.map_cons, run_alternatives hall,
    Regex.run_cons Regex.step_close (Nat.le_refl _),
    Regex.run_cons Regex.step_textEnd (Nat.le_refl _), Regex.run_nil]
  rfl

/-! ### Matching -/

section

variable {text : List Char} {ps : List Piece} {i j : Nat}

theorem dot_iff {c : Char} : ({} : Regex.Flags).dot c = true ↔ c ≠ '\n' := by
  simp [Regex.Flags.dot]

/-- A character and what follows it, in terms of the rest of the text. -/
theorem exists_spans_chars_iff {set : Regex.Charset} {after : Nat → Prop} {rests : List Char → Prop}
    (h : i < text.length → (after (i + 1) ↔ rests (text.drop (i + 1)))) :
    (∃ j, (Regex.chars set).Spans text i j ∧ after j) ↔
      ∃ c rest, text.drop i = c :: rest ∧ set c = true ∧ rests rest := by
  constructor
  · rintro ⟨_, ⟨rfl, c, hget, hset⟩, hafter⟩
    obtain ⟨hlt, rfl⟩ := List.getElem?_eq_some_iff.1 hget
    exact ⟨_, _, List.drop_eq_getElem_cons hlt, hset, (h hlt).1 hafter⟩
  · rintro ⟨c, rest, hdrop, hset, hrest⟩
    have hget : text[i]? = some c := by
      rw [← List.head?_drop, hdrop]
      rfl
    obtain rfl : rest = text.drop (i + 1) := by rw [← List.tail_drop, hdrop, List.tail_cons]
    have hlt : i < text.length := (List.getElem?_eq_some_iff.1 hget).1
    exact ⟨i + 1, ⟨rfl, c, hget, hset⟩, (h hlt).2 hrest⟩

/-- A repetition is left out, or begins with one round. -/
theorem spans_star_iff {r s : Regex} :
    (Regex.concat (.times r 0 none) s).Spans text i j ↔
      s.Spans text i j ∨
        ∃ m, r.Spans text i m ∧ (Regex.concat (.times r 0 none) s).Spans text m j := by
  have hbounds : ∀ n k, k ∈ (none : Option Nat) → n ≤ 0 + k := fun _ k hk => by cases hk
  constructor
  · rintro ⟨m, ⟨n, -, -, hsteps⟩, hs⟩
    cases n with
    | zero =>
      obtain rfl : i = m := hsteps
      exact Or.inl hs
    | succ n =>
      obtain ⟨l, hr, hsteps⟩ := hsteps
      exact Or.inr ⟨l, hr, m, ⟨n, Nat.zero_le _, hbounds n, hsteps⟩, hs⟩
  · rintro (hs | ⟨l, hr, m, ⟨n, -, -, hsteps⟩, hs⟩)
    · exact ⟨i, ⟨0, Nat.zero_le _, hbounds 0, rfl⟩, hs⟩
    · exact ⟨m, ⟨n + 1, Nat.zero_le _, hbounds (n + 1), l, hr, hsteps⟩, hs⟩

/-- The pieces match up to the end exactly if the rest of the text can be cut. -/
theorem spans_pieces (hi : i ≤ text.length) :
    (ps.foldr (fun p r => .concat p.regex r) .empty : Regex).Spans text i text.length ↔
      Cuts ps (text.drop i) := by
  induction ps generalizing i with
  | nil =>
    rw [cuts_nil, List.drop_eq_nil_iff]
    constructor
    · intro h
      exact Nat.le_of_eq (Eq.symm h)
    · intro h
      exact Nat.le_antisymm hi h
  | cons p ps ih =>
    rw [List.foldr_cons]
    cases p with
    | anyChar =>
      rw [cuts_anyChar_iff]
      simp only [← dot_iff]
      exact exists_spans_chars_iff fun hlt => ih hlt
    | exactly d =>
      rw [cuts_exactly_iff]
      refine (exists_spans_chars_iff fun hlt => ih hlt).trans ?_
      simp
    | anyRun =>
      -- by induction on the rest of the text: both sides leave the run out or go on by a character
      induction hn : text.length - i using Nat.strongRecOn generalizing i with
      | _ n ihn =>
        rw [cuts_anyRun_iff, Piece.regex, spans_star_iff, ih hi]
        simp only [← dot_iff]
        refine or_congr_right (exists_spans_chars_iff fun hlt => ?_)
        exact ihn (text.length - (i + 1)) (by omega) hlt rfl

end

/-! ### Patterns as regular expressions -/

/-- How much a pattern adds to the size of an expression, whose runs count twice. -/
def weight (pattern : List Char) : Nat := (pattern.map fun c => if c = '*' then 2 else 1).sum

/-- The size of an expression: its patterns, a bar between each two, and the anchors. -/
def size (patterns : List (List Char)) : Nat :=
  (patterns.map weight).sum + (patterns.length - 1) + 2

section

variable {text : List Char} {ps : List Piece} {a : Part} {as : List Part} {i j : Nat}

theorem Piece.body_part (p : Piece) : p.part.body = p.regex := by
  cases p with
  | anyRun => rfl
  | anyChar => rfl
  | exactly c => rfl

theorem joined_pieces (ps : List Piece) :
    Regex.joined (ps.map Piece.part).reverse = ps.foldr (fun p r => .concat p.regex r) .empty := by
  rw [Regex.joined, List.foldl_reverse, List.foldr_map]
  simp only [Piece.body_part]

theorem body_bracketed (g : Group) : (bracketed g).body = g.close.body := rfl

theorem spans_alternative (hi : i ≤ text.length) :
    (alternative ps).body.Spans text i text.length ↔ Cuts ps (text.drop i) := by
  rw [alternative, body_bracketed, Regex.Group.spans_close]
  simp only [List.mem_singleton, exists_eq_left]
  rw [Regex.Group.spans_sequence, joined_pieces, spans_pieces hi]

theorem unfolded_regex_pieceOf (c : Char) :
    (pieceOf c).regex.unfolded = if c = '*' then 2 else 1 := by
  by_cases hstar : c = '*'
  · subst hstar
    rfl
  · rw [if_neg hstar]
    by_cases hmark : c = '?'
    · subst hmark
      rfl
    · rw [pieceOf_eq_exactly hstar hmark]
      rfl

theorem unfolded_alternative (pattern : List Char) :
    (alternative (pattern.map pieceOf)).body.unfolded = weight pattern := by
  rw [alternative, body_bracketed, Regex.Group.unfolded_close, List.map_singleton,
    List.sum_singleton, Regex.Group.unfolded_sequence]
  simp only [List.map_reverse, List.map_map, List.sum_reverse, List.length_nil, Nat.add_zero]
  refine congrArg List.sum (List.map_congr_left fun c _ => ?_)
  exact (congrArg Regex.unfolded (pieceOf c).body_part).trans (unfolded_regex_pieceOf c)

theorem depth_part_le (p : Piece) : p.part.depth ≤ 1 := by
  cases p with
  | anyRun => exact Nat.le_refl _
  | anyChar => exact Nat.zero_le _
  | exactly c => exact Nat.zero_le _

theorem depth_bracketed_le {g : Group} {n : Nat} (h : ∀ p ∈ g.sequence :: g.branches, p.depth ≤ n) :
    (bracketed g).depth ≤ n + 2 := Nat.succ_le_succ (Regex.Group.depth_close_le h)

theorem depth_alternative_le (ps : List Piece) : (alternative ps).depth ≤ 4 := by
  refine depth_bracketed_le ?_
  intro p hp
  obtain rfl := List.mem_singleton.1 hp
  refine Regex.Group.depth_sequence_le ?_
  intro q hq
  obtain ⟨r, -, rfl⟩ := List.mem_map.1 (List.mem_reverse.1 hq)
  exact depth_part_le r

/-! The whole expression, with its alternatives in reverse. -/

theorem spans_wholeParts :
    (Group.close ⟨{}, wholeParts a as, []⟩).body.Spans text i j ↔
      i = 0 ∧ j = text.length ∧ ∃ p ∈ a :: as, p.body.Spans text 0 text.length := by
  have halternatives : ∀ k l, (bracketed ⟨{}, [a], as⟩).body.Spans text k l ↔
      ∃ p ∈ a :: as, p.body.Spans text k l := by
    intro k l
    rw [body_bracketed, Regex.Group.spans_close]
    simp only [List.mem_cons, exists_eq_or_imp]
    rfl
  rw [Regex.Group.spans_close]
  simp only [List.mem_singleton, exists_eq_left]
  rw [Regex.Group.spans_sequence]
  show (∃ k, (Regex.look .textStart).Spans text i k ∧
    ∃ l, (bracketed ⟨{}, [a], as⟩).body.Spans text k l ∧
      ∃ m, (Regex.look .textEnd).Spans text l m ∧ m = j) ↔ _
  simp only [Regex.spans_textStart, Regex.spans_textEnd, halternatives]
  constructor
  · rintro ⟨_, ⟨rfl, rfl⟩, _, hall, _, ⟨rfl, rfl⟩, rfl⟩
    exact ⟨rfl, rfl, hall⟩
  · rintro ⟨rfl, rfl, hall⟩
    exact ⟨0, ⟨rfl, rfl⟩, _, hall, _, ⟨rfl, rfl⟩, rfl⟩

theorem unfolded_wholeParts : (Group.close ⟨{}, wholeParts a as, []⟩).body.unfolded =
    ((a :: as).map (·.body.unfolded)).sum + as.length + 2 := by
  have halternatives : (bracketed ⟨{}, [a], as⟩).body.unfolded =
      ((a :: as).map (·.body.unfolded)).sum + as.length := by
    rw [body_bracketed, Regex.Group.unfolded_close]
    rfl
  rw [Regex.Group.unfolded_close, List.map_singleton, List.sum_singleton,
    Regex.Group.unfolded_sequence]
  show 1 + ((bracketed ⟨{}, [a], as⟩).body.unfolded + (1 + 0)) + 0 = _
  omega

theorem depth_wholeParts_le {n : Nat} (h : ∀ p ∈ a :: as, p.depth ≤ n) :
    (Group.close ⟨{}, wholeParts a as, []⟩).depth ≤ n + 4 := by
  have halternatives : (bracketed ⟨{}, [a], as⟩).depth ≤ n + 2 := by
    refine depth_bracketed_le ?_
    intro p hp
    rcases List.mem_cons.1 hp with rfl | hp
    · exact h a List.mem_cons_self
    · exact h p (List.mem_cons_of_mem _ hp)
  refine Regex.Group.depth_close_le ?_
  intro p hp
  obtain rfl := List.mem_singleton.1 hp
  refine Regex.Group.depth_sequence_le ?_
  intro q hq
  simp only [wholeParts, List.mem_cons, List.not_mem_nil, or_false] at hq
  rcases hq with rfl | rfl | rfl
  · exact Nat.zero_le _
  · exact halternatives
  · exact Nat.zero_le _

theorem search_wholeParts : (Group.close ⟨{}, wholeParts a as, []⟩).body.search text = true ↔
    ∃ p ∈ a :: as, p.body.Spans text 0 text.length := by
  rw [Regex.search_iff]
  simp only [spans_wholeParts]
  constructor
  · rintro ⟨i, j, -, -, -, h⟩
    exact h
  · intro h
    exact ⟨0, _, Nat.zero_le _, rfl, rfl, h⟩

end

/-- **What the expression is read as**: unless it is too large, a regular expression that is found
in a path exactly if one of the patterns takes the whole path. -/
theorem parse?_expression {patterns : List (List Char)} (hne : patterns ≠ []) :
    if size patterns ≤ Regex.maxUnfolded then
      ∃ r, Regex.parse? (expression patterns) = some r ∧
        ∀ path : List Char, r.search path = true ↔ ∃ p ∈ patterns, Globs p path
    else Regex.parse? (expression patterns) = none := by
  have hmap : (patterns.map fun p => alternative (p.map pieceOf)).reverse ≠ [] := by
    simpa using hne
  obtain ⟨a, as, has⟩ := List.exists_cons_of_ne_nil hmap
  have hmem : ∀ p, p ∈ a :: as ↔ ∃ q ∈ patterns, alternative (q.map pieceOf) = p := by
    intro p
    rw [← has, List.mem_reverse, List.mem_map]
  have hdepth : (Group.close ⟨{}, wholeParts a as, []⟩).depth ≤ Regex.maxNesting := by
    have hparts : ∀ p ∈ a :: as, p.depth ≤ 4 := by
      intro p hp
      obtain ⟨q, -, rfl⟩ := (hmem p).1 hp
      exact depth_alternative_le _
    exact Nat.le_trans (depth_wholeParts_le hparts) (by decide)
  have hsize : (Group.close ⟨{}, wholeParts a as, []⟩).body.unfolded = size patterns := by
    have hlength : (a :: as).length = patterns.length := by
      rw [← has, List.length_reverse, List.length_map]
    have hsum : ((a :: as).map (·.body.unfolded)).sum = (patterns.map weight).sum := by
      rw [← has, List.map_reverse, List.sum_reverse, List.map_map]
      exact congrArg List.sum (List.map_congr_left fun p _ => unfolded_alternative p)
    rw [unfolded_wholeParts, hsum, size, ← hlength, List.length_cons, Nat.add_sub_cancel]
  have hparse : Regex.parse? (expression patterns) =
      if size patterns ≤ Regex.maxUnfolded then
        some (Group.close ⟨{}, wholeParts a as, []⟩).body else none := by
    rw [← hsize]
    exact Regex.parse?_eq (run_expression has) hdepth
  rw [hparse]
  split
  · refine ⟨_, rfl, fun path => ?_⟩
    rw [search_wholeParts]
    simp only [hmem, exists_exists_and_eq_and, spans_alternative (Nat.zero_le path.length),
      List.drop_zero, cuts_pieceOf_iff]
  · rfl

theorem matchesPath_iff {pattern path : String} :
    (ofText pattern false).matchesPath path = true ↔ Globs pattern.toList path.toList := by
  show [pieces pattern].any (fun ps => accepts ps path.toList) = true ↔ _
  rw [List.any_cons, List.any_nil, Bool.or_false, accepts_iff, pieces, cuts_pieceOf_iff]

/-- **A pattern without recursion matches the paths that can be cut into one stretch for each of its
characters.**  So does the regular expression of the pattern, unless it is too large to be read. -/
theorem matchesPath_iff_globs (pattern : String) :
    (∀ path : String,
      (ofText pattern false).matchesPath path = true ↔ Globs pattern.toList path.toList) ∧
    if size [pattern.toList] ≤ Regex.maxUnfolded then
      ∃ r, Regex.parse? (expression [pattern.toList]) = some r ∧
        ∀ path : String, r.search path.toList = true ↔ Globs pattern.toList path.toList
    else Regex.parse? (expression [pattern.toList]) = none := by
  constructor
  · intro path
    exact matchesPath_iff
  · have hparse := parse?_expression (List.cons_ne_nil pattern.toList [])
    simp only [List.mem_singleton, exists_eq_left] at hparse
    split
    · rename_i hle
      rw [if_pos hle] at hparse
      obtain ⟨r, hr, hsearch⟩ := hparse
      exact ⟨r, hr, fun path => hsearch path.toList⟩
    · rename_i hlarge
      rwa [if_neg hlarge] at hparse

/-- Backslashes, dots and brackets stand for themselves, wildcards behind them do not. -/
example : (ofText "/d\\*.[x]?" false).matchesPath "/d\\y/z.[x]é" = true := by decide +kernel

end Regrant.PathPattern
