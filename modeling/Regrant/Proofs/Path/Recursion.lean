import Regrant.Proofs.Path.Expression

/-!
# What a recursive path pattern covers

A recursive pattern stands for one or two patterns without recursion (`expansions`).  In all cases
it covers what the pattern itself matches and what is below that: a path that goes on behind a slash
(`matchesPath_recursive`).  After a trailing slash of the pattern nothing has to come in between,
and a trailing star has taken what is below already, so nothing is added to it.

Parts of a pattern take parts of the path (`globs_append`), and this reduces each case to the last
characters of the pattern.
-/

namespace Regrant.PathPattern

/-! ### Parts of a pattern -/

theorem cuts_append {ps qs : List Piece} {cs : List Char} :
    Cuts (ps ++ qs) cs ↔ ∃ a b, a ++ b = cs ∧ Cuts ps a ∧ Cuts qs b := by
  induction ps generalizing cs with
  | nil => simp [cuts_nil]
  | cons p ps ih =>
    rw [List.cons_append, cuts_cons]
    constructor
    · rintro ⟨a, b, rfl, ha, hb⟩
      obtain ⟨b, c, rfl, hb, hc⟩ := ih.1 hb
      exact ⟨a ++ b, c, List.append_assoc a b c, cuts_cons.2 ⟨a, b, rfl, ha, hb⟩, hc⟩
    · rintro ⟨ab, c, rfl, hab, hc⟩
      obtain ⟨a, b, rfl, ha, hb⟩ := cuts_cons.1 hab
      exact ⟨a, b ++ c, (List.append_assoc a b c).symm, ha, ih.2 ⟨b, c, rfl, hb, hc⟩⟩

section

variable {p q path : List Char}

/-- A pattern in two parts takes a path in two parts. -/
theorem globs_append : Globs (p ++ q) path ↔ ∃ a b, a ++ b = path ∧ Globs p a ∧ Globs q b := by
  simp only [← cuts_pieceOf_iff, List.map_append, cuts_append]

theorem globs_star : Globs ['*'] path ↔ '\n' ∉ path := by
  rw [← cuts_pieceOf_iff]
  show Cuts [.anyRun] path ↔ _
  simp only [cuts_cons, cuts_nil, Piece.Takes]
  constructor
  · rintro ⟨a, b, rfl, ha, rfl⟩
    rwa [List.append_nil]
  · intro h
    exact ⟨path, [], List.append_nil path, h, rfl⟩

theorem globs_slash_star : Globs ['/', '*'] path ↔ ∃ x, path = '/' :: x ∧ '\n' ∉ x := by
  rw [← cuts_pieceOf_iff]
  show Cuts (.exactly '/' :: ['*'].map pieceOf) path ↔ _
  simp only [cuts_exactly_iff, cuts_pieceOf_iff, globs_star]

/-- A trailing star takes any more that comes within the line. -/
theorem globs_append_of_star {d x : List Char} (hstar : p.getLast? = some '*') (hd : Globs p d)
    (hx : '\n' ∉ x) : Globs p (d ++ x) := by
  obtain ⟨init, rfl⟩ := List.getLast?_eq_some_iff.1 hstar
  obtain ⟨a, b, rfl, ha, hb⟩ := globs_append.1 hd
  refine globs_append.2 ⟨a, b ++ x, (List.append_assoc a b x).symm, ha, globs_star.2 ?_⟩
  rw [List.mem_append, not_or]
  exact ⟨globs_star.1 hb, hx⟩

end

/-! ### The patterns that a recursive pattern stands for -/

/-- Below is what comes behind a slash, which the pattern may end with; a trailing star has taken it
already. -/
def expansions (pattern : List Char) : List (List Char) :=
  if pattern.getLast? = some '*' then [pattern]
  else if pattern.getLast? = some '/' then [pattern ++ ['*']]
  else [pattern, pattern ++ ['/', '*']]

theorem expansions_ne_nil (pattern : List Char) : expansions pattern ≠ [] := by
  rw [expansions]
  split
  · exact List.cons_ne_nil _ _
  · split <;> exact List.cons_ne_nil _ _

theorem alternatives_ofText (pattern : String) :
    (ofText pattern true).alternatives = (expansions pattern.toList).map (·.map pieceOf) := by
  by_cases hstar : pattern.toList.getLast? = some '*'
  · simp [ofText, expansions, hstar, pieces]
  · by_cases hslash : pattern.toList.getLast? = some '/'
    · simp [ofText, expansions, hslash, pieces, pieceOf]
    · simp [ofText, expansions, hstar, hslash, pieces, pieceOf]

theorem matchesPath_iff_expansions {pattern path : String} :
    (ofText pattern true).matchesPath path = true ↔
      ∃ p ∈ expansions pattern.toList, Globs p path.toList := by
  simp only [matchesPath, alternatives_ofText, List.any_map, List.any_eq_true, Function.comp_apply,
    accepts_iff, cuts_pieceOf_iff]

/-! ### What lies below -/

/-- The path goes on from one that the pattern matches without recursion: after the separator comes
any text within a line. -/
def Continues (pattern separator path : String) : Prop :=
  ∃ d x : String, (ofText pattern false).matchesPath d = true ∧ '\n' ∉ x.toList ∧
    path = d ++ separator ++ x

section

variable {pattern separator path : String}

theorem continues_iff : Continues pattern separator path ↔
    ∃ d x : List Char, d ++ (separator.toList ++ x) = path.toList ∧ Globs pattern.toList d ∧
      '\n' ∉ x := by
  constructor
  · rintro ⟨d, x, hd, hx, rfl⟩
    refine ⟨d.toList, x.toList, ?_, matchesPath_iff.1 hd, hx⟩
    rw [String.toList_append, String.toList_append, List.append_assoc]
  · rintro ⟨d, x, hpath, hd, hx⟩
    refine ⟨String.ofList d, String.ofList x, matchesPath_iff.2 ?_, ?_, ?_⟩
    · rwa [String.toList_ofList]
    · rwa [String.toList_ofList]
    · apply String.toList_inj.1
      rw [← hpath, String.toList_append, String.toList_append, String.toList_ofList,
        String.toList_ofList, List.append_assoc]

/-- What is below a path that continues a match continues it too. -/
theorem Continues.below {x : String} (h : Continues pattern separator path)
    (hx : '\n' ∉ x.toList) : Continues pattern separator (path ++ "/" ++ x) := by
  obtain ⟨d, y, hd, hy, rfl⟩ := h
  refine ⟨d, y ++ "/" ++ x, hd, ?_, ?_⟩
  · rw [String.toList_append, String.toList_append, List.mem_append, List.mem_append, not_or,
      not_or]
    exact ⟨⟨hy, by decide⟩, hx⟩
  · simp only [String.append_assoc]

/-- A pattern that ends with a slash covers what continues a match at once. -/
theorem matchesPath_of_slash (h : pattern.toList.getLast? = some '/') :
    (ofText pattern true).matchesPath path = true ↔ Continues pattern "" path := by
  have hexpansions : expansions pattern.toList = [pattern.toList ++ ['*']] := by
    rw [expansions, h]
    rfl
  rw [matchesPath_iff_expansions, continues_iff, hexpansions]
  simp only [List.mem_singleton, exists_eq_left, globs_append, globs_star]
  rfl

/-- Any other pattern covers what it matches and what continues a match behind a slash. -/
theorem matchesPath_of_not_slash (h : pattern.toList.getLast? ≠ some '/') :
    (ofText pattern true).matchesPath path = true ↔
      (ofText pattern false).matchesPath path = true ∨ Continues pattern "/" path := by
  rw [matchesPath_iff_expansions, continues_iff, matchesPath_iff]
  by_cases hstar : pattern.toList.getLast? = some '*'
  · rw [expansions, if_pos hstar]
    simp only [List.mem_singleton, exists_eq_left]
    constructor
    · exact Or.inl
    · rintro (hmatch | ⟨d, x, hpath, hd, hx⟩)
      · exact hmatch
      · rw [← hpath]
        refine globs_append_of_star hstar hd ?_
        exact fun hmem => hx (List.mem_of_ne_of_mem (by decide) hmem)
  · rw [expansions, if_neg hstar, if_neg h]
    simp only [List.mem_cons, List.not_mem_nil, or_false, exists_eq_or_imp, exists_eq_left,
      globs_append, globs_slash_star]
    refine or_congr_right ?_
    constructor
    · rintro ⟨d, _, hpath, hd, x, rfl, hx⟩
      exact ⟨d, x, hpath, hd, hx⟩
    · rintro ⟨d, x, hpath, hd, hx⟩
      exact ⟨d, _, hpath, hd, x, rfl, hx⟩

/-- What is below a path that a recursive pattern covers, it covers too. -/
theorem matchesPath_below {x : String} (h : (ofText pattern true).matchesPath path = true)
    (hx : '\n' ∉ x.toList) : (ofText pattern true).matchesPath (path ++ "/" ++ x) = true := by
  by_cases hslash : pattern.toList.getLast? = some '/'
  · rw [matchesPath_of_slash hslash] at h ⊢
    exact h.below hx
  · rw [matchesPath_of_not_slash hslash] at h ⊢
    rcases h with hmatch | hcontinues
    · exact Or.inr ⟨path, x, hmatch, hx, rfl⟩
    · exact Or.inr (hcontinues.below hx)

end

/-- **A recursive pattern covers exactly what it matches and everything below that**, so never a
path that only begins alike: there is a slash in between, that of the pattern or one after the
match.  What is below a covered path is covered.  The regular expression of the expansions finds the
same paths, unless it is too large to be read. -/
theorem matchesPath_recursive (pattern : String) :
    (pattern.toList.getLast? ≠ some '/' → ∀ path : String,
      (ofText pattern true).matchesPath path = true ↔
        (ofText pattern false).matchesPath path = true ∨ Continues pattern "/" path) ∧
    (pattern.toList.getLast? = some '/' → ∀ path : String,
      (ofText pattern true).matchesPath path = true ↔ Continues pattern "" path) ∧
    (∀ path x : String, (ofText pattern true).matchesPath path = true → '\n' ∉ x.toList →
      (ofText pattern true).matchesPath (path ++ "/" ++ x) = true) ∧
    if size (expansions pattern.toList) ≤ Regex.maxUnfolded then
      ∃ r, Regex.parse? (expression (expansions pattern.toList)) = some r ∧
        ∀ path : String, r.search path.toList = true ↔
          (ofText pattern true).matchesPath path = true
    else Regex.parse? (expression (expansions pattern.toList)) = none := by
  refine ⟨fun h path => matchesPath_of_not_slash h, fun h path => matchesPath_of_slash h,
    fun path x h hx => matchesPath_below h hx, ?_⟩
  have hparse := parse?_expression (expansions_ne_nil pattern.toList)
  split
  · rename_i hle
    rw [if_pos hle] at hparse
    obtain ⟨r, hr, hsearch⟩ := hparse
    refine ⟨r, hr, fun path => ?_⟩
    rw [hsearch, matchesPath_iff_expansions]
  · rename_i hlarge
    rwa [if_neg hlarge] at hparse

/-- A pattern that ends with a wildcard, and one that ends with a slash. -/
theorem matchesPath_recursive_trips :
    ("/trips/t?".toList.getLast? ≠ some '/' ∧
      ((ofText "/trips/t?" true).matchesPath "/trips/t1/may" = true ↔
        (ofText "/trips/t?" false).matchesPath "/trips/t1/may" = true ∨
          Continues "/trips/t?" "/" "/trips/t1/may")) ∧
    ("/trips/*/".toList.getLast? = some '/' ∧
      ((ofText "/trips/*/" true).matchesPath "/trips/t1/may" = true ↔
        Continues "/trips/*/" "" "/trips/t1/may")) ∧
    (ofText "/trips/t?" true).matchesPath "/trips/t1/may" = true ∧ '\n' ∉ "day 1".toList ∧
      (ofText "/trips/t?" true).matchesPath ("/trips/t1/may" ++ "/" ++ "day 1") = true := by
  obtain ⟨hmatches, -, hbelow, -⟩ := matchesPath_recursive "/trips/t?"
  obtain ⟨-, hcontinues, -⟩ := matchesPath_recursive "/trips/*/"
  have hmark : "/trips/t?".toList.getLast? ≠ some '/' := by decide
  have hslash : "/trips/*/".toList.getLast? = some '/' := by decide
  have hmay : (ofText "/trips/t?" true).matchesPath "/trips/t1/may" = true := by decide +kernel
  have hline : '\n' ∉ "day 1".toList := by decide
  exact ⟨⟨hmark, hmatches hmark _⟩, ⟨hslash, hcontinues hslash _⟩, hmay, hline,
    hbelow _ _ hmay hline⟩

/-- A path that only begins alike is not below. -/
example : (ofText "/trips/t?" true).matchesPath "/trips/t12" = false := by decide +kernel

end Regrant.PathPattern
