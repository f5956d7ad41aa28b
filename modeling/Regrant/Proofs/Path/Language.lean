import Mathlib.Data.List.Forall2
import Regrant.PathPattern

/-!
# The language of a path pattern

A pattern takes a path that can be cut into one stretch for each piece of the pattern, in order
(`Cuts`).  The residuals of a pattern are followed through a path instead, one character at a time.
`accepts_iff` says that this finds a cut exactly if there is one.

The proof is about sets of residuals to which every run that may be empty has been applied
(`Settled`).  Such a set takes what is left of the path exactly if the set after the next character
takes the rest (`exists_after_iff`), and at the end of the path it has to hold the empty residual.
-/

namespace Regrant.PathPattern

/-- The stretches of a path that a piece takes. -/
def Piece.Takes : Piece → List Char → Prop
  | .anyRun, cs => '\n' ∉ cs
  | .anyChar, cs => ∃ c, c ≠ '\n' ∧ cs = [c]
  | .exactly d, cs => cs = [d]

/-- The path can be cut into stretches that the pieces take one after the other. -/
def Cuts (ps : List Piece) (path : List Char) : Prop :=
  ∃ cuts : List (List Char), cuts.flatten = path ∧ List.Forall₂ Piece.Takes ps cuts

variable {p : Piece} {ps : List Piece} {c : Char} {cs : List Char}

/-! ### Cutting from the left -/

theorem cuts_nil : Cuts [] cs ↔ cs = [] := by
  constructor
  · rintro ⟨cuts, rfl, h⟩
    obtain rfl := List.forall₂_nil_left_iff.1 h
    rfl
  · rintro rfl
    exact ⟨[], rfl, .nil⟩

theorem cuts_cons : Cuts (p :: ps) cs ↔ ∃ a b, a ++ b = cs ∧ p.Takes a ∧ Cuts ps b := by
  constructor
  · rintro ⟨cuts, rfl, h⟩
    obtain ⟨a, cuts, ha, hcuts, rfl⟩ := List.forall₂_cons_left_iff.1 h
    exact ⟨a, cuts.flatten, rfl, ha, cuts, rfl, hcuts⟩
  · rintro ⟨a, b, rfl, ha, cuts, rfl, hcuts⟩
    exact ⟨a :: cuts, rfl, .cons ha hcuts⟩

/-- A run is empty, or it takes a character and goes on. -/
theorem cuts_anyRun_iff : Cuts (.anyRun :: ps) cs ↔
    Cuts ps cs ∨ ∃ c rest, cs = c :: rest ∧ c ≠ '\n' ∧ Cuts (.anyRun :: ps) rest := by
  rw [cuts_cons]
  constructor
  · rintro ⟨a, b, rfl, ha, hb⟩
    have ha : '\n' ∉ a := ha
    cases a with
    | nil => exact Or.inl hb
    | cons c a =>
      obtain ⟨hc, ha⟩ := not_or.1 (mt List.mem_cons.2 ha)
      exact Or.inr ⟨c, a ++ b, rfl, Ne.symm hc, cuts_cons.2 ⟨a, b, rfl, ha, hb⟩⟩
  · rintro (h | ⟨c, rest, rfl, hc, h⟩)
    · exact ⟨[], cs, rfl, List.not_mem_nil, h⟩
    · obtain ⟨a, b, rfl, ha, hb⟩ := cuts_cons.1 h
      refine ⟨c :: a, b, rfl, ?_, hb⟩
      rintro hmem
      rcases List.mem_cons.1 hmem with heq | hmem
      · exact hc heq.symm
      · exact ha hmem

theorem cuts_anyChar_iff : Cuts (.anyChar :: ps) cs ↔
    ∃ c rest, cs = c :: rest ∧ c ≠ '\n' ∧ Cuts ps rest := by
  rw [cuts_cons]
  constructor
  · rintro ⟨_, b, rfl, ⟨c, hc, rfl⟩, hb⟩
    exact ⟨c, b, rfl, hc, hb⟩
  · rintro ⟨c, rest, rfl, hc, h⟩
    exact ⟨[c], rest, rfl, ⟨c, hc, rfl⟩, h⟩

theorem cuts_exactly_iff {d : Char} : Cuts (.exactly d :: ps) cs ↔
    ∃ rest, cs = d :: rest ∧ Cuts ps rest := by
  rw [cuts_cons]
  constructor
  · rintro ⟨_, b, rfl, rfl, hb⟩
    exact ⟨b, rfl, hb⟩
  · rintro ⟨rest, rfl, h⟩
    exact ⟨[d], rest, rfl, rfl, h⟩

/-! ### Residuals -/

theorem residuals_anyRun : residuals (.anyRun :: ps) = (.anyRun :: ps) :: residuals ps := by
  rw [residuals]

theorem residuals_of_ne (h : p ≠ .anyRun) : residuals (p :: ps) = [p :: ps] := by
  cases p with
  | anyRun => exact absurd rfl h
  | anyChar => rfl
  | exactly d => rfl

theorem mem_residuals_self (ps : List Piece) : ps ∈ residuals ps := by
  cases ps with
  | nil => exact List.mem_cons_self
  | cons p ps =>
    by_cases hp : p = .anyRun
    · subst hp
      rw [residuals_anyRun]
      exact List.mem_cons_self
    · rw [residuals_of_ne hp]
      exact List.mem_cons_self

/-- The residuals of a residual were residuals before. -/
theorem residuals_subset {qs : List Piece} (h : qs ∈ residuals ps) :
    residuals qs ⊆ residuals ps := by
  induction ps with
  | nil =>
    obtain rfl := List.mem_singleton.1 h
    exact List.Subset.refl _
  | cons p ps ih =>
    by_cases hp : p = .anyRun
    · subst hp
      rw [residuals_anyRun] at h
      rcases List.mem_cons.1 h with rfl | h
      · exact List.Subset.refl _
      · rw [residuals_anyRun]
        exact List.Subset.trans (ih h) (List.subset_cons_self _ _)
    · rw [residuals_of_ne hp] at h
      obtain rfl := List.mem_singleton.1 h
      exact List.Subset.refl _

/-- What a residual takes, the whole takes with empty runs in front. -/
theorem cuts_of_mem_residuals {qs : List Piece} (h : qs ∈ residuals ps) (hq : Cuts qs cs) :
    Cuts ps cs := by
  induction ps with
  | nil =>
    obtain rfl := List.mem_singleton.1 h
    exact hq
  | cons p ps ih =>
    by_cases hp : p = .anyRun
    · subst hp
      rw [residuals_anyRun] at h
      rcases List.mem_cons.1 h with rfl | h
      · exact hq
      · exact cuts_anyRun_iff.2 (Or.inl (ih h))
    · rw [residuals_of_ne hp] at h
      obtain rfl := List.mem_singleton.1 h
      exact hq

/-- Only runs can take nothing. -/
theorem nil_mem_residuals (h : Cuts ps []) : [] ∈ residuals ps := by
  induction ps with
  | nil => exact List.mem_cons_self
  | cons p ps ih =>
    cases p with
    | anyRun =>
      rw [residuals_anyRun]
      rcases cuts_anyRun_iff.1 h with h | ⟨_, _, hnil, -⟩
      · exact List.mem_cons_of_mem _ (ih h)
      · cases hnil
    | anyChar =>
      obtain ⟨_, _, hnil, -⟩ := cuts_anyChar_iff.1 h
      cases hnil
    | exactly d =>
      obtain ⟨_, hnil, -⟩ := cuts_exactly_iff.1 h
      cases hnil

/-- After a character nothing is left, or the residuals of pieces that may follow it. -/
theorem after_cases (c : Char) (ps : List Piece) :
    after c ps = [] ∨
      ∃ qs, after c ps = residuals qs ∧ ∀ cs, Cuts qs cs → Cuts ps (c :: cs) := by
  cases ps with
  | nil => exact Or.inl rfl
  | cons p ps =>
    cases p with
    | anyRun =>
      rw [after]
      split
      · exact Or.inl rfl
      · rename_i hc
        exact Or.inr ⟨.anyRun :: ps, rfl, fun cs h => cuts_anyRun_iff.2 (Or.inr ⟨c, cs, rfl, hc, h⟩)⟩
    | anyChar =>
      rw [after]
      split
      · exact Or.inl rfl
      · rename_i hc
        exact Or.inr ⟨ps, rfl, fun cs h => cuts_anyChar_iff.2 ⟨c, cs, rfl, hc, h⟩⟩
    | exactly d =>
      rw [after]
      split
      · rename_i hc
        subst hc
        exact Or.inr ⟨ps, rfl, fun cs h => cuts_exactly_iff.2 ⟨cs, rfl, h⟩⟩
      · exact Or.inl rfl

/-- What is left after a character takes the rest of the path. -/
theorem cuts_of_mem_after {qs : List Piece} (h : qs ∈ after c ps) (hq : Cuts qs cs) :
    Cuts ps (c :: cs) := by
  rcases after_cases c ps with hnil | ⟨rest, hrest, hcuts⟩
  · rw [hnil] at h
    exact absurd h List.not_mem_nil
  · rw [hrest] at h
    exact hcuts cs (cuts_of_mem_residuals h hq)

/-- If the pieces take a path, one of their residuals takes its first character. -/
theorem exists_after_of_cuts (h : Cuts ps (c :: cs)) :
    ∃ qs ∈ residuals ps, ∃ rest ∈ after c qs, Cuts rest cs := by
  induction ps with
  | nil => cases cuts_nil.1 h
  | cons p ps ih =>
    cases p with
    | anyRun =>
      rw [residuals_anyRun]
      rcases cuts_anyRun_iff.1 h with h | ⟨d, rest, heq, hd, h⟩
      · obtain ⟨qs, hqs, hrest⟩ := ih h
        exact ⟨qs, List.mem_cons_of_mem _ hqs, hrest⟩
      · cases heq
        refine ⟨_, List.mem_cons_self, .anyRun :: ps, ?_, h⟩
        rw [after, if_neg hd]
        exact mem_residuals_self _
    | anyChar =>
      obtain ⟨d, rest, heq, hd, h⟩ := cuts_anyChar_iff.1 h
      cases heq
      refine ⟨_, mem_residuals_self _, ps, ?_, h⟩
      rw [after, if_neg hd]
      exact mem_residuals_self _
    | exactly d =>
      obtain ⟨rest, heq, h⟩ := cuts_exactly_iff.1 h
      cases heq
      refine ⟨_, mem_residuals_self _, ps, ?_, h⟩
      rw [after, if_pos rfl]
      exact mem_residuals_self _

/-! ### Sets of residuals -/

/-- With each residual, the set holds those that are left when its leading runs are empty. -/
def Settled (rs : List (List Piece)) : Prop := ∀ qs ∈ rs, residuals qs ⊆ rs

theorem settled_residuals (ps : List Piece) : Settled (residuals ps) := fun _ h => residuals_subset h

theorem settled_after (c : Char) (ps : List Piece) : Settled (after c ps) := by
  rcases after_cases c ps with hnil | ⟨rest, hrest, -⟩
  · rw [hnil]
    exact fun qs h => absurd h List.not_mem_nil
  · rw [hrest]
    exact settled_residuals rest

/-- The set after a character takes the rest of the path exactly if the set before takes it all. -/
theorem exists_after_iff {rs : List (List Piece)} (hrs : Settled rs) :
    (∃ qs ∈ (rs.flatMap (after c)).eraseDups, Cuts qs cs) ↔ ∃ qs ∈ rs, Cuts qs (c :: cs) := by
  constructor
  · rintro ⟨rest, hrest, h⟩
    obtain ⟨qs, hqs, hmem⟩ := List.mem_flatMap.1 (List.mem_eraseDups.1 hrest)
    exact ⟨qs, hqs, cuts_of_mem_after hmem h⟩
  · rintro ⟨qs, hqs, h⟩
    obtain ⟨qs', hqs', rest, hrest, h⟩ := exists_after_of_cuts h
    exact ⟨rest, List.mem_eraseDups.2 (List.mem_flatMap.2 ⟨qs', hrs qs hqs hqs', hrest⟩), h⟩

theorem contains_follow_iff {rs : List (List Piece)} (hrs : Settled rs) :
    (follow rs cs).contains [] = true ↔ ∃ qs ∈ rs, Cuts qs cs := by
  induction cs generalizing rs with
  | nil =>
    rw [follow, List.contains_iff_mem]
    constructor
    · intro h
      exact ⟨[], h, cuts_nil.2 rfl⟩
    · rintro ⟨qs, hqs, h⟩
      exact hrs qs hqs (nil_mem_residuals h)
  | cons c cs ih =>
    rw [follow, ih ?_, exists_after_iff hrs]
    intro qs hqs rest hrest
    obtain ⟨qs', hqs', hmem⟩ := List.mem_flatMap.1 (List.mem_eraseDups.1 hqs)
    exact List.mem_eraseDups.2 (List.mem_flatMap.2 ⟨qs', hqs', settled_after c qs' qs hmem hrest⟩)

/-- **Following the residuals finds a cut exactly if there is one.** -/
theorem accepts_iff {path : List Char} : accepts ps path = true ↔ Cuts ps path := by
  rw [accepts, contains_follow_iff (settled_residuals ps)]
  constructor
  · rintro ⟨qs, hqs, h⟩
    exact cuts_of_mem_residuals hqs h
  · intro h
    exact ⟨ps, mem_residuals_self ps, h⟩

/-! ### Wildcards -/

/-- What a character of a pattern takes: a star any run within a line, a question mark any character
within a line, and any other character itself. -/
def Takes (c : Char) (cs : List Char) : Prop :=
  if c = '*' then '\n' ∉ cs
  else if c = '?' then ∃ x, x ≠ '\n' ∧ cs = [x]
  else cs = [c]

/-- The path can be cut into one stretch for each character of the pattern. -/
def Globs (pattern path : List Char) : Prop :=
  ∃ cuts : List (List Char), cuts.flatten = path ∧ List.Forall₂ Takes pattern cuts

theorem pieceOf_eq_exactly (hstar : c ≠ '*') (hmark : c ≠ '?') : pieceOf c = .exactly c := by
  rw [pieceOf]
  · exact hstar
  · exact hmark

theorem takes_pieceOf_iff : (pieceOf c).Takes cs ↔ Takes c cs := by
  by_cases hstar : c = '*'
  · subst hstar
    rfl
  · by_cases hmark : c = '?'
    · subst hmark
      rfl
    · rw [pieceOf_eq_exactly hstar hmark, Takes, if_neg hstar, if_neg hmark]
      rfl

theorem cuts_pieceOf_iff {pattern : List Char} :
    Cuts (pattern.map pieceOf) cs ↔ Globs pattern cs := by
  simp only [Cuts, Globs, List.forall₂_map_left_iff, takes_pieceOf_iff]

end Regrant.PathPattern
