import Mathlib.Data.String.Basic
import Regrant.FileTree

/-!
# Splitting a text at a character

The library splits a text at another text by counting how much of it has been seen.  If that is a
single character, this is splitting the list of characters (`splitOn_eq`), which can be computed.
Paths are split at slashes, and tables of code points at slashes and dashes.
-/

namespace Regrant

section

variable {sep : String} {c : Char} (hfirst : (0 : String.Pos.Raw).get sep = c)
  (hnext : (0 : String.Pos.Raw).next sep = ⟨c.utf8Size⟩)
  (hend : (⟨c.utf8Size⟩ : String.Pos.Raw).atEnd sep = true)

include hfirst hnext hend

theorem splitOnAux_eq (s : String) (b i : String.Pos.Raw) (r : List String) :
    String.splitOnAux s sep b i 0 r = String.splitAux s (· == c) b i r := by
  fun_induction String.splitAux s (· == c) b i r with
  | case1 b i r hi => rw [String.splitOnAux, if_pos hi]
  | case2 b i r hi hlt hc i' ih =>
    -- The character is seen at once, so what was seen begins where it begins.
    have hseen : (i.next s).unoffsetBy ⟨c.utf8Size⟩ = i := by
      rw [String.Pos.Raw.next, beq_iff_eq.1 hc]
      exact String.Pos.Raw.ext (Nat.add_sub_cancel _ _)
    rw [String.splitOnAux, if_neg hi, if_pos (by rw [hfirst]; exact hc)]
    simp only [hnext, hseen, hend, if_true]
    exact ih
  | case3 b i r hi hlt hc ih =>
    rw [String.splitOnAux, if_neg hi, if_neg (by rw [hfirst]; exact hc)]
    exact ih

/-- **Splitting at a text of one character** is splitting the list of characters. -/
theorem splitOn_eq (s : String) (hsep : sep ≠ "") :
    s.splitOn sep = (s.toList.splitOnP (· == c)).map String.ofList := by
  rw [← String.splitToList_of_valid, String.splitOn, if_neg (by simpa using hsep)]
  exact splitOnAux_eq hfirst hnext hend s 0 0 []

end

theorem splitOn_slash (s : String) :
    s.splitOn "/" = (s.toList.splitOnP (· == '/')).map String.ofList :=
  splitOn_eq (by decide) (by decide) (by decide) s (by decide)

theorem splitOn_dash (s : String) :
    s.splitOn "-" = (s.toList.splitOnP (· == '-')).map String.ofList :=
  splitOn_eq (by decide) (by decide) (by decide) s (by decide)

/-- The names of a path are what stands between its slashes. -/
theorem FileTree.pathNames_eq (path : String) :
    pathNames path = (path.toList.splitOnP (· == '/')).map String.ofList := splitOn_slash path

end Regrant
