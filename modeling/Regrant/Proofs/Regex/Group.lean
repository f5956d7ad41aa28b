import Mathlib.Algebra.GroupWithZero.Nat
import Regrant.Proofs.Regex.Reach
import Regrant.Regex.Parse

/-!
# Groups of regular expressions

A group is read into a list of parts and a list of alternatives, both in reverse.  The parts of a
sequence match one after the other (`spans_sequence`), and a group matches what one of its
alternatives matches (`spans_close`).  Beside that stand the two measures by which a pattern can be
refused: the nesting of its parts and their number.
-/

namespace Regrant.Regex

/-- What a part matches; a change of flags matches where it stands. -/
def Part.body (p : Part) : Regex := p.regex.getD .empty

/-- Parts in reverse, one after the other. -/
def joined (parts : List Part) : Regex := parts.foldl (fun r p => .concat p.body r) .empty

namespace Group

variable {g : Group} {text : List Char} {i j n : Nat}

theorem sequence_cons_cons {p q : Part} {parts : List Part} (h : g.parts = p :: q :: parts) :
    g.sequence.body = joined (p :: q :: parts) := by
  rw [sequence, h]
  rfl

theorem spans_sequence : g.sequence.body.Spans text i j ↔ (joined g.parts).Spans text i j := by
  match hparts : g.parts with
  | [] =>
    rw [sequence, hparts]
    rfl
  | [p] =>
    rw [sequence, hparts]
    constructor
    · intro h
      exact ⟨j, h, rfl⟩
    · rintro ⟨m, h, rfl⟩
      exact h
  | p :: q :: parts => rw [sequence_cons_cons hparts]

theorem unfolded_sequence : g.sequence.body.unfolded = (g.parts.map (·.body.unfolded)).sum := by
  have hjoined : ∀ (parts : List Part) (r : Regex),
      (parts.foldl (fun r p => .concat p.body r) r).unfolded =
        (parts.map (·.body.unfolded)).sum + r.unfolded := by
    intro parts
    induction parts with
    | nil => simp
    | cons p parts ih =>
      intro r
      rw [List.foldl_cons, ih, unfolded, List.map_cons, List.sum_cons]
      omega
  match hparts : g.parts with
  | [] =>
    rw [sequence, hparts]
    rfl
  | [p] =>
    rw [sequence, hparts, List.map_singleton, List.sum_singleton]
    rfl
  | p :: q :: parts => exact (congrArg unfolded (sequence_cons_cons hparts)).trans (hjoined _ .empty)

theorem foldl_max_le {depths : List Nat} {start : Nat} (hstart : start ≤ n)
    (h : ∀ d ∈ depths, d ≤ n) : depths.foldl max start ≤ n := by
  induction depths generalizing start with
  | nil => exact hstart
  | cons d depths ih =>
    have hd : d ≤ n := h d List.mem_cons_self
    exact ih (Nat.max_le.2 ⟨hstart, hd⟩) fun d' hd' => h d' (List.mem_cons_of_mem _ hd')

theorem depth_sequence_le (h : ∀ p ∈ g.parts, p.depth ≤ n) : g.sequence.depth ≤ n + 1 := by
  match hparts : g.parts with
  | [] =>
    rw [sequence, hparts]
    exact Nat.zero_le _
  | [p] =>
    have hp : p.depth ≤ n := h p (by simp [hparts])
    rw [sequence, hparts]
    exact Nat.le_succ_of_le hp
  | p :: q :: parts =>
    have hmax : (g.parts.map (·.depth)).foldl max 0 ≤ n := by
      refine foldl_max_le (Nat.zero_le _) ?_
      intro d hd
      obtain ⟨p, hp, rfl⟩ := List.mem_map.1 hd
      exact h p hp
    rw [hparts] at hmax
    rw [sequence, hparts, Nat.add_comm n]
    exact Nat.add_le_add_left hmax 1

theorem body_close :
    g.close.body = g.branches.foldl (fun r p => .alternate p.body r) g.sequence.body := by
  rw [close]
  split
  · rename_i hnil
    rw [hnil]
    rfl
  · rfl

theorem spans_close :
    g.close.body.Spans text i j ↔ ∃ p ∈ g.sequence :: g.branches, p.body.Spans text i j := by
  have hfold : ∀ (branches : List Part) (r : Regex),
      (branches.foldl (fun r p => .alternate p.body r) r).Spans text i j ↔
        r.Spans text i j ∨ ∃ p ∈ branches, p.body.Spans text i j := by
    intro branches
    induction branches with
    | nil => simp
    | cons p branches ih =>
      intro r
      rw [List.foldl_cons, ih, Spans]
      simp only [List.mem_cons, exists_eq_or_imp]
      rw [or_assoc, or_left_comm]
  rw [body_close, hfold]
  simp only [List.mem_cons, exists_eq_or_imp]

theorem unfolded_close : g.close.body.unfolded =
    ((g.sequence :: g.branches).map (·.body.unfolded)).sum + g.branches.length := by
  have hfold : ∀ (branches : List Part) (r : Regex),
      (branches.foldl (fun r p => .alternate p.body r) r).unfolded =
        r.unfolded + (branches.map (·.body.unfolded)).sum + branches.length := by
    intro branches
    induction branches with
    | nil => simp
    | cons p branches ih =>
      intro r
      rw [List.foldl_cons, ih, unfolded, List.map_cons, List.sum_cons, List.length_cons]
      omega
  rw [body_close, hfold, List.map_cons, List.sum_cons]

theorem depth_close_le (h : ∀ p ∈ g.sequence :: g.branches, p.depth ≤ n) :
    g.close.depth ≤ n + 1 := by
  have hmax : ((g.sequence :: g.branches).map (·.depth)).foldl max 0 ≤ n := by
    refine foldl_max_le (Nat.zero_le _) ?_
    intro d hd
    obtain ⟨p, hp, rfl⟩ := List.mem_map.1 hd
    exact h p hp
  rw [close]
  split
  · exact Nat.le_succ_of_le (h _ List.mem_cons_self)
  · rw [Nat.add_comm n]
    exact Nat.add_le_add_left hmax 1

end Group

end Regrant.Regex
