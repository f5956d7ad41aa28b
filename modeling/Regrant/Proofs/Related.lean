import Mathlib.Data.List.Forall2

/-!
# Related lists

Two lists are related item by item, as what is read and what becomes of it.
-/

namespace Regrant

/-! ### Relating lists -/

theorem forall₂_of_map_eq {α β : Type} {f : α → β} {R : α → α → Prop} {l l' : List α}
    (h : l.map f = l'.map f) (hR : ∀ a ∈ l, ∀ b ∈ l', f a = f b → R a b) : List.Forall₂ R l l' := by
  induction l generalizing l' with
  | nil =>
    rw [List.map_nil, eq_comm, List.map_eq_nil_iff] at h
    rw [h]
    exact .nil
  | cons a l ih =>
    obtain ⟨b, l', rfl, hb, hl⟩ := List.map_eq_cons_iff.1 h.symm
    refine .cons (hR a List.mem_cons_self b List.mem_cons_self hb.symm) (ih hl.symm ?_)
    intro a' ha' b' hb'
    exact hR a' (List.mem_cons_of_mem _ ha') b' (List.mem_cons_of_mem _ hb')

/-- Two lists that are related to a third are related to each other if this is so of their items. -/
theorem forall₂_right_of_mem {α : Type} {R : α → α → Prop} {l l' l'' : List α}
    (h : List.Forall₂ R l l') (h' : List.Forall₂ R l l'')
    (hright : ∀ a ∈ l, ∀ b c, R a b → R a c → R b c) : List.Forall₂ R l' l'' := by
  induction h generalizing l'' with
  | nil =>
    cases h'
    exact .nil
  | cons hab _ ih =>
    obtain ⟨ha, hl⟩ := List.forall_mem_cons.1 hright
    cases h' with
    | cons hac h' => exact .cons (ha _ _ hab hac) (ih h' hl)

theorem forall₂_modifyHead {α : Type} {R : α → α → Prop} {f g : α → α} {xs ys : List α}
    (h : List.Forall₂ R xs ys) (hfg : ∀ x y, R x y → R (f x) (g y)) :
    List.Forall₂ R (xs.modifyHead f) (ys.modifyHead g) := by
  cases h with
  | nil => exact .nil
  | cons hxy h => exact .cons (hfg _ _ hxy) h

/-! ### Items and lists that are related -/

/-- Lists of related values belong to two lists if related values belong to their members. -/
theorem exists_forall₂_iff {α β γ δ : Type} {A : α → γ → Prop} {B : β → δ → Prop}
    {S : γ → δ → Prop} {l : List α} {l' : List β} :
    (∃ vs ws, List.Forall₂ A l vs ∧ List.Forall₂ B l' ws ∧ List.Forall₂ S vs ws) ↔
      List.Forall₂ (fun a b => ∃ v w, A a v ∧ B b w ∧ S v w) l l' := by
  constructor
  · rintro ⟨vs, ws, hl, hl', h⟩
    induction h generalizing l l' with
    | nil =>
      obtain rfl := List.forall₂_nil_right_iff.1 hl
      obtain rfl := List.forall₂_nil_right_iff.1 hl'
      exact .nil
    | cons hvw _ ih =>
      obtain ⟨a, _, ha, hvs, rfl⟩ := List.forall₂_cons_right_iff.1 hl
      obtain ⟨b, _, hb, hws, rfl⟩ := List.forall₂_cons_right_iff.1 hl'
      exact .cons ⟨_, _, ha, hb, hvw⟩ (ih hvs hws)
  · intro h
    induction h with
    | nil => exact ⟨[], [], .nil, .nil, .nil⟩
    | cons hab _ ih =>
      obtain ⟨v, w, ha, hb, hvw⟩ := hab
      obtain ⟨vs, ws, hl, hl', h⟩ := ih
      exact ⟨v :: vs, w :: ws, .cons ha hl, .cons hb hl', .cons hvw h⟩

section

variable {α β : Type} {R : α → β → Prop} {xs : List α} {ys : List β}

theorem exists_of_forall₂_left (h : List.Forall₂ R xs ys) {x : α} (hx : x ∈ xs) :
    ∃ y ∈ ys, R x y := by
  induction h with
  | nil => cases hx
  | cons hxy _ ih =>
    rcases List.mem_cons.1 hx with rfl | hx
    · exact ⟨_, List.mem_cons_self, hxy⟩
    · obtain ⟨y, hy, hR⟩ := ih hx
      exact ⟨y, List.mem_cons_of_mem _ hy, hR⟩

theorem exists_of_forall₂_right (h : List.Forall₂ R xs ys) {y : β} (hy : y ∈ ys) :
    ∃ x ∈ xs, R x y :=
  exists_of_forall₂_left h.flip hy

/-- What begins a list is related to what begins the other. -/
theorem exists_append_of_forall₂ {xs' : List α} (h : List.Forall₂ R (xs ++ xs') ys) :
    ∃ zs zs', List.Forall₂ R xs zs ∧ ys = zs ++ zs' := by
  induction xs generalizing ys with
  | nil => exact ⟨[], ys, .nil, rfl⟩
  | cons x xs ih =>
    obtain ⟨z, ys, hz, hys, rfl⟩ := List.forall₂_cons_left_iff.1 h
    obtain ⟨zs, zs', hzs, rfl⟩ := ih hys
    exact ⟨z :: zs, zs', .cons hz hzs, rfl⟩

/-- A list is related to some other exactly if all of its items are. -/
theorem exists_forall₂_right_iff :
    (∃ ys, List.Forall₂ R xs ys) ↔ ∀ x ∈ xs, ∃ y, R x y := by
  constructor
  · rintro ⟨ys, h⟩ x hx
    obtain ⟨y, -, hxy⟩ := exists_of_forall₂_left h hx
    exact ⟨y, hxy⟩
  · intro h
    induction xs with
    | nil => exact ⟨[], .nil⟩
    | cons x xs ih =>
      obtain ⟨⟨y, hxy⟩, hxs⟩ := List.forall_mem_cons.1 h
      obtain ⟨ys, hys⟩ := ih hxs
      exact ⟨y :: ys, .cons hxy hys⟩

end

end Regrant
