import Mathlib.Data.List.Basic
import Regrant.Source

/-!
# Sources without broken records

A list is a source none of whose records is broken, and it is the only list that this source holds.
Collecting values from it succeeds if there is one for each record.
-/

namespace Regrant

namespace Source

variable {α β : Type}

theorem ofList_inj {l l' : List α} (h : ofList l = ofList l') : l = l' := by
  have hrecords : l.map (.ok : α → Except Failure α) = l'.map .ok := Except.ok.inj h
  exact List.map_injective_iff.2 (fun _ _ => Except.ok.inj) hrecords

theorem map_ofList (f : α → β) (l : List α) : (ofList l).map f = ofList (l.map f) := by
  show Except.ok ((l.map Except.ok).map (Except.map f)) = Except.ok ((l.map f).map Except.ok)
  rw [List.map_map, List.map_map]
  rfl

theorem collect_ofList {f : α → Except Failure β} {g : α → β} {l : List α}
    (h : ∀ a ∈ l, f a = .ok (g a)) : (ofList l).collect f = .ok (l.map g) := by
  show traverse f (l.map .ok) = .ok (l.map g)
  induction l with
  | nil => rfl
  | cons a l ih =>
    obtain ⟨ha, hl⟩ := List.forall_mem_cons.1 h
    rw [List.map_cons, traverse, ha, ih hl]
    rfl

/-- Collecting goes through all records. -/
theorem mem_of_traverse {f : α → Except Failure β}
    {records : List (Except Failure α)} {bs : List β} (h : traverse f records = .ok bs) {a : α}
    (ha : .ok a ∈ records) : ∃ b ∈ bs, f a = .ok b := by
  induction records generalizing bs with
  | nil => cases ha
  | cons record records ih =>
    cases record with
    | error e => cases h
    | ok a' =>
      rw [traverse] at h
      split at h
      · cases h
      · rename_i b hb
        split at h
        · cases h
        · rename_i bs' hbs
          cases h
          rcases List.mem_cons.1 ha with ha | ha
          · cases ha
            exact ⟨b, List.mem_cons_self, hb⟩
          · obtain ⟨b', hb', hf⟩ := ih hbs ha
            exact ⟨b', List.mem_cons_of_mem _ hb', hf⟩

theorem all_ofList (l : List α) : (ofList l).all = .ok l := by
  have h := collect_ofList (f := .ok) (g := id) (l := l) fun _ _ => rfl
  rwa [List.map_id] at h

end Source

end Regrant
