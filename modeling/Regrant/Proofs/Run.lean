import Mathlib.Data.List.Perm.Basic
import Regrant.Run

/-!
# How runs end

The outcome of a run is that of its steps one after the other, whatever they report.  What they
report adds up to the first failure.  A list of steps each of which may fail or yield nothing is
`gathered`: the values in order, or the first failure.
-/

namespace Regrant

namespace Run

variable {α β : Type}

@[simp] theorem outcome_pure (a : α) : (Pure.pure a : Run α).outcome = .ok a := rfl

@[simp] theorem outcome_fail (e : Failure) : (fail e : Run α).outcome = .error e := rfl

@[simp] theorem outcome_ofExcept (x : Except Failure α) : (ofExcept x).outcome = x := rfl

@[simp] theorem outcome_report (n : Notice) : (report n).outcome = .ok () := rfl

@[simp] theorem outcome_reportAll (ns : List Notice) : (reportAll ns).outcome = .ok () := rfl

@[simp] theorem outcome_bind (r : Run α) (f : α → Run β) :
    (r >>= f).outcome = match r.outcome with
      | .ok a => (f a).outcome
      | .error e => .error e := by
  show (Run.bind r f).outcome = _
  rw [Run.bind]
  cases r.outcome <;> rfl

/-- A run goes on exactly with what it succeeded with. -/
theorem bind_eq_ok_iff {r : Run α} {f : α → Run β} {b : β} :
    (r >>= f).outcome = .ok b ↔ ∃ a, r.outcome = .ok a ∧ (f a).outcome = .ok b := by
  rw [outcome_bind]
  cases r.outcome with
  | error e => simp
  | ok a => simp

/-- A run fails in its first part, or goes on and fails in the second. -/
theorem bind_eq_error_iff {r : Run α} {f : α → Run β} {e : Failure} :
    (r >>= f).outcome = .error e ↔
      r.outcome = .error e ∨ ∃ a, r.outcome = .ok a ∧ (f a).outcome = .error e := by
  rw [outcome_bind]
  cases r.outcome with
  | error e => simp
  | ok a => simp

/-! ### What runs report -/

@[simp] theorem notices_pure (a : α) : (Pure.pure a : Run α).notices = [] := rfl

@[simp] theorem notices_reportAll (ns : List Notice) : (reportAll ns).notices = ns := rfl

theorem notices_bind (r : Run α) (f : α → Run β) :
    (r >>= f).notices = r.notices ++ match r.outcome with
      | .ok a => (f a).notices
      | .error _ => [] := by
  show (Run.bind r f).notices = _
  rw [Run.bind]
  cases r.outcome with
  | ok a => rfl
  | error e => exact (List.append_nil _).symm

/-- A run that succeeds has reported what its parts have. -/
theorem exists_of_bind_eq_ok {r : Run α} {f : α → Run β} {b : β}
    (h : (r >>= f).outcome = .ok b) :
    ∃ a, r.outcome = .ok a ∧ (f a).outcome = .ok b ∧
      (r >>= f).notices = r.notices ++ (f a).notices := by
  obtain ⟨a, ha, hb⟩ := bind_eq_ok_iff.1 h
  exact ⟨a, ha, hb, by rw [notices_bind, ha]⟩

/-- A run that succeeds reports just these notices, and one that fails only the first of them. -/
structure Reports (r : Run α) (ns : List Notice) : Prop where
  first : r.notices <+: ns
  all : ∀ a, r.outcome = .ok a → r.notices = ns

theorem reports_ofExcept (x : Except Failure α) : (ofExcept x).Reports [] where
  first := List.prefix_refl []
  all _ _ := rfl

theorem Reports.bind {r : Run α} {f : α → Run β} {ns ns' : List Notice} (hr : r.Reports ns)
    (hf : ∀ a, r.outcome = .ok a → (f a).Reports ns') : (r >>= f).Reports (ns ++ ns') := by
  constructor
  · rw [notices_bind]
    cases ha : r.outcome with
    | ok a =>
      rw [hr.all a ha]
      exact (List.prefix_append_right_inj ns).2 (hf a ha).first
    | error e =>
      rw [List.append_nil]
      exact hr.first.trans (List.prefix_append ns ns')
  · intro b hb
    obtain ⟨a, ha, hb, hnotices⟩ := exists_of_bind_eq_ok hb
    rw [hnotices, hr.all a ha, (hf a ha).all b hb]

/-- All that a run reports is of some kind. -/
def Says (P : Notice → Prop) (r : Run α) : Prop := ∀ n ∈ r.notices, P n

theorem says_ofExcept (P : Notice → Prop) (x : Except Failure α) : (ofExcept x).Says P :=
  fun _ hn => absurd hn List.not_mem_nil

theorem Says.bind {P : Notice → Prop} {r : Run α} {f : α → Run β} (hr : r.Says P)
    (hf : ∀ a, r.outcome = .ok a → (f a).Says P) : (r >>= f).Says P := by
  rw [Says, notices_bind, List.forall_mem_append]
  refine ⟨hr, ?_⟩
  cases ha : r.outcome with
  | ok a => exact hf a ha
  | error e => exact fun _ hn => absurd hn List.not_mem_nil

end Run

/-! ### Answers -/

section

variable {α β : Type}

theorem exceptBind_eq_ok_iff {ε : Type} {x : Except ε α} {f : α → Except ε β} {b : β} :
    (x >>= f) = .ok b ↔ ∃ a, x = .ok a ∧ f a = .ok b := by
  cases x with
  | error e => simp [bind, Except.bind]
  | ok a => simp [bind, Except.bind]

theorem exceptThen_eq_ok_iff {ε : Type} {x : Except ε Unit} {y : Except ε α} {a : α} :
    (x >>= fun _ => y) = .ok a ↔ x = .ok () ∧ y = .ok a :=
  exceptBind_eq_ok_iff.trans ⟨fun ⟨_, h⟩ => h, fun h => ⟨(), h⟩⟩

theorem exceptBind_eq_error_iff {x : Except Failure α} {f : α → Except Failure β} {e : Failure} :
    (x >>= f) = .error e ↔ x = .error e ∨ ∃ a, x = .ok a ∧ f a = .error e := by
  cases x with
  | error e' => simp [bind, Except.bind]
  | ok a => simp [bind, Except.bind]

theorem exceptMap_eq_ok_iff {x : Except Failure α} {f : α → β} {b : β} :
    x.map f = .ok b ↔ ∃ a, x = .ok a ∧ f a = b := by
  cases x with
  | error e => simp [Except.map]
  | ok a => simp [Except.map]

theorem exceptMap_eq_error_iff {x : Except Failure α} {f : α → β} {e : Failure} :
    x.map f = .error e ↔ x = .error e := by
  cases x with
  | error e' => simp [Except.map]
  | ok a => simp [Except.map]

theorem exists_ok_of_isOk {x : Except Failure α} (h : x.isOk = true) : ∃ a, x = .ok a := by
  cases x with
  | ok a => exact ⟨a, rfl⟩
  | error e => cases h

theorem exists_error_of_isOk {x : Except Failure α} (h : x.isOk = false) : ∃ e, x = .error e := by
  cases x with
  | ok a => cases h
  | error e => exact ⟨e, rfl⟩

theorem eq_ok_of_toOption {x : Except Failure α} {a : α} (h : x.toOption = some a) : x = .ok a := by
  cases x <;> cases h
  rfl

end

/-! ### Steps -/

variable {α β : Type}

/-- The values of some steps in order, or the failure of the first that fails. -/
def gathered : List (Except Failure (Option α)) → Except Failure (List α)
  | [] => .ok []
  | .error e :: _ => .error e
  | .ok a? :: rest => (gathered rest).map (a?.toList ++ ·)

@[simp] theorem gathered_nil : gathered ([] : List (Except Failure (Option α))) = .ok [] := rfl

theorem gathered_ok (a? : Option α) (l : List (Except Failure (Option α))) :
    gathered (.ok a? :: l) = (gathered l).map (a?.toList ++ ·) := rfl

@[simp] theorem gathered_none (l : List (Except Failure (Option α))) :
    gathered (.ok none :: l) = gathered l := by
  rw [gathered_ok]
  cases gathered l <;> rfl

@[simp] theorem gathered_some (a : α) (l : List (Except Failure (Option α))) :
    gathered (.ok (some a) :: l) = (gathered l).map (a :: ·) := rfl

theorem gathered_append (l l' : List (Except Failure (Option α))) :
    gathered (l ++ l') = match gathered l with
      | .ok as => (gathered l').map (as ++ ·)
      | .error e => .error e := by
  induction l with
  | nil =>
    rw [List.nil_append]
    cases gathered l' <;> simp [Except.map]
  | cons step l ih =>
    cases step with
    | error e => rfl
    | ok a? =>
      rw [List.cons_append, gathered_ok, gathered_ok, ih]
      cases gathered l <;> cases gathered l' <;> simp [Except.map]

/-- Two runs that gather steps, one after the other, gather the steps of both. -/
theorem outcome_append {r r' : Run (List α)} {l l' : List (Except Failure (Option α))}
    (h : r.outcome = gathered l) (h' : r'.outcome = gathered l') :
    (do
      let as ← r
      return as ++ (← r') : Run (List α)).outcome = gathered (l ++ l') := by
  rw [gathered_append, ← h, ← h', Run.outcome_bind]
  cases r.outcome with
  | error e => rfl
  | ok as =>
    simp only [Run.outcome_bind]
    cases r'.outcome <;> rfl

theorem gathered_map_ok (values : List (Option α)) :
    gathered (values.map .ok) = .ok (values.filterMap id) := by
  induction values with
  | nil => rfl
  | cons a? values ih =>
    rw [List.map_cons, gathered_ok, ih]
    cases a? <;> rfl

theorem gathered_map_ok_append_error (values : List (Option α)) (e : Failure)
    (rest : List (Except Failure (Option α))) :
    gathered (values.map .ok ++ .error e :: rest) = .error e := by
  rw [gathered_append, gathered_map_ok]
  rfl

/-- All steps succeed, or there is a first one that fails. -/
theorem ok_or_first_error (steps : List (Except Failure α)) :
    (∃ values : List α, steps = values.map .ok) ∨
      ∃ (values : List α) (e : Failure) (rest : List (Except Failure α)),
        steps = values.map .ok ++ .error e :: rest := by
  induction steps with
  | nil => exact Or.inl ⟨[], rfl⟩
  | cons step steps ih =>
    cases step with
    | error e => exact Or.inr ⟨[], e, steps, rfl⟩
    | ok a =>
      rcases ih with ⟨values, rfl⟩ | ⟨values, e, rest, rfl⟩
      · exact Or.inl ⟨a :: values, rfl⟩
      · exact Or.inr ⟨a :: values, e, rest, rfl⟩

/-- All steps succeed, and the answer lists the values that they yield. -/
theorem gathered_eq_ok_iff {l : List (Except Failure (Option α))} {as : List α} :
    gathered l = .ok as ↔
      ∃ values : List (Option α), l = values.map .ok ∧ as = values.filterMap id := by
  constructor
  · intro h
    rcases ok_or_first_error l with ⟨values, rfl⟩ | ⟨values, e, rest, rfl⟩
    · rw [gathered_map_ok] at h
      cases h
      exact ⟨values, rfl, rfl⟩
    · rw [gathered_map_ok_append_error] at h
      cases h
  · rintro ⟨values, rfl, rfl⟩
    exact gathered_map_ok values

/-- The answer is the failure of a step before which all steps succeed. -/
theorem gathered_eq_error_iff {l : List (Except Failure (Option α))} {e : Failure} :
    gathered l = .error e ↔
      ∃ (values : List (Option α)) (rest : List (Except Failure (Option α))),
        l = values.map .ok ++ .error e :: rest := by
  constructor
  · intro h
    rcases ok_or_first_error l with ⟨values, rfl⟩ | ⟨values, e', rest, rfl⟩
    · rw [gathered_map_ok] at h
      cases h
    · rw [gathered_map_ok_append_error] at h
      cases h
      exact ⟨values, rest, rfl⟩
  · rintro ⟨values, rest, rfl⟩
    exact gathered_map_ok_append_error values e rest

/-- Steps that are skipped unless they are of one kind. -/
theorem gathered_map_ite {β : Type} (p : β → Prop) [DecidablePred p]
    (f : β → Except Failure (Option α)) (l : List β) :
    gathered (l.map fun x => if p x then f x else .ok none) = gathered ((l.filter p).map f) := by
  induction l with
  | nil => rfl
  | cons x l ih =>
    by_cases hx : p x
    · rw [List.map_cons, if_pos hx, List.filter_cons_of_pos (by simpa using hx), List.map_cons]
      cases f x with
      | error e => rfl
      | ok a? => rw [gathered_ok, gathered_ok, ih]
    · rw [List.map_cons, if_neg hx, gathered_none, ih,
        List.filter_cons_of_neg (by simpa using hx)]

/-- What is gathered is the value of a step. -/
theorem exists_of_mem_gathered {β : Type} {f : β → Except Failure (Option α)} {l : List β}
    {as : List α} (h : gathered (l.map f) = .ok as) {a : α} (ha : a ∈ as) :
    ∃ x ∈ l, f x = .ok (some a) := by
  obtain ⟨values, hvalues, rfl⟩ := gathered_eq_ok_iff.1 h
  obtain ⟨_, ha?, rfl⟩ := List.mem_filterMap.1 ha
  have hmem : .ok (some a) ∈ l.map f := hvalues ▸ List.mem_map_of_mem ha?
  obtain ⟨x, hx, hfx⟩ := List.mem_map.1 hmem
  exact ⟨x, hx, hfx⟩

/-- What is gathered holds every value. -/
theorem mem_of_gathered {l : List (Except Failure (Option α))} {as : List α} {a : α}
    (h : gathered l = .ok as) (ha : .ok (some a) ∈ l) : a ∈ as := by
  obtain ⟨values, rfl, rfl⟩ := gathered_eq_ok_iff.1 h
  obtain ⟨a?, ha?, he⟩ := List.mem_map.1 ha
  cases he
  exact List.mem_filterMap.2 ⟨some a, ha?, rfl⟩

/-- Steps that succeed yield the same values in another order. -/
theorem gathered_perm {l l' : List (Except Failure (Option α))} {as : List α} (hl : l.Perm l')
    (h : gathered l = .ok as) : ∃ as', gathered l' = .ok as' ∧ as.Perm as' := by
  obtain ⟨values, rfl, rfl⟩ := gathered_eq_ok_iff.1 h
  rcases ok_or_first_error l' with ⟨values', rfl⟩ | ⟨values', e, rest, rfl⟩
  · refine ⟨_, gathered_map_ok values', List.Perm.filterMap _ ?_⟩
    exact (List.map_perm_map_iff fun _ _ => Except.ok.inj).1 hl
  · have he : (.error e : Except Failure (Option α)) ∈ values.map .ok := by
      rw [hl.mem_iff]
      exact List.mem_append_right _ List.mem_cons_self
    simp at he

/-- If something holds of a member, there is a first one of which it holds. -/
theorem exists_first {P : α → Prop} {l : List α} (h : ∃ a ∈ l, P a) :
    ∃ before a after, l = before ++ a :: after ∧ (∀ b ∈ before, ¬ P b) ∧ P a := by
  classical
  obtain ⟨b, hfound⟩ := Option.isSome_iff_exists.1
    (List.find?_isSome (p := fun a => decide (P a)) |>.2 (by simpa using h))
  obtain ⟨hb, before, after, hl, hbefore⟩ := List.find?_eq_some_iff_append.1 hfound
  exact ⟨before, b, after, hl, fun c hc => by simpa using hbefore c hc, of_decide_eq_true hb⟩

/-- The answer is the failure of the first step that fails. -/
theorem gathered_map_eq_error {β : Type} {f : β → Except Failure (Option α)} {before after : List β}
    {x : β} {e : Failure} (hbefore : ∀ y ∈ before, ∀ e, f y ≠ .error e) (hx : f x = .error e) :
    gathered ((before ++ x :: after).map f) = .error e := by
  rw [List.map_append, List.map_cons, hx]
  rcases ok_or_first_error (before.map f) with ⟨values, hvalues⟩ | ⟨values, e', rest, hvalues⟩
  · rw [hvalues]
    exact gathered_map_ok_append_error values e _
  · have he' : .error e' ∈ before.map f :=
      hvalues ▸ List.mem_append_right _ List.mem_cons_self
    obtain ⟨y, hy, hfails⟩ := List.mem_map.1 he'
    exact absurd hfails (hbefore y hy e')

theorem mem_of_gathered_eq_error {l : List (Except Failure (Option α))} {e : Failure}
    (h : gathered l = .error e) : .error e ∈ l := by
  obtain ⟨values, rest, rfl⟩ := gathered_eq_error_iff.1 h
  exact List.mem_append_right _ List.mem_cons_self

end Regrant
