import Regrant.Binding.Candidate
import Regrant.Proofs.Run

/-!
# What a judge answers

The rules decide on the facts of a candidate.  They may fail, and they fail the candidate if none of
them applies; otherwise the verdict holds the binding as it was proposed.
-/

namespace Regrant

namespace Judge

/-- What the rules decide on a candidate; that no rule applies is a failure. -/
def action (j : Judge) (c : Candidate) : Except Failure Action :=
  match (j.rules.decide c.facts c.reserved c.defaults).outcome with
  | .error e => .error e
  | .ok d => if d.action = .noMatch then .error (.noRuleMatch j.system) else .ok d.action

/-- **The verdict keeps the binding.** -/
theorem outcome_judge (j : Judge) (c : Candidate) :
    (j.judge c).outcome = (j.action c).map (⟨·, c.binding⟩) := by
  rw [judge, action, Run.outcome_bind]
  cases (j.rules.decide c.facts c.reserved c.defaults).outcome with
  | error e => rfl
  | ok d => by_cases h : d.action = .noMatch <;> simp [h, Except.map]

/-- What a candidate amounts to, if it is one. -/
def step (j : Judge) : Option Candidate → Except Failure (Option Verdict)
  | none => .ok none
  | some c => (j.action c).map fun action => some ⟨action, c.binding⟩

/-- Judging a candidate before the rest is one more step in front of the steps of the rest. -/
theorem outcome_step_cons (j : Judge) (r : Run (Option Candidate)) {rest : Run (List Verdict)}
    {steps : List (Except Failure (Option Verdict))} (hrest : rest.outcome = gathered steps) :
    (do
      match ← r with
      | none => rest
      | some c => do
        let v ← j.judge c
        return v :: (← rest) : Run (List Verdict)).outcome =
      gathered ((match r.outcome with
        | .ok c? => j.step c?
        | .error e => .error e) :: steps) := by
  rw [Run.outcome_bind]
  cases r.outcome with
  | error e => rfl
  | ok c? =>
    cases c? with
    | none => simp [step, hrest]
    | some c =>
      simp only [step, Run.outcome_bind, outcome_judge, hrest]
      cases j.action c with
      | error e => rfl
      | ok action => cases h : gathered steps <;> simp [Except.map, h]

end Judge

end Regrant
