import Regrant.Proofs.Expr.Checking

/-!
# What an expression depends on

An expression mentions the roots of all paths in it, at any depth (`Mentions`), and all of these are
in scope if the expression is well-formed (`mem_of_mentions`).
Evaluation reads the facts nowhere but at what is mentioned (`eval_congr`).  So the value of a
formula is the same, or the same failure, on facts that agree in its scope
(`Formula.value_congr`).
-/

namespace Regrant

namespace Expr

/-- The variable is the root of a path somewhere in the expression. -/
inductive Mentions (v : String) : Expr → Prop
  | path (fields : List String) : Mentions v (.path v fields)
  | item {items : List Expr} {e : Expr} (he : e ∈ items) (h : Mentions v e) :
      Mentions v (.list items)
  | left {op : BinaryOp} {l r : Expr} (h : Mentions v l) : Mentions v (.binary op l r)
  | right {op : BinaryOp} {l r : Expr} (h : Mentions v r) : Mentions v (.binary op l r)
  | negated {e : Expr} (h : Mentions v e) : Mentions v (.not e)
  | element {e c : Expr} (h : Mentions v e) : Mentions v (.member e c)
  | collection {e c : Expr} (h : Mentions v c) : Mentions v (.member e c)
  | condition {c t f : Expr} (h : Mentions v c) : Mentions v (.conditional c t f)
  | whenTrue {c t f : Expr} (h : Mentions v t) : Mentions v (.conditional c t f)
  | whenFalse {c t f : Expr} (h : Mentions v f) : Mentions v (.conditional c t f)
  | argument {g : Function} {args : List Expr} {e : Expr} (he : e ∈ args) (h : Mentions v e) :
      Mentions v (.call g args)

/-- What is mentioned is the root of a path that stands somewhere. -/
theorem Mentions.exists_part {v : String} {e : Expr} (h : Mentions v e) :
    ∃ fields, Part (.path v fields) e := by
  induction h with
  | path fields => exact ⟨fields, .self⟩
  | item he _ ih | argument he _ ih => exact ih.imp fun _ => .child he
  | left _ ih | negated _ ih | element _ ih | condition _ ih =>
    exact ih.imp fun _ => .child List.mem_cons_self
  | right _ ih | collection _ ih | whenTrue _ ih =>
    exact ih.imp fun _ => .child (List.mem_cons_of_mem _ List.mem_cons_self)
  | @whenFalse c t f _ ih =>
    have hf : f ∈ [c, t, f] := by simp
    exact ih.imp fun _ => .child hf

/-- **What is mentioned is in scope.** -/
theorem mem_of_mentions {scope : List String} {v : String} {e : Expr} (hv : Mentions v e)
    (h : e.WellFormed scope) : v ∈ scope := by
  obtain ⟨_, hpart⟩ := hv.exists_part
  exact h.root hpart

/-! ### Evaluating -/

section

variable {facts facts' : Json} {e : Expr}

theorem evalAll_congr {es : List Expr} (h : ∀ e ∈ es, eval facts e = eval facts' e) :
    evalAll facts es = evalAll facts' es := by
  induction es with
  | nil => rw [evalAll, evalAll]
  | cons e es ih =>
    obtain ⟨he, hes⟩ := List.forall_mem_cons.1 h
    rw [evalAll, evalAll, he, ih hes]

/-- **An expression has one value on all facts that agree on what it mentions.** -/
theorem eval_congr (h : ∀ v, Mentions v e → facts.get v = facts'.get v) :
    eval facts e = eval facts' e := by
  induction e using inductionOn with
  | literal l => rw [eval, eval]
  | path root fields => rw [eval, eval, h root (.path fields)]
  | list items ih =>
    rw [eval, eval, evalAll_congr fun e he => ih e he fun v hv => h v (.item he hv)]
  | binary op l r ihl ihr =>
    have hl := ihl fun v hv => h v (.left hv)
    have hr := ihr fun v hv => h v (.right hv)
    cases op <;> simp only [eval, hl, hr]
  | not e ih => rw [eval, eval, ih fun v hv => h v (.negated hv)]
  | member e c ihe ihc =>
    rw [eval, eval, ihe fun v hv => h v (.element hv), ihc fun v hv => h v (.collection hv)]
  | conditional c t f ihc iht ihf =>
    rw [eval, eval, ihc fun v hv => h v (.condition hv), iht fun v hv => h v (.whenTrue hv),
      ihf fun v hv => h v (.whenFalse hv)]
  | call g args ih =>
    rw [eval, eval, evalAll_congr fun e he => ih e he fun v hv => h v (.argument he hv)]

end

end Expr

/-! ### Formulas -/

/-- The facts have the same values at all variables of a scope; a variable that is missing counts as
null. -/
def Json.AgreeOn (scope : List String) (facts facts' : Json) : Prop :=
  ∀ v ∈ scope, facts.get v = facts'.get v

namespace Formula

variable {scope : List String} {source : String} {f : Formula} {facts facts' : Json}

/-- **A formula sees only what is in its scope.** -/
theorem value_congr (hf : ofSource scope source = .ok f) (h : Json.AgreeOn scope facts facts') :
    f.value facts = f.value facts' := by
  have hformed := (ofSource_eq_ok_iff.1 hf).wellFormed
  rw [value, value, Expr.eval_congr fun v hv => h v (Expr.mem_of_mentions hv hformed)]

theorem holds_congr (hf : ofSource scope source = .ok f) (h : Json.AgreeOn scope facts facts') :
    f.holds facts = f.holds facts' := by
  rw [holds, holds, value_congr hf h]

end Formula

end Regrant
