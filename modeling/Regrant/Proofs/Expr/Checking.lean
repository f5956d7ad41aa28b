import Regrant.Expr.Formula
import Regrant.Proofs.Run

/-!
# What checking accepts

Checking walks through an expression from the top: it looks at each expression alone (`checkNode`)
and then at its children (`check_eq`).  So it accepts an expression exactly if nothing is wrong with
any part of it, at any depth: the root of every path is in scope, and every pattern that is written
out is a regular expression (`check_eq_ok_iff`).  A formula is a text that parses to such an
expression (`Formula.ofSource_eq_ok_iff`).
-/

namespace Regrant

namespace Expr

/-! ### Parts -/

/-- The expressions that an expression is put together from. -/
def children : Expr → List Expr
  | .literal _ => []
  | .path _ _ => []
  | .list items => items
  | .binary _ left right => [left, right]
  | .not e => [e]
  | .member element collection => [element, collection]
  | .conditional condition whenTrue whenFalse => [condition, whenTrue, whenFalse]
  | .call _ args => args

/-- `p` stands somewhere in the expression. -/
inductive Part (p : Expr) : Expr → Prop
  | self : Part p p
  | child {e c : Expr} (hc : c ∈ e.children) (h : Part p c) : Part p e

/-- What holds of an expression if it holds of its parts holds of all. -/
@[elab_as_elim]
theorem inductionOn {motive : Expr → Prop} (literal : ∀ l, motive (.literal l))
    (path : ∀ root fields, motive (.path root fields))
    (list : ∀ items, (∀ e ∈ items, motive e) → motive (.list items))
    (binary : ∀ op l r, motive l → motive r → motive (.binary op l r))
    (not : ∀ e, motive e → motive (.not e))
    (member : ∀ e c, motive e → motive c → motive (.member e c))
    (conditional : ∀ c t f, motive c → motive t → motive f → motive (.conditional c t f))
    (call : ∀ f args, (∀ e ∈ args, motive e) → motive (.call f args)) (e : Expr) : motive e :=
  @Expr.rec motive (fun es => ∀ e ∈ es, motive e) literal path list binary not member conditional
    call (List.forall_mem_nil _) (fun _ _ h hs => List.forall_mem_cons.2 ⟨h, hs⟩) e

@[elab_as_elim]
theorem inductionOnChildren {motive : Expr → Prop}
    (step : ∀ e, (∀ c ∈ e.children, motive c) → motive e) (e : Expr) : motive e := by
  induction e using inductionOn with
  | literal l => exact step _ (List.forall_mem_nil _)
  | path root fields => exact step _ (List.forall_mem_nil _)
  | list items ih => exact step _ ih
  | binary op l r ihl ihr => exact step _ (by simp [children, ihl, ihr])
  | not e ih => exact step _ (by simp [children, ih])
  | member e c ihe ihc => exact step _ (by simp [children, ihe, ihc])
  | conditional c t f ihc iht ihf => exact step _ (by simp [children, ihc, iht, ihf])
  | call f args ih => exact step _ ih

/-- The root of every path in the expression is in scope, and every pattern that is written out in
it is a regular expression.  Both `matches(s, 'p')` and `s.matches('p')` are calls on `s` and the
pattern. -/
structure WellFormed (scope : List String) (e : Expr) : Prop where
  root : ∀ {root fields}, Part (.path root fields) e → root ∈ scope
  pattern : ∀ {subject pattern rest},
    Part (.call .matching (subject :: .literal (.text pattern) :: rest)) e →
      (Regex.parse? pattern).isSome

/-! ### Checking -/

/-- What checking asks of an expression apart from its children. -/
def checkNode (scope : List String) : Expr → Except CheckFault Unit
  | .path root _ => if root ∈ scope then .ok () else .error (.undefined root)
  | .call f args => checkPattern f args
  | _ => .ok ()

variable {scope : List String} {e : Expr}

/-- **Checking an expression** is checking it alone, and then its children. -/
theorem check_eq (e : Expr) :
    check scope e = (checkNode scope e >>= fun _ => checkAll scope e.children) := by
  have hlast (x : Except CheckFault Unit) : (x >>= fun _ => .ok ()) = x := by
    cases x <;> rfl
  cases e with
  | literal l => rw [check]; rfl
  | path root fields => rw [check, children, checkAll, hlast, checkNode]
  | list items => rw [check]; rfl
  | binary op l r => simp only [check, children, checkAll, hlast]; rfl
  | not e => simp only [check, children, checkAll, hlast]; rfl
  | member e c => simp only [check, children, checkAll, hlast]; rfl
  | conditional c t f => simp only [check, children, checkAll, hlast]; rfl
  | call f args => rw [check]; rfl

theorem checkAll_eq_ok_iff {es : List Expr} :
    checkAll scope es = .ok () ↔ ∀ e ∈ es, check scope e = .ok () := by
  induction es with
  | nil => simp [checkAll]
  | cons e es ih => rw [checkAll, exceptThen_eq_ok_iff, ih, List.forall_mem_cons]

/-- Checking leaves no part of an expression out. -/
theorem check_eq_ok_iff_parts :
    check scope e = .ok () ↔ ∀ p, Part p e → checkNode scope p = .ok () := by
  constructor
  · -- Checking goes down to the part, one child after the other.
    intro h p hp
    induction hp with
    | self =>
      rw [check_eq, exceptThen_eq_ok_iff] at h
      exact h.1
    | child hc _ ih =>
      rw [check_eq, exceptThen_eq_ok_iff, checkAll_eq_ok_iff] at h
      exact ih (h.2 _ hc)
  · intro h
    induction e using inductionOnChildren with
    | step e ih =>
      rw [check_eq, exceptThen_eq_ok_iff, checkAll_eq_ok_iff]
      exact ⟨h e .self, fun c hc => ih c hc fun p hp => h p (.child hc hp)⟩

theorem checkPattern_eq_ok_iff {f : Function} {args : List Expr} :
    checkPattern f args = .ok () ↔ ∀ subject pattern rest,
      call f args = .call .matching (subject :: .literal (.text pattern) :: rest) →
        (Regex.parse? pattern).isSome := by
  fun_cases checkPattern f args with
  | case1 subject rest pattern hvalid => simp [hvalid]
  | case2 subject rest pattern hinvalid => simp [hinvalid]
  | case3 f args hother =>
    refine ⟨fun _ subject pattern rest h => ?_, fun _ => rfl⟩
    cases h
    exact (hother _ _ _ rfl rfl).elim

theorem checkNode_eq_ok_iff (p : Expr) : checkNode scope p = .ok () ↔
    (∀ root fields, p = .path root fields → root ∈ scope) ∧
      ∀ subject pattern rest, p = .call .matching (subject :: .literal (.text pattern) :: rest) →
        (Regex.parse? pattern).isSome := by
  cases p with
  | path root fields => simp [checkNode]
  | call f args =>
    rw [checkNode, checkPattern_eq_ok_iff]
    exact (and_iff_right nofun).symm
  | _ => simp [checkNode]

/-- **What checking accepts.** -/
theorem check_eq_ok_iff : check scope e = .ok () ↔ e.WellFormed scope := by
  simp only [check_eq_ok_iff_parts, checkNode_eq_ok_iff]
  constructor
  · intro h
    exact ⟨fun hp => (h _ hp).1 _ _ rfl, fun hp => (h _ hp).2 _ _ _ rfl⟩
  · intro h p hp
    constructor
    · rintro root fields rfl
      exact h.root hp
    · rintro subject pattern rest rfl
      exact h.pattern hp

end Expr

namespace Formula

variable {scope : List String} {source : String} {f : Formula}

/-- The text parses to a well-formed expression. -/
def WellFormed (scope : List String) (source : String) : Prop :=
  ∃ e, Expr.parse source = .ok e ∧ e.WellFormed scope

/-- The formula that a text spells. -/
structure Compiles (scope : List String) (source : String) (f : Formula) : Prop where
  source_eq : f.source = source
  parses : Expr.parse source = .ok f.expr
  wellFormed : f.expr.WellFormed scope

theorem exists_compiles_iff : (∃ f, Compiles scope source f) ↔ WellFormed scope source := by
  constructor
  · rintro ⟨f, h⟩
    exact ⟨f.expr, h.parses, h.wellFormed⟩
  · rintro ⟨e, hparses, hformed⟩
    exact ⟨⟨source, e⟩, rfl, hparses, hformed⟩

theorem ofSource_eq_ok_iff : ofSource scope source = .ok f ↔ Compiles scope source f := by
  constructor
  · intro h
    rw [ofSource] at h
    split at h
    · cases h
    · split at h
      · cases h
        exact ⟨rfl, ‹_›, Expr.check_eq_ok_iff.1 ‹_›⟩
      · cases h
      · cases h
  · rintro ⟨rfl, hparses, hformed⟩
    rw [ofSource, hparses]
    simp only [Expr.check_eq_ok_iff.2 hformed]

/-- **A text that spells no formula** is an error of the configuration. -/
theorem fatal_of_ofSource {e : Failure} (h : ofSource scope source = .error e) :
    e.fatal = true := by
  rw [ofSource] at h
  split at h
  · cases h
    rfl
  · split at h <;> cases h <;> rfl

end Formula

end Regrant
