import Regrant.Proofs.Expr.Checking
import Regrant.Proofs.Expr.Cursor
import Regrant.Proofs.Expr.Equality

/-!
# Calls with the right number of arguments

The grammar has calls of two forms, `f(x, y)` and `x.f(y)`, and asks of both that there are as many
arguments as the function takes.  So an expression that was read holds no other call at any depth
(`fullyApplied_of_parse`), and evaluating one never runs out of argument values: a call may take
them by position (`applyAt?_eq_apply`).
-/

namespace Regrant.Expr

open Grammar

/-! ### What is read -/

/-- A call has as many arguments as its function takes. -/
def Applied : Expr → Prop
  | .call f args => args.length = f.arity
  | _ => True

/-- Every call in the expression is so, at any depth. -/
def FullyApplied (e : Expr) : Prop := ∀ c, Part c e → Applied c

variable {e : Expr}

theorem FullyApplied.of_children (hself : Applied e) (h : ∀ c ∈ e.children, FullyApplied c) :
    FullyApplied e := by
  intro c hpart
  cases hpart with
  | self => exact hself
  | child hc hpart => exact h _ hc c hpart

theorem FullyApplied.child (h : FullyApplied e) {c : Expr} (hc : c ∈ e.children) :
    FullyApplied c :=
  fun d hpart => h d (.child hc hpart)

namespace Grammar

mutual

theorem Expression.fullyApplied {ts : List Token} {e : Expr} : Expression ts e → FullyApplied e
  | .plain h => h.fullyApplied
  | .conditional hc ha hb => .of_children trivial (by
      simp [children, hc.fullyApplied, ha.fullyApplied, hb.fullyApplied])

theorem Disjunction.fullyApplied {ts : List Token} {e : Expr} : Disjunction ts e → FullyApplied e
  | .plain h => h.fullyApplied
  | .or ha hb => .of_children trivial (by simp [children, ha.fullyApplied, hb.fullyApplied])

theorem Conjunction.fullyApplied {ts : List Token} {e : Expr} : Conjunction ts e → FullyApplied e
  | .plain h => h.fullyApplied
  | .and ha hb => .of_children trivial (by simp [children, ha.fullyApplied, hb.fullyApplied])

theorem Comparison.fullyApplied {ts : List Token} {e : Expr} : Comparison ts e → FullyApplied e
  | .plain h => h.fullyApplied
  | @Comparison.compare ts us a b t f ha ht hb => by
    have hsides := And.intro ha.fullyApplied hb.fullyApplied
    cases ht <;> exact .of_children trivial (by simpa [children] using hsides)

theorem Sum.fullyApplied {ts : List Token} {e : Expr} : Sum ts e → FullyApplied e
  | .plain h => h.fullyApplied
  | .add ha hb => .of_children trivial (by simp [children, ha.fullyApplied, hb.fullyApplied])

theorem Negation.fullyApplied {ts : List Token} {e : Expr} : Negation ts e → FullyApplied e
  | .plain h => h.fullyApplied
  | .not h => .of_children trivial (by simp [children, h.fullyApplied])

theorem Postfix.fullyApplied {ts : List Token} {e : Expr} : Postfix ts e → FullyApplied e
  | .plain h => h.fullyApplied
  | .field _ => .of_children trivial (List.forall_mem_nil _)
  | .method he hes hf => .of_children (mem_signatures_iff.1 hf).2
      (List.forall_mem_cons.2 ⟨he.fullyApplied, hes.fullyApplied⟩)

theorem Primary.fullyApplied {ts : List Token} {e : Expr} : Primary ts e → FullyApplied e
  | .group h => h.fullyApplied
  | .call hes hf => .of_children (mem_signatures_iff.1 hf).2 hes.fullyApplied
  | .list hes => .of_children trivial hes.fullyApplied
  | .int | .float | .text | .true | .false | .null | .path =>
    .of_children trivial (List.forall_mem_nil _)

theorem Arguments.fullyApplied {ts : List Token} {es : List Expr} :
    Arguments ts es → ∀ e ∈ es, FullyApplied e
  | .none => List.forall_mem_nil _
  | .some h => h.fullyApplied

theorem Items.fullyApplied {ts : List Token} {es : List Expr} :
    Items ts es → ∀ e ∈ es, FullyApplied e
  | .last h => List.forall_mem_singleton.2 h.fullyApplied
  | .cons h hs => List.forall_mem_cons.2 ⟨h.fullyApplied, hs.fullyApplied⟩

end

end Grammar

theorem fullyApplied_of_parse {source : String} (h : parse source = .ok e) : FullyApplied e := by
  rw [parse] at h
  split at h
  · cases h
  · exact ((ofTokens_eq_ok_iff _ _).1 h).fullyApplied

/-! ### What is evaluated -/

/-- The value of a call that takes its arguments by position, each where it needs it; `none` if
there is none at a position. -/
def applyAt? (f : Function) (values : List Json) : Option (Except EvalFault Json) := do
  let subject ← values[0]?
  match f with
  | .size => return size subject
  | .lower => return recase Unicode.lower subject
  | .upper => return recase Unicode.upper subject
  | .contains =>
    match subject with
    | .list items =>
      let x ← values[1]?
      return .ok (.bool (items.any (fun item => item.looselyEqual x)))
    | _ => return testTexts .contains subject (← values[1]?)
  | f => return testTexts f subject (← values[1]?)

theorem applyAt?_eq_apply {f : Function} {values : List Json} (h : values.length = f.arity) :
    applyAt? f values = some (apply f values) := by
  cases f with
  | size | lower | upper =>
    obtain ⟨x, rfl⟩ := List.length_eq_one_iff.1 h
    rfl
  | matching | startsWith | endsWith =>
    obtain ⟨x, y, rfl⟩ := List.length_eq_two.1 h
    rfl
  | contains =>
    obtain ⟨x, y, rfl⟩ := List.length_eq_two.1 h
    cases x <;> rfl

section

variable {facts : Json}

/-- It is no call with another number of arguments than its function takes that stands in the way
of a value. -/
def ArgumentsFit {α : Type} (x : Except EvalFault α) : Prop := ∀ g, x ≠ .error (.wrongArity g)

@[simp] theorem argumentsFit_ok {α : Type} (v : α) : ArgumentsFit (.ok v) := by
  simp [ArgumentsFit]

@[simp] theorem argumentsFit_error {α : Type} {fault : EvalFault} :
    ArgumentsFit (.error fault : Except EvalFault α) ↔ ∀ g, fault ≠ .wrongArity g := by
  simp [ArgumentsFit]

/-- A step that fails with what it is built on, and goes on with its value otherwise. -/
theorem ArgumentsFit.step {α β : Type} {x : Except EvalFault α} {y : Except EvalFault β}
    (h : ArgumentsFit x) (herror : ∀ fault, x = .error fault → y = .error fault)
    (hok : ∀ v, x = .ok v → ArgumentsFit y) : ArgumentsFit y := by
  cases x with
  | error fault =>
    rw [herror fault rfl, argumentsFit_error]
    exact argumentsFit_error.1 h
  | ok v => exact hok v rfl

theorem argumentsFit_recase (f : String → String) (x : Json) : ArgumentsFit (recase f x) := by
  fun_cases recase f x <;> simp

theorem argumentsFit_size (x : Json) : ArgumentsFit (size x) := by
  fun_cases size x <;> simp

theorem argumentsFit_testText (f : Function) (s t : String) : ArgumentsFit (testText f s t) := by
  fun_cases testText f s t <;> simp

theorem argumentsFit_testTexts (f : Function) (x y : Json) : ArgumentsFit (testTexts f x y) := by
  fun_cases testTexts f x y with
  | case1 s t => exact argumentsFit_testText f s t
  | _ => simp

theorem argumentsFit_memberOf (x c : Json) : ArgumentsFit (memberOf x c) := by
  fun_cases memberOf x c <;> simp

theorem argumentsFit_addNumbers (m n : Number) : ArgumentsFit (addNumbers m n) := by
  fun_cases addNumbers m n <;> simp

theorem argumentsFit_add (x y : Json) : ArgumentsFit (add x y) := by
  fun_cases add x y with
  | case1 m n => exact argumentsFit_addNumbers m n
  | _ => simp

theorem argumentsFit_applyOp (op : BinaryOp) (x y : Json) : ArgumentsFit (applyOp op x y) := by
  fun_cases applyOp op x y with
  | case3 => exact argumentsFit_add x y
  | _ => simp

theorem argumentsFit_apply {f : Function} {values : List Json} (h : values.length = f.arity) :
    ArgumentsFit (apply f values) := by
  cases f with
  | size =>
    obtain ⟨x, rfl⟩ := List.length_eq_one_iff.1 h
    exact argumentsFit_size x
  | lower | upper =>
    obtain ⟨x, rfl⟩ := List.length_eq_one_iff.1 h
    exact argumentsFit_recase _ x
  | matching | startsWith | endsWith =>
    obtain ⟨x, y, rfl⟩ := List.length_eq_two.1 h
    exact argumentsFit_testTexts _ x y
  | contains =>
    obtain ⟨x, y, rfl⟩ := List.length_eq_two.1 h
    by_cases hlist : ∃ items, x = .list items
    · obtain ⟨items, rfl⟩ := hlist
      exact argumentsFit_ok _
    · rw [apply]
      · exact argumentsFit_testTexts .contains x y
      · exact fun items hx => hlist ⟨items, hx⟩

theorem argumentsFit_evalAll {es : List Expr} (h : ∀ e ∈ es, ArgumentsFit (eval facts e)) :
    ArgumentsFit (evalAll facts es) := by
  induction es with
  | nil =>
    rw [evalAll]
    exact argumentsFit_ok _
  | cons e es ih =>
    obtain ⟨he, hes⟩ := List.forall_mem_cons.1 h
    rw [evalAll]
    refine he.step (fun fault hx => by simp only [hx]) fun v hv => ?_
    refine (ih hes).step (fun fault hx => by simp only [hv, hx]) fun vs hvs => ?_
    rw [hv, hvs]
    exact argumentsFit_ok _

theorem argumentsFit_binary {l r : Expr} (op : BinaryOp) (hl : ArgumentsFit (eval facts l))
    (hr : ArgumentsFit (eval facts r)) : ArgumentsFit (eval facts (.binary op l r)) := by
  refine hl.step (fun fault hx => by cases op <;> simp only [eval, hx]) fun v hv => ?_
  cases op with
  | and =>
    rw [eval, hv]
    -- The right side counts only where the left one does not decide.
    cases v with
    | bool b =>
      cases b with
      | true =>
        refine hr.step (fun fault hx => by simp only [hx]) fun w hw => ?_
        rw [hw]
        cases w <;> simp
      | false => simp
    | _ => simp
  | or =>
    rw [eval, hv]
    cases v with
    | bool b =>
      cases b with
      | true => simp
      | false =>
        refine hr.step (fun fault hx => by simp only [hx]) fun w hw => ?_
        rw [hw]
        cases w <;> simp
    | _ => simp
  | eq | ne | gt | lt | ge | le | add =>
    refine hr.step (fun fault hx => by simp only [eval, hv, hx]) fun w hw => ?_
    simp only [eval, hv, hw]
    exact argumentsFit_applyOp _ v w

/-- **Every call fits its function** when an expression is evaluated that holds no other call. -/
theorem argumentsFit_eval {e : Expr} (h : FullyApplied e) : ArgumentsFit (eval facts e) := by
  induction e using inductionOn with
  | literal | path =>
    rw [eval]
    exact argumentsFit_ok _
  | list items ih =>
    have hitems := argumentsFit_evalAll fun e he => ih e he (h.child he)
    rw [eval]
    refine hitems.step (fun fault hx => by simp only [hx]) fun vs hvs => ?_
    rw [hvs]
    exact argumentsFit_ok _
  | binary op l r ihl ihr =>
    exact argumentsFit_binary op (ihl (h.child (by simp [children])))
      (ihr (h.child (by simp [children])))
  | not e ih =>
    have he := ih (h.child List.mem_cons_self)
    rw [eval]
    refine he.step (fun fault hx => by simp only [hx]) fun v hv => ?_
    rw [hv]
    cases v <;> simp
  | member e c ihe ihc =>
    have he := ihe (h.child (by simp [children]))
    have hc := ihc (h.child (by simp [children]))
    rw [eval]
    refine he.step (fun fault hx => by simp only [hx]) fun x hx => ?_
    refine hc.step (fun fault hy => by simp only [hx, hy]) fun y hy => ?_
    rw [hx, hy]
    exact argumentsFit_memberOf x y
  | conditional c t f ihc iht ihf =>
    have hc := ihc (h.child (by simp [children]))
    have ht := iht (h.child (by simp [children]))
    have hf := ihf (h.child (by simp [children]))
    rw [eval]
    refine hc.step (fun fault hx => by simp only [hx]) fun v hv => ?_
    rw [hv]
    cases v with
    | bool b =>
      cases b with
      | true => exact ht
      | false => exact hf
    | _ => simp
  | call f args ih =>
    have hargs := argumentsFit_evalAll fun e he => ih e he (h.child he)
    rw [eval]
    refine hargs.step (fun fault hx => by simp only [hx]) fun values hvalues => ?_
    have hlen := (evalAll_eq_ok_iff.1 hvalues).length_eq
    rw [hvalues]
    exact argumentsFit_apply (hlen.symm.trans (h _ .self))

end

/-- **No expression makes reading or evaluating look where there is nothing.**  Reading a text ends,
with a position among the tokens where the token there is looked at.  And whatever call stands in a
formula, whether evaluation comes to it or not: if its arguments have values, then they are as many
as its function takes, so that it finds those it needs by position. -/
theorem positions_in_range (scope : List String) (source : String) :
    Cursor.Ending source (parse source) ∧
    ∀ f, Formula.ofSource scope source = .ok f → ∀ facts,
      (∀ g args values, Part (.call g args) f.expr → evalAll facts args = .ok values →
        values.length = g.arity ∧ applyAt? g values = some (apply g values)) ∧
      ∀ g, eval facts f.expr ≠ .error (.wrongArity g) := by
  refine ⟨Cursor.ending_parse source, fun f hf facts => ?_⟩
  have hfull := fullyApplied_of_parse (Formula.ofSource_eq_ok_iff.1 hf).parses
  refine ⟨fun g args values hpart hvalues => ?_, argumentsFit_eval hfull⟩
  have hlen : values.length = g.arity :=
    (evalAll_eq_ok_iff.1 hvalues).length_eq.symm.trans (hfull _ hpart)
  exact ⟨hlen, applyAt?_eq_apply hlen⟩

theorem positions_in_range_both_forms :
    let source := "name.size() > 0 && matches(name, 'a+')"
    let name := path "name" []
    let pattern := literal (.text "a+")
    let f : Formula := ⟨source, .binary .and
      (.binary .gt (.call .size [name]) (.literal (.int 0))) (.call .matching [name, pattern])⟩
    let facts := Json.object [("name", .text "aa")]
    Formula.ofSource ["name"] source = .ok f ∧
      evalAll facts [name] = .ok [.text "aa"] ∧
      applyAt? .size [.text "aa"] = some (apply .size [.text "aa"]) ∧
      evalAll facts [name, pattern] = .ok [.text "aa", .text "a+"] ∧
      applyAt? .matching [.text "aa", .text "a+"] =
        some (apply .matching [.text "aa", .text "a+"]) := by
  intro source name pattern f facts
  have htokens : Token.tokenize source.toList = .ok [.ident "name", .dot, .ident "size", .openParen,
      .closeParen, .gt, .int 0, .and, .ident "matches", .openParen, .ident "name", .comma,
      .text "a+", .closeParen] := by
    decide +kernel
  have hparses : parse source = .ok f.expr := by
    rw [parse, htokens]
    rfl
  have hpattern : checkPattern .matching [name, pattern] = .ok () := if_pos (by decide +kernel)
  have hcheck : check ["name"] f.expr = .ok () := by
    simp only [f, check, hpattern]
    rfl
  have hcompiles : Formula.ofSource ["name"] source = .ok f :=
    Formula.ofSource_eq_ok_iff.2 ⟨rfl, hparses, check_eq_ok_iff.1 hcheck⟩
  have hsize : Part (.call .size [name]) f.expr :=
    .child List.mem_cons_self (.child List.mem_cons_self .self)
  have hmatch : Part (.call .matching [name, pattern]) f.expr :=
    .child (List.mem_cons_of_mem _ List.mem_cons_self) .self
  have hfit := ((positions_in_range ["name"] source).2 f hcompiles facts).1
  exact ⟨hcompiles, rfl, (hfit _ _ _ hsize rfl).2, rfl, (hfit _ _ _ hmatch rfl).2⟩

end Regrant.Expr
