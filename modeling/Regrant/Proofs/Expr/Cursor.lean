import Regrant.Proofs.Expr.Complete

/-!
# Reading with a cursor

An expression can also be read with a cursor over its tokens.  It looks at the token at its
position, if there is one, and moves on by one, also where there is none.  Nothing in the tokens
bounds how often the rules come back to themselves.  So each takes a number that bounds how deep
they go and has no answer where that number is too small, and it has to be shown that there is one
that is not: that reading ends.

It does, and as the parser of lists does (`expression_agrees`): what is left of the list is what
stands from the position on.  An expression ends within the tokens, and only an error leaves the
cursor past the end, by one.  So the token that is found to follow an expression is there
(`ending_parse`).
-/

namespace Regrant.Expr.Cursor

/-- Reads at a position, from where it moves on.  It may fail, or have no answer at all. -/
abbrev Reader := ExceptT SyntaxFault (StateT Nat Option)

/-- What reading from a position on ends with, and where. -/
def Reader.read {α : Type} (r : Reader α) (p : Nat) : Option (Except SyntaxFault α × Nat) :=
  r.run.run p

/-- No answer. -/
def unfinished {α : Type} : Reader α := ExceptT.mk fun _ => none

/-- The operators that join any number of operands. -/
inductive Joint where
  | or | and | plus

namespace Joint

def token : Joint → Token
  | or => .or
  | and => .and
  | plus => .plus

def op : Joint → BinaryOp
  | or => .or
  | and => .and
  | plus => .add

end Joint

section

variable (ts : List Token)

/-! ### The cursor -/

def peek : Reader (Option Token) := do return ts[← get]?

def advance : Reader (Option Token) := do
  let t ← peek ts
  modify (· + 1)
  return t

def expect (t : Token) (fault : SyntaxFault) : Reader Unit := do
  if (← advance ts) = some t then return () else throw fault

/-! ### The rules -/

mutual

def expression : Nat → Reader Expr
  | 0 => unfinished
  | n + 1 => do
    let c ← chain .or n
    if (← peek ts) = some .question then
      let _ ← advance ts
      let a ← expression n
      expect ts .colon .missingColon
      let b ← expression n
      return .conditional c a b
    else return c

/-- Operands with the token of `j` between them. -/
def chain (j : Joint) : Nat → Reader Expr
  | 0 => unfinished
  | n + 1 => do
    let left ← operand j n
    joined j left n

def joined (j : Joint) (left : Expr) : Nat → Reader Expr
  | 0 => unfinished
  | n + 1 => do
    if (← peek ts) = some j.token then
      let _ ← advance ts
      let right ← operand j n
      joined j (.binary j.op left right) n
    else return left

def operand (j : Joint) : Nat → Reader Expr
  | 0 => unfinished
  | n + 1 =>
    match j with
    | .or => chain .and n
    | .and => comparison n
    | .plus => negation n

def comparison : Nat → Reader Expr
  | 0 => unfinished
  | n + 1 => do
    let left ← chain .plus n
    match (← peek ts).bind comparator? with
    | none => return left
    | some compare =>
      let _ ← advance ts
      let right ← chain .plus n
      return compare left right

def negation : Nat → Reader Expr
  | 0 => unfinished
  | n + 1 => do
    if (← peek ts) = some .not then
      let _ ← advance ts
      let e ← negation n
      return .not e
    else postfixed n

def postfixed : Nat → Reader Expr
  | 0 => unfinished
  | n + 1 => do
    let e ← primary n
    suffixes e n

def suffixes (e : Expr) : Nat → Reader Expr
  | 0 => unfinished
  | n + 1 => do
    if (← peek ts) = some .dot then
      let _ ← advance ts
      match ← advance ts with
      | some (.ident name) =>
        if (← peek ts) = some .openParen then
          let _ ← advance ts
          let args ← arguments .closeParen n
          let called ← liftExcept (ofCall name (e :: args))
          suffixes called n
        else
          let field ← liftExcept (ofField name e)
          suffixes field n
      | _ => throw .missingFieldName
    else return e

def arguments (close : Token) : Nat → Reader (List Expr)
  | 0 => unfinished
  | n + 1 => do
    if (← peek ts) = some close then
      let _ ← advance ts
      return []
    else items close n

def items (close : Token) : Nat → Reader (List Expr)
  | 0 => unfinished
  | n + 1 => do
    let e ← expression n
    let t ← advance ts
    if t = some .comma then
      let es ← items close n
      return e :: es
    else if t = some close then return [e]
    else throw (.unclosedArguments close)

def primary : Nat → Reader Expr
  | 0 => unfinished
  | n + 1 => do
    match ← advance ts with
    | some (.int i) => return .literal (.int i)
    | some (.float x) => return .literal (.float x)
    | some (.text s) => return .literal (.text s)
    | some .true => return .literal (.bool true)
    | some .false => return .literal (.bool false)
    | some .null => return .literal .null
    | some (.ident name) =>
      if (← peek ts) = some .openParen then
        let _ ← advance ts
        let args ← arguments .closeParen n
        liftExcept (ofCall name args)
      else return .path name []
    | some .openBracket =>
      let es ← arguments .closeBracket n
      return .list es
    | some .openParen =>
      let e ← expression n
      expect ts .closeParen .missingCloseParen
      return e
    | t => throw (.unexpectedToken t)

end

end

/-! ### Steps of a run -/

variable {α β : Type} {ts : List Token} {p q low : Nat}

section

variable {r : Reader α} {k : α → Reader β}

theorem read_bind :
    (r >>= k).read p = (r.read p).bind fun x => (ExceptT.bindCont k x.1).run x.2 := rfl

theorem read_bind_of_ok {a : α} (h : r.read p = some (.ok a, q)) :
    (r >>= k).read p = (k a).read q := by
  rw [read_bind, h]
  rfl

theorem read_bind_of_error {fault : SyntaxFault} (h : r.read p = some (.error fault, q)) :
    (r >>= k).read p = some (.error fault, q) := by
  rw [read_bind, h]
  rfl

theorem read_peek {k : Option Token → Reader β} :
    (peek ts >>= k).read p = (k ts[p]?).read p := read_bind_of_ok rfl

theorem read_advance {k : Option Token → Reader β} :
    (advance ts >>= k).read p = (k ts[p]?).read (p + 1) := read_bind_of_ok rfl

theorem read_expect {t : Token} {fault : SyntaxFault} : (expect ts t fault).read p =
    some (if ts[p]? = some t then .ok () else .error fault, p + 1) := by
  rw [expect, read_advance]
  split <;> rfl

theorem read_liftExcept (z : Except SyntaxFault α) :
    (liftExcept z : Reader α).read p = some (z, p) := by
  cases z <;> rfl

end

/-- The token at the position, if there is one, is the first of those from there on. -/
theorem ahead (ts : List Token) (p : Nat) : (ts.drop p = [] ∧ ts[p]? = none) ∨
    ∃ t, ts.drop p = t :: ts.drop (p + 1) ∧ ts[p]? = some t ∧ p < ts.length := by
  rcases Nat.lt_or_ge p ts.length with hlt | hge
  · exact .inr ⟨ts[p], List.drop_eq_getElem_cons hlt, List.getElem?_eq_getElem hlt, hlt⟩
  · exact .inl ⟨List.drop_eq_nil_of_le hge, List.getElem?_eq_none hge⟩

theorem ahead_or_not (ts : List Token) (p : Nat) (t : Token) :
    (ts.drop p = t :: ts.drop (p + 1) ∧ ts[p]? = some t ∧ p < ts.length) ∨
      (∀ us, ts.drop p ≠ t :: us) ∧ ts[p]? ≠ some t := by
  rcases ahead ts p with ⟨hdrop, hget⟩ | ⟨u, hdrop, hget, hlt⟩
  · rw [hdrop, hget]
    exact .inr ⟨fun us h => List.cons_ne_nil _ _ h.symm, (Option.some_ne_none t).symm⟩
  · by_cases hu : u = t
    · subst hu
      exact .inl ⟨hdrop, hget, hlt⟩
    · rw [hdrop, hget]
      exact .inr ⟨fun us h => hu (List.cons.inj h).1, fun h => hu (Option.some.inj h)⟩

/-! ### Endings -/

/-- From some bound on, and whatever larger one is taken, reading at `p` ends so. -/
def Ends (r : Nat → Reader α) (p : Nat) (out : Except SyntaxFault α × Nat) : Prop :=
  ∃ n, ∀ m, n ≤ m → (r m).read p = some out

namespace Ends

variable {r : Nat → Reader α} {k : Nat → α → Reader β} {out : Except SyntaxFault α × Nat}

theorem of_forall (h : ∀ n, (r n).read p = some out) : Ends r p out := ⟨0, fun m _ => h m⟩

theorem of_succ (h : Ends (fun n => r (n + 1)) p out) : Ends r p out := by
  obtain ⟨n, hn⟩ := h
  refine ⟨n + 1, fun m hm => ?_⟩
  cases m with
  | zero => omega
  | succ m => exact hn m (by omega)

theorem congr {r' : Nat → Reader α} (h : Ends r' q out)
    (heq : ∀ n, (r n).read p = (r' n).read q) : Ends r p out := by
  obtain ⟨n, hn⟩ := h
  exact ⟨n, fun m hm => (heq m).trans (hn m hm)⟩

theorem bind {a : α} {out : Except SyntaxFault β × Nat} (h : Ends r p (.ok a, q))
    (hk : Ends (fun n => k n a) q out) : Ends (fun n => r n >>= k n) p out := by
  obtain ⟨n, hn⟩ := h
  obtain ⟨n', hn'⟩ := hk
  refine ⟨max n n', fun m hm => ?_⟩
  rw [read_bind_of_ok (hn m (by omega))]
  exact hn' m (by omega)

theorem bind_error {fault : SyntaxFault} (h : Ends r p (.error fault, q)) :
    Ends (fun n => r n >>= k n) p (.error fault, q) := by
  obtain ⟨n, hn⟩ := h
  exact ⟨n, fun m hm => read_bind_of_error (hn m hm)⟩

end Ends

/-! ### Agreement with the parser of lists -/

/-- Reading at `p` ends, and as reading a list does.  If it succeeds, then within the tokens and no
earlier than at `low`, and what is left of the list is what stands from there on.  If it fails, then
at most one position past the end. -/
inductive Agrees (ts : List Token) (low : Nat) (r : Nat → Reader α) (p : Nat) :
    Except SyntaxFault (α × List Token) → Prop
  | ok {a : α} {q : Nat} (h : Ends r p (.ok a, q)) (hlow : low ≤ q) (hend : q ≤ ts.length) :
      Agrees ts low r p (.ok (a, ts.drop q))
  | error {fault : SyntaxFault} {q : Nat} (h : Ends r p (.error fault, q))
      (hend : q ≤ ts.length + 1) : Agrees ts low r p (.error fault)

namespace Agrees

variable {r r' : Nat → Reader α} {k : Nat → α → Reader β} {x : Except SyntaxFault (α × List Token)}
  {y : Except SyntaxFault (β × List Token)}

theorem mono {low' : Nat} (h : Agrees ts low r p x) (hlow : low' ≤ low) :
    Agrees ts low' r p x := by
  cases h with
  | ok h hle hend => exact .ok h (Nat.le_trans hlow hle) hend
  | error h hend => exact .error h hend

theorem of_succ (h : Agrees ts low (fun n => r (n + 1)) p x) : Agrees ts low r p x := by
  cases h with
  | ok h hle hend => exact .ok h.of_succ hle hend
  | error h hend => exact .error h.of_succ hend

theorem congr (h : Agrees ts low r' q x) (heq : ∀ n, (r n).read p = (r' n).read q) :
    Agrees ts low r p x := by
  cases h with
  | ok h hle hend => exact .ok (h.congr heq) hle hend
  | error h hend => exact .error (h.congr heq) hend

/-- Two readers, one after the other. -/
theorem bind {low' : Nat} (h : Agrees ts low r p x)
    (herror : ∀ fault, x = .error fault → y = .error fault)
    (hok : ∀ a q, low ≤ q → q ≤ ts.length → x = .ok (a, ts.drop q) →
      Agrees ts low' (fun n => k n a) q y) : Agrees ts low' (fun n => r n >>= k n) p y := by
  cases h with
  | @ok a q h hlow hend =>
    cases hok a q hlow hend rfl with
    | ok hk hle hend => exact .ok (h.bind hk) hle hend
    | error hk hend => exact .error (h.bind hk) hend
  | @error fault q h hend =>
    rw [herror fault rfl]
    exact .error h.bind_error hend

theorem pure {a : α} (hlow : low ≤ q) (hq : q ≤ ts.length) :
    Agrees ts low (fun _ => Pure.pure a) q (.ok (a, ts.drop q)) :=
  .ok (.of_forall fun _ => rfl) hlow hq

theorem throw {fault : SyntaxFault} (hq : q ≤ ts.length + 1) :
    Agrees ts low (fun _ => MonadExcept.throw fault) q (.error fault : Except _ (α × List Token)) :=
  .error (.of_forall fun _ => rfl) hq

theorem peek_bind {k : Nat → Option Token → Reader β}
    (h : Agrees ts low (fun n => k n ts[q]?) q y) :
    Agrees ts low (fun n => peek ts >>= k n) q y :=
  h.congr fun _ => read_peek

theorem advance_bind {k : Nat → Option Token → Reader β}
    (h : Agrees ts low (fun n => k n ts[q]?) (q + 1) y) :
    Agrees ts low (fun n => advance ts >>= k n) q y :=
  h.congr fun _ => read_advance

/-- A token that may come next, and is consumed if it does. -/
theorem next_or {t : Token} {a b : Nat → Reader β}
    (hnext : ts.drop q = t :: ts.drop (q + 1) → q < ts.length → Agrees ts low a (q + 1) y)
    (hother : (∀ us, ts.drop q ≠ t :: us) → Agrees ts low b q y) :
    Agrees ts low (fun n => do
      if (← peek ts) = some t then
        let _ ← advance ts
        a n
      else b n) q y := by
  rcases ahead_or_not ts q t with ⟨hdrop, hget, hlt⟩ | ⟨hdrop, hget⟩
  · refine (hnext hdrop hlt).congr fun n => ?_
    rw [read_peek, if_pos hget, read_advance]
  · refine (hother hdrop).congr fun n => ?_
    rw [read_peek, if_neg hget]

/-- A token that has to come next. -/
theorem expect_bind {t : Token} {fault : SyntaxFault} {k : Nat → Unit → Reader β}
    (hq : q ≤ ts.length) (herror : (∀ us, ts.drop q ≠ t :: us) → y = .error fault)
    (hok : ts.drop q = t :: ts.drop (q + 1) → q < ts.length →
      Agrees ts low (fun n => k n ()) (q + 1) y) :
    Agrees ts low (fun n => expect ts t fault >>= k n) q y := by
  have hexpect : (expect ts t fault).read q =
      some (if ts[q]? = some t then .ok () else .error fault, q + 1) := read_expect
  rcases ahead_or_not ts q t with ⟨hdrop, hget, hlt⟩ | ⟨hdrop, hget⟩
  · rw [if_pos hget] at hexpect
    exact (hok hdrop hlt).congr fun _ => read_bind_of_ok hexpect
  · rw [if_neg hget] at hexpect
    rw [herror hdrop]
    exact .error (.of_forall fun _ => read_bind_of_error hexpect) (by omega)

/-- A check that reads no token. -/
theorem lift_bind {z : Except SyntaxFault α} (hq : q ≤ ts.length)
    (herror : ∀ fault, z = .error fault → y = .error fault)
    (hok : ∀ a, z = .ok a → Agrees ts low (fun n => k n a) q y) :
    Agrees ts low (fun n => liftExcept z >>= k n) q y := by
  cases z with
  | error fault =>
    rw [herror fault rfl]
    exact .error (.of_forall fun _ => read_bind_of_error (read_liftExcept _)) (by omega)
  | ok a => exact (hok a rfl).congr fun _ => read_bind_of_ok (read_liftExcept _)

end Agrees

/-- The rule reads at `p` and after as the parser of lists does, and moves on. -/
def Follows (ts : List Token) (p : Nat) (r : Nat → Reader α)
    (parser : List Token → Except SyntaxFault (α × List Token)) : Prop :=
  ∀ q, p ≤ q → q ≤ ts.length → Agrees ts (q + 1) r q (parser (ts.drop q))

theorem Follows.mono {r : Nat → Reader α}
    {parser : List Token → Except SyntaxFault (α × List Token)} (h : Follows ts p r parser)
    (hq : p ≤ q) : Follows ts q r parser :=
  fun q' hle => h q' (Nat.le_trans hq hle)

variable {parser whole : Parser} {j : Joint}

/-! ### Operators -/

theorem joined_of_ne {joint : Token} {op : BinaryOp} {us : List Token}
    (h : ∀ vs, us ≠ joint :: vs) (n : Nat) (e : Expr) :
    Expr.joined joint op parser n e us = .ok (e, us) := by
  fun_cases Expr.joined joint op parser n e us with
  | case1 | case2 => exact absurd rfl (h _)
  | case3 | case4 => rfl

theorem joined_agrees (h : Follows ts p (operand ts j) parser) {n : Nat} {left : Expr}
    (hn : ts.length - q ≤ n) (hp : p ≤ q) (hq : q ≤ ts.length) :
    Agrees ts q (joined ts j left) q (Expr.joined j.token j.op parser n left (ts.drop q)) := by
  induction n generalizing q left with
  | zero =>
    refine .of_succ (.next_or (fun _ hlt => by omega) fun hdrop => ?_)
    rw [joined_of_ne hdrop]
    exact .pure (Nat.le_refl q) hq
  | succ n ih =>
    refine .of_succ (.next_or (fun hdrop hlt => ?_) fun hdrop => ?_)
    · rw [hdrop, Expr.joined, if_pos rfl]
      refine (h _ (by omega) hlt).bind (fun fault hx => by simp only [hx])
        fun right q' hlow hend hx => ?_
      simp only [hx]
      exact (ih (by omega) (by omega) hend).mono (by omega)
    · rw [joined_of_ne hdrop]
      exact .pure (Nat.le_refl q) hq

theorem chain_follows (h : Follows ts p (operand ts j) parser) :
    Follows ts p (chain ts j) (Expr.chain j.token j.op parser) := by
  intro q hp hq
  rw [Expr.chain]
  refine .of_succ ((h _ hp hq).bind (fun fault hx => by simp only [hx])
    fun left q' hlow hend hx => ?_)
  simp only [hx]
  exact (joined_agrees h (by simp) (by omega) hend).mono hlow

theorem comparison_follows (h : Follows ts p (chain ts .plus) parser) :
    Follows ts p (comparison ts) (Expr.comparison parser) := by
  intro q hp hq
  rw [Expr.comparison]
  refine .of_succ ((h _ hp hq).bind (fun fault hx => by simp only [hx])
    fun left q' hlow hend hx => ?_)
  rw [hx]
  refine .peek_bind ?_
  rcases ahead ts q' with ⟨hdrop, hget⟩ | ⟨t, hdrop, hget, hlt⟩
  · have hstop := Agrees.pure (a := left) hlow hend
    rw [hdrop] at hstop
    simp only [hget, hdrop]
    exact hstop
  · simp only [hget, hdrop, Option.bind_some]
    cases hcompare : comparator? t with
    | none =>
      rw [← hdrop]
      exact .pure hlow hend
    | some compare =>
      refine .advance_bind ((h _ (by omega) hlt).bind (fun fault hx => by simp only [hx])
        fun right q₂ hlow₂ hend₂ hx => ?_)
      simp only [hx]
      exact .pure (by omega) hend₂

theorem negation_of_ne {us : List Token} (h : ∀ vs, us ≠ .not :: vs) :
    Expr.negation parser us = parser us := by
  fun_cases Expr.negation parser us with
  | case1 | case2 => exact absurd rfl (h _)
  | case3 => rfl

theorem negation_follows (h : Follows ts p (postfixed ts) parser) :
    Follows ts p (negation ts) (Expr.negation parser) := by
  intro q hp hq
  induction hn : ts.length - q using Nat.strongRecOn generalizing q with
  | ind n ih =>
    refine .of_succ (.next_or (fun hdrop hlt => ?_) fun hdrop => ?_)
    · rw [hdrop, Expr.negation]
      refine (ih (ts.length - (q + 1)) (by omega) _ (by omega) hlt rfl).bind
        (fun fault hx => by simp only [hx]) fun e q' hlow hend hx => ?_
      simp only [hx]
      exact .pure (by omega) hend
    · rw [negation_of_ne hdrop]
      exact h _ hp hq

theorem conditionalOr_of_ne {condition : Parser} {us vs : List Token} {c : Expr}
    (h : condition us = .ok (c, vs)) (hne : ∀ ws, vs ≠ .question :: ws) :
    conditionalOr whole condition us = .ok (c, vs) := by
  rw [conditionalOr, h]
  grind

theorem expression_agrees_conditionalOr {condition : Parser}
    (hc : Follows ts p (chain ts .or) condition) (hw : Follows ts (p + 1) (expression ts) whole)
    (hp : p ≤ ts.length) :
    Agrees ts (p + 1) (expression ts) p (conditionalOr whole condition (ts.drop p)) := by
  refine .of_succ ((hc _ (Nat.le_refl p) hp).bind (fun fault hx => by rw [conditionalOr, hx])
    fun c q hlow hend hx => .next_or (fun hdrop hlt => ?_) fun hdrop => ?_)
  · rw [conditionalOr, hx, hdrop]
    refine (hw _ (by omega) hlt).bind (fun fault hx => by simp only [hx])
      fun a q₂ hlow₂ hend₂ hx => ?_
    simp only [hx]
    refine .expect_bind hend₂ (fun hdrop => by grind) fun hdrop hlt => ?_
    rw [hdrop]
    refine (hw _ (by omega) hlt).bind (fun fault hx => by simp only [hx])
      fun b q₃ hlow₃ hend₃ hx => ?_
    simp only [hx]
    exact .pure (by omega) hend₃
  · rw [conditionalOr_of_ne hx hdrop]
    exact .pure hlow hend

/-! ### Calls and fields -/

/-- What a parser of whole expressions has to do for those that stand between brackets: read as the
cursor does, and refuse a list that is empty. -/
structure Inner (ts : List Token) (p : Nat) (whole : Parser) : Prop where
  follows : Follows ts p (expression ts) whole
  nil : whole [] = .error (.unexpectedToken none)

theorem items_of_ne_comma {us rest : List Token} {e : Expr} {t close : Token}
    (h : whole us = .ok (e, t :: rest)) (ht : t ≠ .comma) (n : Nat) :
    Expr.items whole close (n + 1) us =
      if t = close then .ok ([e], rest) else .error (.unclosedArguments close) := by
  rw [Expr.items, h]
  cases t with
  | comma => exact absurd rfl ht
  | _ => rfl

theorem items_agrees (hw : Inner ts p whole) (close : Token) {n : Nat}
    (hn : ts.length - q ≤ n) (hp : p ≤ q) (hq : q ≤ ts.length) :
    Agrees ts (q + 1) (items ts close) q (Expr.items whole close n (ts.drop q)) := by
  have hread := hw.follows _ hp hq
  refine .of_succ ?_
  induction n generalizing q with
  | zero =>
    -- Nothing is left, so that nothing can be read.
    rw [List.drop_eq_nil_of_le (by omega), hw.nil] at hread
    rw [List.drop_eq_nil_of_le (by omega), Expr.items]
    exact hread.bind (fun fault hx => congrArg Except.error (Except.error.inj hx))
      fun _ _ _ _ hx => by cases hx
  | succ n ih =>
    refine hread.bind (fun fault hx => by rw [Expr.items, hx]) fun e q' hlow hend hx => ?_
    refine .advance_bind ?_
    rcases ahead ts q' with ⟨hdrop, hget⟩ | ⟨t, hdrop, hget, hlt⟩
    · rw [hget, Expr.items, hx, hdrop]
      exact .throw (by omega)
    · rw [hget]
      rw [hdrop] at hx
      by_cases hcomma : t = .comma
      · subst hcomma
        rw [Expr.items, hx]
        refine (Agrees.of_succ (ih (by omega) (by omega) hlt (hw.follows _ (by omega) hlt))).bind
          (fun fault hx => by simp only [hx]) fun es q₂ hlow₂ hend₂ hx => ?_
        simp only [hx]
        exact .pure (by omega) hend₂
      · simp only [if_neg (mt Option.some.inj hcomma)]
        rw [items_of_ne_comma hx hcomma]
        by_cases hclose : t = close
        · simp only [if_pos hclose, if_pos (congrArg some hclose)]
          exact .pure (by omega) hlt
        · simp only [if_neg hclose, if_neg (mt Option.some.inj hclose)]
          exact .throw (by omega)

theorem arguments_of_ne {close : Token} {us : List Token} (h : ∀ vs, us ≠ close :: vs) :
    Expr.arguments whole close us = Expr.items whole close us.length us := by
  cases us with
  | nil => rfl
  | cons u us => exact if_neg fun hu => h us (by rw [hu])

theorem arguments_follows (hw : Inner ts p whole) (close : Token) :
    Follows ts p (arguments ts close) (Expr.arguments whole close) := by
  intro q hp hq
  refine .of_succ (.next_or (fun hdrop hlt => ?_) fun hdrop => ?_)
  · rw [hdrop, Expr.arguments, if_pos rfl]
    exact .pure (Nat.le_refl _) hlt
  · rw [arguments_of_ne hdrop]
    exact items_agrees hw close (by simp) hp hq

theorem suffixes_of_ne {us : List Token} (h : ∀ vs, us ≠ .dot :: vs) (n : Nat) (e : Expr) :
    Expr.suffixes whole n e us = .ok (e, us) := by
  fun_cases Expr.suffixes whole n e us
  case case7 => rfl
  all_goals exact absurd rfl (h _)

theorem suffixes_agrees (hw : Inner ts p whole) {n : Nat} {e : Expr} (hn : ts.length - q ≤ n)
    (hp : p ≤ q) (hq : q ≤ ts.length) :
    Agrees ts q (suffixes ts e) q (Expr.suffixes whole n e (ts.drop q)) := by
  induction n generalizing q e with
  | zero =>
    refine .of_succ (.next_or (fun _ hlt => by omega) fun hdrop => ?_)
    rw [suffixes_of_ne hdrop]
    exact .pure (Nat.le_refl q) hq
  | succ n ih =>
    refine .of_succ (.next_or (fun hdot hlt => .advance_bind ?_) fun hdrop => ?_)
    · rw [hdot]
      rcases ahead ts (q + 1) with ⟨hname, hget⟩ | ⟨t, hname, hget, hlt⟩
      · rw [hget, hname]
        exact .throw (by omega)
      · rw [hget, hname]
        cases t with
        | ident name =>
          refine .next_or (fun hdrop hlt => ?_) fun hdrop => ?_
          · rw [hdrop, Expr.suffixes]
            refine (arguments_follows hw .closeParen _ (by omega) hlt).bind
              (fun fault hx => by simp only [hx]) fun args q' hlow hend hx => ?_
            simp only [hx]
            refine .lift_bind hend (fun fault hx => by simp only [hx]) fun called hx => ?_
            simp only [hx]
            exact (ih (by omega) (by omega) hend).mono (by omega)
          · rw [Expr.suffixes]
            · refine .lift_bind hlt (fun fault hx => by simp only [hx]) fun field hx => ?_
              simp only [hx]
              exact (ih (by omega) (by omega) hlt).mono (by omega)
            · exact hdrop
        | _ => exact .throw (by omega)
    · rw [suffixes_of_ne hdrop]
      exact .pure (Nat.le_refl q) hq

theorem primary_agrees (hw : Inner ts (p + 1) whole) (hp : p ≤ ts.length) :
    Agrees ts (p + 1) (primary ts) p (Expr.primary whole (ts.drop p)) := by
  refine .of_succ (.advance_bind ?_)
  rcases ahead ts p with ⟨hdrop, hget⟩ | ⟨t, hdrop, hget, hlt⟩
  · rw [hget, hdrop]
    exact .throw (by omega)
  · rw [hget, hdrop]
    cases t with
    | int | float | text | true | false | null => exact .pure (Nat.le_refl _) hlt
    | ident name =>
      refine .next_or (fun hdrop hlt => ?_) fun hdrop => ?_
      · rw [hdrop, Expr.primary]
        refine (arguments_follows hw .closeParen _ (by omega) hlt).bind
          (fun fault hx => by simp only [hx]) fun args q hlow hend hx => ?_
        simp only [hx]
        cases ofCall name args with
        | error fault => exact .throw (by omega)
        | ok called => exact .pure (by omega) hend
      · rw [Expr.primary]
        · exact .pure (Nat.le_refl _) hlt
        · exact hdrop
    | openBracket =>
      rw [Expr.primary]
      refine (arguments_follows hw .closeBracket _ (Nat.le_refl _) hlt).bind
        (fun fault hx => by simp only [hx]) fun es q hlow hend hx => ?_
      simp only [hx]
      exact .pure (by omega) hend
    | openParen =>
      rw [Expr.primary]
      refine (hw.follows _ (Nat.le_refl _) hlt).bind
        (fun fault hx => by simp only [hx]) fun e q hlow hend hx => ?_
      rw [hx]
      refine .expect_bind hend (fun hclose => by grind) fun hdrop hlt => ?_
      rw [hdrop]
      exact .pure (by omega) hlt
    | _ => exact .throw (by omega)

theorem postfixed_follows (hw : Inner ts (p + 1) whole) :
    Follows ts p (postfixed ts) (Expr.postfixed whole) := by
  intro q hp hq
  have hinner : Inner ts (q + 1) whole := ⟨hw.follows.mono (by omega), hw.nil⟩
  rw [Expr.postfixed]
  refine .of_succ ((primary_agrees hinner hq).bind (fun fault hx => by simp only [hx])
    fun e q' hlow hend hx => ?_)
  simp only [hx]
  exact (suffixes_agrees hinner (by simp) hlow hend).mono hlow

/-! ### Expressions -/

theorem operand_follows {r : Nat → Reader Expr} (h : Follows ts p r parser)
    (heq : ∀ n, operand ts j (n + 1) = r n) : Follows ts p (operand ts j) parser := by
  intro q hp hq
  exact .of_succ ((h q hp hq).congr fun n => by rw [heq])

theorem disjunction_follows (hw : Inner ts (p + 1) whole) :
    Follows ts p (chain ts .or) (Expr.disjunction whole) := by
  have hplus : Follows ts p (operand ts .plus) (Expr.negation (Expr.postfixed whole)) :=
    operand_follows (negation_follows (postfixed_follows hw)) fun _ => rfl
  have hand : Follows ts p (operand ts .and) (Expr.comparison (Expr.sum whole)) :=
    operand_follows (comparison_follows (chain_follows hplus)) fun _ => rfl
  have hor : Follows ts p (operand ts .or) (Expr.conjunction whole) :=
    operand_follows (chain_follows hand) fun _ => rfl
  exact chain_follows hor

theorem expression_nil (n : Nat) : Expr.expression n [] = .error (.unexpectedToken none) := by
  cases n <;> rfl

/-- **Reading with a cursor ends**, and as reading a list of at most `n` tokens does. -/
theorem expression_agrees (n : Nat) (hp : p ≤ ts.length) (hn : ts.length - p ≤ n) :
    Agrees ts (p + 1) (expression ts) p (Expr.expression n (ts.drop p)) := by
  induction n generalizing p with
  | zero =>
    have hw : Inner ts (p + 1) (Expr.expression 0) :=
      ⟨fun _ hle hend => absurd hle (by omega), expression_nil 0⟩
    have h := expression_agrees_conditionalOr (disjunction_follows hw) hw.follows hp
    rw [List.drop_eq_nil_of_le (by omega)] at h ⊢
    exact h
  | succ n ih =>
    have hw : Inner ts (p + 1) (Expr.expression n) :=
      ⟨fun _ hle hend => ih hend (by omega), expression_nil n⟩
    exact expression_agrees_conditionalOr (disjunction_follows hw) hw.follows hp

/-! ### Whole texts -/

/-- How reading a text with a cursor ends.  The token that is found to follow an expression is the
one at the position of the cursor, which is one of the positions of the tokens. -/
inductive Ending (source : String) : Except SyntaxFault Expr → Prop
  | untokenized {fault : SyntaxFault} (h : Token.tokenize source.toList = .error fault) :
      Ending source (.error fault)
  | empty (h : Token.tokenize source.toList = .ok []) : Ending source (.error .empty)
  | failed {ts : List Token} {fault : SyntaxFault} {pos : Nat}
      (h : Token.tokenize source.toList = .ok ts) (hne : ts ≠ [])
      (hread : Ends (expression ts) 0 (.error fault, pos)) (hpos : pos ≤ ts.length + 1) :
      Ending source (.error fault)
  | complete {ts : List Token} {e : Expr} (h : Token.tokenize source.toList = .ok ts)
      (hread : Ends (expression ts) 0 (.ok e, ts.length)) : Ending source (.ok e)
  | trailing {ts : List Token} {e : Expr} {pos : Nat} (h : Token.tokenize source.toList = .ok ts)
      (hread : Ends (expression ts) 0 (.ok e, pos)) (hpos : pos < ts.length) :
      Ending source (.error (.trailingToken ts[pos]))

/-- **Reading a text ends**, with what reading it as a list of tokens gives. -/
theorem ending_parse (source : String) : Ending source (parse source) := by
  rw [parse]
  cases hts : Token.tokenize source.toList with
  | error fault => exact .untokenized hts
  | ok ts =>
    by_cases hne : ts = []
    · subst hne
      exact .empty hts
    · have hagrees := expression_agrees ts.length (Nat.zero_le _) (Nat.sub_le _ _)
      rw [List.drop_zero] at hagrees
      simp only
      rw [ofTokens]
      · generalize Expr.expression ts.length ts = x at hagrees
        cases hagrees with
        | error hread hend => exact .failed hts hne hread hend
        | @ok e pos hread _ hend =>
          rcases ahead ts pos with ⟨hdrop, hget⟩ | ⟨t, hdrop, hget, hlt⟩
          · rw [hdrop]
            rw [Nat.le_antisymm hend (List.getElem?_eq_none_iff.1 hget)] at hread
            exact .complete hts hread
          · rw [hdrop]
            obtain ⟨_, rfl⟩ := List.getElem?_eq_some_iff.1 hget
            exact .trailing hts hread hlt
      · exact hne

end Regrant.Expr.Cursor
