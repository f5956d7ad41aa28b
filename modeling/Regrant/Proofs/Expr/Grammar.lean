import Regrant.Expr.Parse

/-!
# The grammar of expressions

Which tokens spell which expression, said without a parser:

    expression  = disjunction ("?" expression ":" expression)?
    disjunction = conjunction ("||" conjunction)*
    conjunction = comparison ("&&" comparison)*
    comparison  = sum (("==" | "!=" | ">" | "<" | ">=" | "<=" | "in") sum)?
    sum         = negation ("+" negation)*
    negation    = "!" negation | postfix
    postfix     = primary ("." name ("(" arguments ")")?)*
    primary     = literal | name ("(" arguments ")")? | "[" arguments "]" | "(" expression ")"
    arguments   = (expression ("," expression)*)?

Each rule is a relation between the tokens that it spans and the tree that they spell.  A rule that
repeats an operator is left-recursive here, since its operands are joined from the left.
-/

namespace Regrant.Expr.Grammar

/-- The functions by name, with how many arguments each takes. -/
def signatures : List (String × Function × Nat) :=
  [("matches", .matching, 2), ("startsWith", .startsWith, 2), ("endsWith", .endsWith, 2),
    ("contains", .contains, 2), ("size", .size, 1), ("lower", .lower, 1), ("upper", .upper, 1)]

/-- A comparing token and what it makes of its two sides. -/
inductive Compares : Token → (Expr → Expr → Expr) → Prop
  | eq : Compares .eq (.binary .eq)
  | ne : Compares .ne (.binary .ne)
  | gt : Compares .gt (.binary .gt)
  | lt : Compares .lt (.binary .lt)
  | ge : Compares .ge (.binary .ge)
  | le : Compares .le (.binary .le)
  | isIn : Compares .isIn .member

mutual

inductive Expression : List Token → Expr → Prop
  | plain {ts : List Token} {e : Expr} : Disjunction ts e → Expression ts e
  | conditional {ts us vs : List Token} {c a b : Expr} :
      Disjunction ts c → Expression us a → Expression vs b →
      Expression (ts ++ .question :: us ++ .colon :: vs) (.conditional c a b)

inductive Disjunction : List Token → Expr → Prop
  | plain {ts : List Token} {e : Expr} : Conjunction ts e → Disjunction ts e
  | or {ts us : List Token} {a b : Expr} : Disjunction ts a → Conjunction us b →
      Disjunction (ts ++ .or :: us) (.binary .or a b)

inductive Conjunction : List Token → Expr → Prop
  | plain {ts : List Token} {e : Expr} : Comparison ts e → Conjunction ts e
  | and {ts us : List Token} {a b : Expr} : Conjunction ts a → Comparison us b →
      Conjunction (ts ++ .and :: us) (.binary .and a b)

/-- Comparisons do not chain. -/
inductive Comparison : List Token → Expr → Prop
  | plain {ts : List Token} {e : Expr} : Sum ts e → Comparison ts e
  | compare {ts us : List Token} {a b : Expr} {t : Token} {f : Expr → Expr → Expr} :
      Sum ts a → Compares t f → Sum us b → Comparison (ts ++ t :: us) (f a b)

inductive Sum : List Token → Expr → Prop
  | plain {ts : List Token} {e : Expr} : Negation ts e → Sum ts e
  | add {ts us : List Token} {a b : Expr} : Sum ts a → Negation us b →
      Sum (ts ++ .plus :: us) (.binary .add a b)

inductive Negation : List Token → Expr → Prop
  | plain {ts : List Token} {e : Expr} : Postfix ts e → Negation ts e
  | not {ts : List Token} {e : Expr} : Negation ts e → Negation (.not :: ts) (.not e)

/-- A field extends a path only, and `x.f(y)` is the call of `f` on `x` and `y`. -/
inductive Postfix : List Token → Expr → Prop
  | plain {ts : List Token} {e : Expr} : Primary ts e → Postfix ts e
  | field {ts : List Token} {root : String} {fields : List String} {name : String} :
      Postfix ts (.path root fields) →
      Postfix (ts ++ [.dot, .ident name]) (.path root (fields ++ [name]))
  | method {ts us : List Token} {e : Expr} {es : List Expr} {name : String} {f : Function} :
      Postfix ts e → Arguments us es → (name, f, es.length + 1) ∈ signatures →
      Postfix (ts ++ .dot :: .ident name :: .openParen :: us ++ [.closeParen]) (.call f (e :: es))

inductive Primary : List Token → Expr → Prop
  | int {n : Int} : Primary [.int n] (.literal (.int n))
  | float {x : Option Binary64} : Primary [.float x] (.literal (.float x))
  | text {s : String} : Primary [.text s] (.literal (.text s))
  | true : Primary [.true] (.literal (.bool Bool.true))
  | false : Primary [.false] (.literal (.bool Bool.false))
  | null : Primary [.null] (.literal .null)
  | path {name : String} : Primary [.ident name] (.path name [])
  | call {ts : List Token} {es : List Expr} {name : String} {f : Function} :
      Arguments ts es → (name, f, es.length) ∈ signatures →
      Primary (.ident name :: .openParen :: ts ++ [.closeParen]) (.call f es)
  | list {ts : List Token} {es : List Expr} :
      Arguments ts es → Primary (.openBracket :: ts ++ [.closeBracket]) (.list es)
  | group {ts : List Token} {e : Expr} :
      Expression ts e → Primary (.openParen :: ts ++ [.closeParen]) e

inductive Arguments : List Token → List Expr → Prop
  | none : Arguments [] []
  | some {ts : List Token} {es : List Expr} : Items ts es → Arguments ts es

/-- One expression at least, and no comma after the last. -/
inductive Items : List Token → List Expr → Prop
  | last {ts : List Token} {e : Expr} : Expression ts e → Items ts [e]
  | cons {ts us : List Token} {e : Expr} {es : List Expr} : Expression ts e → Items us es →
      Items (ts ++ .comma :: us) (e :: es)

end

/-! ### No rule spans nothing -/

variable {ts : List Token} {e : Expr}

theorem Primary.ne_nil (h : Primary ts e) : ts ≠ [] := by
  cases h <;> simp

theorem Postfix.ne_nil (h : Postfix ts e) : ts ≠ [] := by
  cases h with
  | plain h => exact h.ne_nil
  | field => simp
  | method => simp

theorem Negation.ne_nil (h : Negation ts e) : ts ≠ [] := by
  cases h with
  | plain h => exact h.ne_nil
  | not => simp

theorem Sum.ne_nil (h : Sum ts e) : ts ≠ [] := by
  cases h with
  | plain h => exact h.ne_nil
  | add => simp

theorem Comparison.ne_nil (h : Comparison ts e) : ts ≠ [] := by
  cases h with
  | plain h => exact h.ne_nil
  | compare => simp

theorem Conjunction.ne_nil (h : Conjunction ts e) : ts ≠ [] := by
  cases h with
  | plain h => exact h.ne_nil
  | and => simp

theorem Disjunction.ne_nil (h : Disjunction ts e) : ts ≠ [] := by
  cases h with
  | plain h => exact h.ne_nil
  | or => simp

theorem Expression.ne_nil (h : Expression ts e) : ts ≠ [] := by
  cases h with
  | plain h => exact h.ne_nil
  | conditional => simp

end Regrant.Expr.Grammar
