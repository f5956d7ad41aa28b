import Regrant.Proofs.Expr.Sound

/-!
# What is derived is read

`expression_finds`: a parser of expressions consumes exactly the tokens from which an expression is
derived, provided that no token follows which would continue it.  `tightness` orders the tokens by
the rules that go on with them, and `Ends` looks at the next token only, so that at the end of every
loop the next token decides whether it goes on.

With `expression_reads` this makes reading a list of tokens the same as deriving all of it
(`ofTokens_eq_ok_iff`).
-/

namespace Regrant.Expr

open Grammar

variable {joint : Token} {op : BinaryOp} {operand whole : Parser} {O : Language}

/-! ### Where an expression ends -/

/-- The rules that go on with a token, by how tightly they bind: a call or a field, a sum, a
comparison, a conjunction, a disjunction, a conditional.  No rule goes on with any other token. -/
def tightness : Token → Nat
  | .openParen => 7
  | .dot => 6
  | .plus => 5
  | .eq | .ne | .gt | .lt | .ge | .le | .isIn => 4
  | .and => 3
  | .or => 2
  | .question => 1
  | _ => 0

/-- The next token, if there is one, continues no rule that binds as tightly as `k`. -/
def Ends (k : Nat) (rest : List Token) : Prop := ∀ t ∈ rest.head?, tightness t < k

theorem Ends.mono {k l : Nat} {rest : List Token} (h : Ends k rest) (hkl : k ≤ l) : Ends l rest :=
  fun t ht => Nat.lt_of_lt_of_le (h t ht) hkl

theorem ends_cons {k : Nat} {t : Token} {rest : List Token} (h : tightness t < k) :
    Ends k (t :: rest) := by
  rintro _ ⟨⟩
  exact h

/-- The parser reads what spells an expression with at most `n` tokens, where it ends. -/
def Finds (p : Parser) (L : Language) (n k : Nat) : Prop :=
  ∀ {ts rest : List Token} {e : Expr}, L ts e → ts.length ≤ n → Ends k rest →
    p (ts ++ rest) = .ok (e, rest)

/-- Where the next token is no joint, no operand is joined. -/
theorem joined_of_ends {k : Nat} {rest : List Token} (hj : k ≤ tightness joint)
    (hr : Ends k rest) (n : Nat) (e : Expr) : joined joint op operand n e rest = .ok (e, rest) := by
  fun_cases joined joint op operand n e rest with
  | case1 => exact absurd (hr _ rfl) (Nat.not_lt.2 hj)
  | case2 => exact absurd (hr _ rfl) (Nat.not_lt.2 hj)
  | case3 => rfl
  | case4 => rfl

/-- Operands with a joint between them, joined from the left. -/
inductive Chain (joint : Token) (op : BinaryOp) (O : Language) : Language
  | single {ts : List Token} {e : Expr} : O ts e → Chain joint op O ts e
  | join {ts us : List Token} {a b : Expr} : Chain joint op O ts a → O us b →
      Chain joint op O (ts ++ joint :: us) (.binary op a b)

theorem chain_of_sum {ts : List Token} {e : Expr} : Sum ts e → Chain .plus .add Negation ts e
  | .plain h => .single h
  | .add h g => .join (chain_of_sum h) g

theorem chain_of_conjunction {ts : List Token} {e : Expr} :
    Conjunction ts e → Chain .and .and Comparison ts e
  | .plain h => .single h
  | .and h g => .join (chain_of_conjunction h) g

theorem chain_of_disjunction {ts : List Token} {e : Expr} :
    Disjunction ts e → Chain .or .or Conjunction ts e
  | .plain h => .single h
  | .or h g => .join (chain_of_disjunction h) g

/-- After the tokens of a chain the loop stands before the rest with the tree of the chain. -/
theorem chain_eq_joined {n k : Nat} (h : Finds operand O n k) (hj : tightness joint < k)
    {ts rest : List Token} {e : Expr} (hc : Chain joint op O ts e) (hn : ts.length ≤ n)
    (hr : Ends k rest) :
    ∃ m, rest.length ≤ m ∧
      chain joint op operand (ts ++ rest) = joined joint op operand m e rest := by
  induction hc generalizing rest with
  | single ho =>
    refine ⟨rest.length, Nat.le_refl _, ?_⟩
    rw [chain, h ho hn hr]
  | @join ts us a b _ ho ih =>
    rw [List.length_append, List.length_cons] at hn
    have hend : Ends k (joint :: us ++ rest) := ends_cons hj
    obtain ⟨m, hm, heq⟩ := ih (by omega) hend
    cases m with
    | zero => cases hm
    | succ m =>
      refine ⟨m, ?_, ?_⟩
      · rw [List.cons_append, List.length_cons, List.length_append] at hm
        omega
      · rw [List.append_assoc, heq, List.cons_append, joined, if_pos rfl, h ho (by omega) hr]

theorem chain_finds {n k : Nat} (h : Finds operand O n (k + 1)) (hj : tightness joint = k) :
    Finds (chain joint op operand) (Chain joint op O) n k := by
  intro ts rest e hc hn hr
  obtain ⟨m, _, heq⟩ := chain_eq_joined h (by omega) hc hn (hr.mono (by omega))
  rw [heq, joined_of_ends (Nat.le_of_eq hj.symm) hr]

theorem tightness_of_compares {t : Token} {f : Expr → Expr → Expr} (h : Compares t f) :
    tightness t = 4 := by
  cases h <;> rfl

theorem comparison_finds {n : Nat} (h : Finds operand Sum n 5) :
    Finds (comparison operand) Comparison n 4 := by
  intro ts rest e hc hn hr
  cases hc with
  | plain hs =>
    rw [comparison, h hs hn (hr.mono (by omega))]
    cases rest with
    | nil => rfl
    | cons t rest =>
      have hnone : comparator? t = none := by
        cases hf : comparator? t with
        | none => rfl
        | some f =>
          have hlt := hr t rfl
          rw [tightness_of_compares (compares_iff.1 hf)] at hlt
          exact absurd hlt (by decide)
      simp only [hnone]
  | @compare ts us a b t f hs ht hu =>
    rw [List.length_append, List.length_cons] at hn
    have htight : tightness t < 5 := by
      rw [tightness_of_compares ht]
      decide
    rw [List.append_assoc, List.cons_append, comparison, h hs (by omega) (ends_cons htight)]
    simp only [compares_iff.2 ht, h hu (by omega) (hr.mono (by omega))]

/-- An operand that is read cannot have begun with a negation, if no operand does. -/
theorem negation_of_operand {ts : List Token} {r : Expr × List Token}
    (hnot : ∀ us, operand (.not :: us) ≠ .ok r) (h : operand ts = .ok r) :
    negation operand ts = .ok r := by
  fun_cases negation operand ts with
  | case1 us => exact absurd h (hnot us)
  | case2 us => exact absurd h (hnot us)
  | case3 => exact h

theorem negation_finds {n : Nat} (h : Finds operand Postfix n 6)
    (hnot : ∀ us r, operand (.not :: us) ≠ .ok r) {ts rest : List Token} {e : Expr} :
    Negation ts e → ts.length ≤ n → Ends 6 rest → negation operand (ts ++ rest) = .ok (e, rest)
  | .plain hp, hn, hr => negation_of_operand (hnot · _) (h hp hn hr)
  | .not hp, hn, hr => by
    rw [List.length_cons] at hn
    rw [List.cons_append, negation, negation_finds h hnot hp (by omega) hr]

theorem conditionalOr_finds {condition : Parser} {n : Nat} (hw : Finds whole Expression n 1)
    (hc : Finds condition Disjunction (n + 1) 2) :
    Finds (conditionalOr whole condition) Expression (n + 1) 1 := by
  intro ts rest e h hn hr
  cases h with
  | plain hd =>
    rw [conditionalOr, hc hd hn (hr.mono (by omega))]
    split
    · rename_i heq
      cases heq
    · rename_i heq
      cases heq
      exact absurd (hr .question rfl) (by decide)
    · rename_i heq
      exact heq.symm
  | @conditional ts us vs c a b hd ha hb =>
    simp only [List.length_append, List.length_cons] at hn
    have hquestion : Ends 2 (.question :: (us ++ .colon :: (vs ++ rest))) := ends_cons (by decide)
    have hcolon : Ends 1 (.colon :: (vs ++ rest)) := ends_cons (by decide)
    rw [show ts ++ Token.question :: us ++ Token.colon :: vs ++ rest =
      ts ++ .question :: (us ++ .colon :: (vs ++ rest)) by simp, conditionalOr,
      hc hd (by omega) hquestion]
    simp only [hw ha (by omega) hcolon, hw hb (by omega) hr]

/-! ### Calls and fields -/

/-- Ends the arguments of a call or of a list. -/
inductive Closes : Token → Prop
  | paren : Closes .closeParen
  | bracket : Closes .closeBracket

/-- What a parser of whole expressions has to do for those that stand between brackets: read them,
and read nothing that begins with the closing bracket. -/
structure Inner (whole : Parser) (n : Nat) : Prop where
  finds : Finds whole Expression n 1
  start : ∀ {close : Token}, Closes close → ∀ us r, whole (close :: us) ≠ .ok r

theorem items_finds {n : Nat} (h : Finds whole Expression n 1) {close : Token}
    (hclose : Closes close) {ts : List Token} {es : List Expr} (hi : Items ts es)
    (hn : ts.length ≤ n) {m : Nat} (hm : ts.length < m) (rest : List Token) :
    items whole close m (ts ++ close :: rest) = .ok (es, rest) := by
  induction m generalizing ts es with
  | zero => cases hm
  | succ m ih =>
    have hend : Ends 1 (close :: rest) := by
      cases hclose <;> exact ends_cons (by decide)
    cases hi with
    | last he =>
      rw [items, h he hn hend]
      cases hclose <;> simp
    | @cons ts us e es he hi =>
      rw [List.length_append, List.length_cons] at hn hm
      rw [List.append_assoc, List.cons_append, items,
        h he (by omega) (ends_cons (by decide))]
      simp only [ih hi (by omega) (by omega)]

theorem items_ne_ok {close : Token} {us : List Token} (h : ∀ r, whole (close :: us) ≠ .ok r)
    (n : Nat) (r : List Expr × List Token) : items whole close n (close :: us) ≠ .ok r := by
  cases n with
  | zero => simp [items]
  | succ n =>
    rw [items]
    split
    · simp
    · exact absurd ‹_› (h _)
    · exact absurd ‹_› (h _)
    · simp

theorem arguments_finds {n : Nat} (h : Inner whole n) {close : Token} (hclose : Closes close)
    {ts : List Token} {es : List Expr} (ha : Arguments ts es) (hn : ts.length ≤ n)
    (rest : List Token) : arguments whole close (ts ++ close :: rest) = .ok (es, rest) := by
  cases ha with
  | none => simp [arguments]
  | some hi =>
    have hlen : ts.length < (ts ++ close :: rest).length := by simp
    have hread := items_finds h.finds hclose hi hn hlen rest
    obtain ⟨t, us, hus⟩ := List.exists_cons_of_ne_nil (show ts ++ close :: rest ≠ [] by simp)
    rw [hus] at hread ⊢
    -- were this token the closing one, no item could have been read from here
    have ht : t ≠ close := by
      rintro rfl
      exact items_ne_ok (h.start hclose us) _ _ hread
    rw [arguments, if_neg ht, hread]

/-- No expression begins with what closes one. -/
theorem expression_ne_ok {close : Token} (hclose : Closes close) (n : Nat) (us : List Token)
    (r : Expr × List Token) : expression n (close :: us) ≠ .ok r := by
  cases n with
  | zero => rintro ⟨⟩
  | succ n => cases hclose <;> rintro ⟨⟩

theorem postfixed_not_ne_ok (us : List Token) (r : Expr × List Token) :
    postfixed whole (.not :: us) ≠ .ok r := by
  rintro ⟨⟩

theorem primary_finds {n : Nat} (h : Inner whole n) : Finds (primary whole) Primary (n + 1) 7 := by
  intro ts rest e hp hn hr
  cases hp with
  | @path name =>
    show primary whole (.ident name :: rest) = _
    rw [primary]
    rintro us rfl
    exact absurd (hr _ rfl) (by decide)
  | @call ts es name f ha hf =>
    simp only [List.length_append, List.length_cons, List.length_nil] at hn
    show primary whole (.ident name :: .openParen :: (ts ++ [.closeParen] ++ rest)) = _
    rw [← List.append_cons, primary, arguments_finds h .paren ha (by omega)]
    simp only [ofCall_eq_ok_iff.2 ⟨f, hf, rfl⟩]
  | @list ts es ha =>
    simp only [List.length_append, List.length_cons, List.length_nil] at hn
    show primary whole (.openBracket :: (ts ++ [.closeBracket] ++ rest)) = _
    rw [← List.append_cons, primary, arguments_finds h .bracket ha (by omega)]
  | @group ts e he =>
    simp only [List.length_append, List.length_cons, List.length_nil] at hn
    show primary whole (.openParen :: (ts ++ [.closeParen] ++ rest)) = _
    rw [← List.append_cons, primary, h.finds he (by omega) (ends_cons (by decide))]
  | _ => rfl

/-- Where the next token is no dot, nothing is called and no field is taken. -/
theorem suffixes_of_ends {rest : List Token} (hr : Ends 6 rest) (n : Nat) (e : Expr) :
    suffixes whole n e rest = .ok (e, rest) := by
  have hdot : ∀ us, rest ≠ .dot :: us := by
    rintro us rfl
    exact absurd (hr _ rfl) (by decide)
  fun_cases suffixes whole n e rest
  case case7 => rfl
  all_goals exact absurd rfl (hdot _)

/-- After these tokens the loop over calls and fields stands before the rest with this tree. -/
def Reaches (whole : Parser) (ts : List Token) (e : Expr) : Prop :=
  ∀ rest : List Token, Ends 7 rest →
    ∃ m, rest.length ≤ m ∧ postfixed whole (ts ++ rest) = suffixes whole m e rest

theorem primary_reaches {n : Nat} (h : Inner whole n) {ts : List Token} {e : Expr}
    (hp : Primary ts e) (hn : ts.length ≤ n + 1) : Reaches whole ts e := by
  intro rest hr
  refine ⟨rest.length, Nat.le_refl _, ?_⟩
  rw [postfixed, primary_finds h hp hn hr]

theorem Reaches.field {ts : List Token} {root : String} {fields : List String}
    (hs : Reaches whole ts (.path root fields)) (name : String) :
    Reaches whole (ts ++ [.dot, .ident name]) (.path root (fields ++ [name])) := by
  intro rest hr
  have hend : Ends 7 (.dot :: .ident name :: rest) := ends_cons (by decide)
  obtain ⟨m, hm, heq⟩ := hs _ hend
  simp only [List.length_cons] at hm
  cases m with
  | zero => cases hm
  | succ m =>
    refine ⟨m, by omega, ?_⟩
    rw [List.append_assoc]
    refine heq.trans ?_
    rw [suffixes, ofField]
    rintro us rfl
    exact absurd (hr _ rfl) (by decide)

theorem Reaches.method {n : Nat} (h : Inner whole n) {ts us : List Token} {e : Expr}
    {es : List Expr} {name : String} {f : Function} (hs : Reaches whole ts e)
    (ha : Arguments us es) (hn : us.length ≤ n) (hf : (name, f, es.length + 1) ∈ signatures) :
    Reaches whole (ts ++ .dot :: .ident name :: .openParen :: us ++ [.closeParen])
      (.call f (e :: es)) := by
  intro rest hr
  have hcall : ofCall name (e :: es) = .ok (.call f (e :: es)) :=
    ofCall_eq_ok_iff.2 ⟨f, hf, rfl⟩
  have hend : Ends 7 (.dot :: .ident name :: .openParen :: (us ++ .closeParen :: rest)) :=
    ends_cons (by decide)
  obtain ⟨m, hm, heq⟩ := hs _ hend
  simp only [List.length_append, List.length_cons] at hm
  cases m with
  | zero => cases hm
  | succ m =>
    refine ⟨m, by omega, ?_⟩
    rw [← List.append_cons, List.append_assoc]
    refine heq.trans ?_
    rw [suffixes, arguments_finds h .paren ha hn]
    simp only [hcall]

theorem postfix_reaches {n : Nat} (h : Inner whole n) {ts : List Token} {e : Expr} :
    Postfix ts e → ts.length ≤ n + 1 → Reaches whole ts e
  | .plain hp, hn => primary_reaches h hp hn
  | .field hp, hn => by
    rw [List.length_append] at hn
    exact (postfix_reaches h hp (by omega)).field _
  | .method hp ha hf, hn => by
    simp only [List.length_append, List.length_cons, List.length_nil] at hn
    exact (postfix_reaches h hp (by omega)).method h ha (by omega) hf

theorem postfixed_finds {n : Nat} (h : Inner whole n) :
    Finds (postfixed whole) Postfix (n + 1) 6 := by
  intro ts rest e hp hn hr
  obtain ⟨m, _, heq⟩ := postfix_reaches h hp hn rest (hr.mono (by decide))
  rw [heq, suffixes_of_ends hr]

/-! ### Expressions -/

theorem disjunction_finds {n : Nat} (h : Inner whole n) :
    Finds (disjunction whole) Disjunction (n + 1) 2 := by
  have hneg : Finds (negation (postfixed whole)) Negation (n + 1) 6 :=
    negation_finds (postfixed_finds h) postfixed_not_ne_ok
  have hsum : Finds (sum whole) Sum (n + 1) 5 := by
    intro ts rest e hs
    exact chain_finds hneg rfl (chain_of_sum hs)
  have hconj : Finds (conjunction whole) Conjunction (n + 1) 3 := by
    intro ts rest e hs
    exact chain_finds (comparison_finds hsum) rfl (chain_of_conjunction hs)
  intro ts rest e hs
  exact chain_finds hconj rfl (chain_of_disjunction hs)

/-- **What is derived is read**, if the bound is no less than the number of its tokens. -/
theorem expression_finds (n : Nat) : Finds (expression n) Expression n 1 := by
  induction n with
  | zero =>
    intro ts rest e h hn _
    exact absurd (List.length_eq_zero_iff.1 (Nat.le_zero.1 hn)) h.ne_nil
  | succ n ih =>
    exact conditionalOr_finds ih (disjunction_finds ⟨ih, fun hclose => expression_ne_ok hclose n⟩)

/-- **Reading a list of tokens is deriving it from the grammar**, all of it. -/
theorem ofTokens_eq_ok_iff (ts : List Token) (e : Expr) :
    ofTokens ts = .ok e ↔ Expression ts e := by
  constructor
  · intro h
    rw [ofTokens.eq_def] at h
    split at h
    · cases h
    · split at h
      · cases h
      · rename_i hread
        cases h
        obtain ⟨used, rfl, hu⟩ := expression_reads _ hread
        rwa [List.append_nil]
      · cases h
  · intro h
    obtain ⟨t, ts, rfl⟩ := List.exists_cons_of_ne_nil h.ne_nil
    have hend : Ends 1 [] := by rintro _ ⟨⟩
    have hread := expression_finds _ h (Nat.le_refl _) hend
    rw [List.append_nil] at hread
    rw [ofTokens, hread]
    rintro ⟨⟩

-- A path between parentheses is a path, so a field of it can be taken.
example : ofTokens [.openParen, .ident "table", .closeParen, .dot, .ident "name"] =
    .ok (.path "table" ["name"]) := by rfl

end Regrant.Expr
