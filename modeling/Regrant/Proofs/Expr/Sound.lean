import Regrant.Proofs.Expr.Grammar

/-!
# What is read is derived

`expression_reads`: what a parser of expressions consumes spells the expression that it answers.
There is one lemma for each way of building a parser, and it asks only that the parsers built upon
read what they should.
-/

namespace Regrant.Expr

open Grammar

/-- What spells an expression. -/
abbrev Language := List Token → Expr → Prop

variable {joint : Token} {op : BinaryOp} {operand whole : Parser} {O L : Language}

/-! ### Operators -/

/-- What a parser consumes spells what it answers. -/
def Reads (p : Parser) (L : Language) : Prop :=
  ∀ {ts rest : List Token} {e : Expr}, p ts = .ok (e, rest) → ∃ used, used ++ rest = ts ∧ L used e

theorem joined_reads (h : Reads operand O)
    (hjoin : ∀ {ts us a b}, L ts a → O us b → L (ts ++ joint :: us) (.binary op a b)) (n : Nat)
    {read ts rest : List Token} {left e : Expr} (hl : L read left)
    (hp : joined joint op operand n left ts = .ok (e, rest)) :
    ∃ used, used ++ rest = ts ∧ L (read ++ used) e := by
  fun_induction joined joint op operand n left ts generalizing read with
  | case1 n left ts fault hfault => cases hp
  | case2 n left ts right rest' hright ih =>
    obtain ⟨us, rfl, hu⟩ := h hright
    obtain ⟨vs, rfl, hv⟩ := ih (hjoin hl hu) hp
    exact ⟨joint :: us ++ vs, by simp, by simpa using hv⟩
  | case3 n left t ts ht =>
    cases hp
    exact ⟨[], rfl, by rwa [List.append_nil]⟩
  | case4 n left ts hne =>
    cases hp
    exact ⟨[], rfl, by rwa [List.append_nil]⟩

theorem chain_reads (h : Reads operand O) (hplain : ∀ {ts e}, O ts e → L ts e)
    (hjoin : ∀ {ts us a b}, L ts a → O us b → L (ts ++ joint :: us) (.binary op a b)) :
    Reads (chain joint op operand) L := by
  intro ts rest e hp
  rw [chain] at hp
  split at hp
  · cases hp
  · rename_i left rest' hleft
    obtain ⟨us, rfl, hu⟩ := h hleft
    obtain ⟨vs, rfl, hv⟩ := joined_reads h hjoin _ (hplain hu) hp
    exact ⟨us ++ vs, by simp, hv⟩

theorem compares_iff {t : Token} {f : Expr → Expr → Expr} :
    comparator? t = some f ↔ Compares t f := by
  constructor
  · intro h
    cases t <;> simp only [comparator?, Option.some.injEq, reduceCtorEq] at h <;> subst h <;>
      constructor
  · rintro (_ | _) <;> rfl

theorem comparison_reads (h : Reads operand Sum) : Reads (comparison operand) Comparison := by
  intro ts rest e hp
  rw [comparison] at hp
  split at hp
  · cases hp
  · rename_i left rest' hleft
    obtain ⟨us, rfl, hu⟩ := h hleft
    split at hp
    · cases hp
      exact ⟨us, rfl, .plain hu⟩
    · rename_i t rest'
      split at hp
      · cases hp
        exact ⟨us, rfl, .plain hu⟩
      · rename_i f hf
        split at hp
        · cases hp
        · rename_i right rest'' hright
          obtain ⟨vs, rfl, hv⟩ := h hright
          cases hp
          exact ⟨us ++ t :: vs, by simp, .compare hu (compares_iff.1 hf) hv⟩

theorem negation_reads (h : Reads operand Postfix) : Reads (negation operand) Negation := by
  intro ts rest e hp
  fun_induction negation operand ts generalizing rest e with
  | case1 ts fault hfault ih => cases hp
  | case2 ts inner rest' hinner ih =>
    obtain ⟨us, rfl, hu⟩ := ih hinner
    cases hp
    exact ⟨.not :: us, rfl, .not hu⟩
  | case3 ts hne =>
    obtain ⟨us, rfl, hu⟩ := h hp
    exact ⟨us, rfl, .plain hu⟩

theorem conditionalOr_reads {condition : Parser} (hw : Reads whole Expression)
    (hc : Reads condition Disjunction) : Reads (conditionalOr whole condition) Expression := by
  intro ts rest e hp
  rw [conditionalOr] at hp
  split at hp
  · cases hp
  · rename_i c rest₁ hcond
    obtain ⟨us, rfl, hu⟩ := hc hcond
    split at hp
    · cases hp
    · rename_i a rest₂ ha
      obtain ⟨vs, rfl, hv⟩ := hw ha
      split at hp
      · cases hp
      · rename_i b rest₃ hb
        obtain ⟨ws, rfl, hws⟩ := hw hb
        cases hp
        exact ⟨us ++ .question :: vs ++ .colon :: ws, by simp, .conditional hu hv hws⟩
    · cases hp
  · rename_i c rest₁ _ hcond
    obtain ⟨us, rfl, hu⟩ := hc hcond
    cases hp
    exact ⟨us, rfl, .plain hu⟩

/-! ### Calls and fields -/

theorem mem_signatures_iff {name : String} {f : Function} {n : Nat} :
    (name, f, n) ∈ signatures ↔ Function.ofName? name = some f ∧ n = f.arity := by
  constructor
  · intro h
    simp only [signatures, List.mem_cons, List.not_mem_nil, Prod.mk.injEq, or_false] at h
    rcases h with ⟨rfl, rfl, rfl⟩ | ⟨rfl, rfl, rfl⟩ | ⟨rfl, rfl, rfl⟩ | ⟨rfl, rfl, rfl⟩ |
      ⟨rfl, rfl, rfl⟩ | ⟨rfl, rfl, rfl⟩ | ⟨rfl, rfl, rfl⟩ <;> exact ⟨rfl, rfl⟩
  · rintro ⟨h, rfl⟩
    rw [Function.ofName?.eq_def] at h
    split at h <;> cases h <;> decide

/-- Calls are those of the seven functions with as many arguments as each takes. -/
theorem ofCall_eq_ok_iff {name : String} {args : List Expr} {e : Expr} :
    ofCall name args = .ok e ↔ ∃ f, (name, f, args.length) ∈ signatures ∧ e = .call f args := by
  simp only [mem_signatures_iff]
  rw [ofCall]
  split
  · rename_i hname
    simp [hname]
  · rename_i f hname
    rw [hname]
    split
    · rename_i hlen
      constructor
      · rintro ⟨⟩
        exact ⟨f, ⟨rfl, hlen⟩, rfl⟩
      · rintro ⟨_, ⟨⟨⟩, _⟩, rfl⟩
        rfl
    · rename_i hlen
      constructor
      · rintro ⟨⟩
      · rintro ⟨_, ⟨⟨⟩, hf⟩, _⟩
        exact absurd hf hlen

theorem items_reads (h : Reads whole Expression) {close : Token} (n : Nat)
    {ts rest : List Token} {es : List Expr} (hp : items whole close n ts = .ok (es, rest)) :
    ∃ used, used ++ close :: rest = ts ∧ Items used es := by
  induction n generalizing ts es with
  | zero => cases hp
  | succ n ih =>
    rw [items] at hp
    split at hp
    · cases hp
    · rename_i e rest' he
      obtain ⟨us, rfl, hu⟩ := h he
      split at hp
      · cases hp
      · rename_i es' rest'' hes
        cases hp
        obtain ⟨vs, rfl, hv⟩ := ih hes
        exact ⟨us ++ .comma :: vs, by simp, .cons hu hv⟩
    · rename_i e t rest' _ he
      obtain ⟨us, rfl, hu⟩ := h he
      split at hp
      · rename_i ht
        cases hp
        exact ⟨us, by rw [ht], .last hu⟩
      · cases hp
    · cases hp

theorem arguments_reads (h : Reads whole Expression) {close : Token} {ts rest : List Token}
    {es : List Expr} (hp : arguments whole close ts = .ok (es, rest)) :
    ∃ used, used ++ close :: rest = ts ∧ Arguments used es := by
  have hitems : ∀ n, items whole close n ts = .ok (es, rest) →
      ∃ used, used ++ close :: rest = ts ∧ Arguments used es := by
    intro n hn
    obtain ⟨us, hus, hu⟩ := items_reads h n hn
    exact ⟨us, hus, .some hu⟩
  cases ts with
  | nil => exact hitems _ hp
  | cons t ts =>
    rw [arguments] at hp
    split at hp
    · rename_i ht
      cases hp
      exact ⟨[], by rw [ht]; rfl, .none⟩
    · exact hitems _ hp

theorem suffixes_reads (h : Reads whole Expression) (n : Nat) {read ts rest : List Token}
    {start e : Expr} (hs : Postfix read start) (hp : suffixes whole n start ts = .ok (e, rest)) :
    ∃ used, used ++ rest = ts ∧ Postfix (read ++ used) e := by
  fun_induction suffixes whole n start ts generalizing read with
  | case1 n start name ts fault hfault => cases hp
  | case2 n start name ts args rest' hargs fault hfault => cases hp
  | case3 n start name ts args rest' hargs called hcall ih =>
    obtain ⟨us, rfl, hu⟩ := arguments_reads h hargs
    obtain ⟨f, hf, rfl⟩ := ofCall_eq_ok_iff.1 hcall
    obtain ⟨vs, rfl, hv⟩ := ih (.method hs hu hf) hp
    exact ⟨.dot :: .ident name :: .openParen :: us ++ .closeParen :: vs, by simp, by simpa using hv⟩
  | case4 n start name ts hne fault hfault => cases hp
  | case5 n start name ts hne field hfield ih =>
    cases start with
    | path root fields =>
      obtain rfl : Expr.path root (fields ++ [name]) = field := by simpa [ofField] using hfield
      obtain ⟨vs, rfl, hv⟩ := ih (.field hs) hp
      exact ⟨.dot :: .ident name :: vs, by simp, by simpa using hv⟩
    | _ => cases hfield
  | case6 => cases hp
  | case7 =>
    cases hp
    exact ⟨[], rfl, by rwa [List.append_nil]⟩

theorem primary_reads (h : Reads whole Expression) : Reads (primary whole) Primary := by
  intro ts rest e hp
  revert hp
  fun_cases primary whole ts <;> intro hp <;> cases hp
  · exact ⟨[_], rfl, .int⟩
  · exact ⟨[_], rfl, .float⟩
  · exact ⟨[_], rfl, .text⟩
  · exact ⟨[_], rfl, .true⟩
  · exact ⟨[_], rfl, .false⟩
  · exact ⟨[_], rfl, .null⟩
  · rename_i name ts args hcall hargs
    obtain ⟨us, rfl, hu⟩ := arguments_reads h hargs
    obtain ⟨f, hf, rfl⟩ := ofCall_eq_ok_iff.1 hcall
    exact ⟨.ident name :: .openParen :: us ++ [.closeParen], by simp, .call hu hf⟩
  · exact ⟨[_], rfl, .path⟩
  · rename_i ts es hargs
    obtain ⟨us, rfl, hu⟩ := arguments_reads h hargs
    exact ⟨.openBracket :: us ++ [.closeBracket], by simp, .list hu⟩
  · rename_i ts hinner
    obtain ⟨us, rfl, hu⟩ := h hinner
    exact ⟨.openParen :: us ++ [.closeParen], by simp, .group hu⟩

theorem postfixed_reads (h : Reads whole Expression) : Reads (postfixed whole) Postfix := by
  intro ts rest e hp
  rw [postfixed] at hp
  split at hp
  · cases hp
  · rename_i start rest' hstart
    obtain ⟨us, rfl, hu⟩ := primary_reads h hstart
    obtain ⟨vs, rfl, hv⟩ := suffixes_reads h _ (.plain hu) hp
    exact ⟨us ++ vs, by simp, hv⟩

theorem disjunction_reads (h : Reads whole Expression) : Reads (disjunction whole) Disjunction :=
  have hsum : Reads (sum whole) Sum :=
    chain_reads (negation_reads (postfixed_reads h)) .plain .add
  have hconj : Reads (conjunction whole) Conjunction :=
    chain_reads (comparison_reads hsum) .plain .and
  chain_reads hconj .plain .or

/-- **What is read is derived**, whatever bound the parser has. -/
theorem expression_reads (n : Nat) : Reads (expression n) Expression := by
  induction n with
  | zero =>
    intro ts rest e hp
    cases hp
  | succ n ih => exact conditionalOr_reads ih (disjunction_reads ih)

end Regrant.Expr
