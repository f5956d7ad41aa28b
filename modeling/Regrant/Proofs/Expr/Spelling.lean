import Regrant.Expr.Tokenize

/-!
# Cutting undoes writing

`Spells t w` says that the token `t` can be written as `w`: a name as it is, a whole number in
decimal, a text between quotes of either kind, with that quote and the backslash escaped, and every
other token in its one way.  `Written ts cs` says that `cs` has the tokens written in order, with
blanks between any two, which is possible for all tokens that can be written (`exists_written_iff`).
Cutting it gives the tokens back, whichever way they were written (`tokenize_written`).
-/

namespace Regrant.Token

/-! ### Writing -/

/-- Tokens that are written in one way only. -/
def fixed? : Token → Option String
  | .true => some "true"
  | .false => some "false"
  | .null => some "null"
  | .isIn => some "in"
  | .dot => some "."
  | .comma => some ","
  | .openParen => some "("
  | .closeParen => some ")"
  | .openBracket => some "["
  | .closeBracket => some "]"
  | .eq => some "=="
  | .ne => some "!="
  | .gt => some ">"
  | .lt => some "<"
  | .ge => some ">="
  | .le => some "<="
  | .and => some "&&"
  | .or => some "||"
  | .not => some "!"
  | .plus => some "+"
  | .question => some "?"
  | .colon => some ":"
  | .ident _ | .int _ | .float _ | .text _ => none

def keywords : List String := ["true", "false", "null", "in"]

/-- A letter or an underscore, then letters, underscores and digits. -/
def IsName : List Char → Prop
  | [] => False
  | c :: cs => isNameStart c ∧ cs.all isNamePart

instance : DecidablePred IsName
  | [] => isFalse id
  | _ :: _ => inferInstanceAs (Decidable (_ ∧ _))

/-- How a character is written between two quotes. -/
def escape (quote c : Char) : List Char := if c = quote ∨ c = '\\' then ['\\', c] else [c]

/-- The token can be written so.  A number with a fraction has no spelling here. -/
inductive Spells : Token → List Char → Prop
  | fixed {t : Token} {w : String} (h : t.fixed? = some w) : Spells t w.toList
  | ident {name : String} (hname : IsName name.toList) (hword : name ∉ keywords) :
      Spells (.ident name) name.toList
  /-- Zeros may lead. -/
  | int {n : Nat} (hn : FitsInt64 n) (zeros : Nat) :
      Spells (.int n) (List.replicate zeros '0' ++ Nat.toDigits 10 n)
  | text {quote : Char} (hquote : quote = '\'' ∨ quote = '"') (s : String) :
      Spells (.text s) (quote :: (s.toList.flatMap (escape quote) ++ [quote]))

/-- Nothing but blanks. -/
abbrev Gap (cs : List Char) : Prop := cs.all isBlank

/-- What comes next, if anything does, is a blank. -/
abbrev Apart (rest : List Char) : Prop := rest.head?.all isBlank

/-- The tokens are written in order, with blanks between any two. -/
inductive Written : List Token → List Char → Prop
  | nil {gap : List Char} (hgap : Gap gap) : Written [] gap
  | cons {t : Token} {ts : List Token} {gap w rest : List Char} (hgap : Gap gap)
      (hw : Spells t w) (hapart : Apart rest) (hrest : Written ts rest) :
      Written (t :: ts) (gap ++ w ++ rest)

/-- Whether a token can be written: a name has to be one and no keyword, a number has to be whole,
not negative and in range. -/
def IsWritable : Token → Prop
  | .ident name => IsName name.toList ∧ name ∉ keywords
  | .int i => 0 ≤ i ∧ FitsInt64 i
  | .float _ => False
  | _ => True

theorem exists_spells_iff {t : Token} : (∃ w, Spells t w) ↔ t.IsWritable := by
  constructor
  · rintro ⟨w, h⟩
    cases h with
    | fixed h =>
      cases t with
      | ident | int | float | text => cases h
      | _ => trivial
    | ident hname hword => exact ⟨hname, hword⟩
    | int hn zeros => exact ⟨Int.natCast_nonneg _, hn⟩
    | text => trivial
  · intro h
    cases t with
    | ident name => exact ⟨_, .ident h.1 h.2⟩
    | int i =>
      obtain ⟨n, rfl⟩ := Int.eq_ofNat_of_zero_le h.1
      exact ⟨_, .int h.2 0⟩
    | float x => exact h.elim
    | text s => exact ⟨_, .text (.inl rfl) s⟩
    | _ => exact ⟨_, .fixed rfl⟩

/-- Any tokens that can be written can be written in order. -/
theorem exists_written_iff {ts : List Token} :
    (∃ cs, Written ts cs) ↔ ∀ t ∈ ts, t.IsWritable := by
  constructor
  · rintro ⟨cs, h⟩
    induction h with
    | nil => exact List.forall_mem_nil _
    | cons _ hw _ _ ih => exact List.forall_mem_cons.2 ⟨exists_spells_iff.1 ⟨_, hw⟩, ih⟩
  · intro h
    -- A blank goes before every token, so that the rest stands apart.
    suffices hblank : ∃ cs, Apart cs ∧ Written ts cs by
      obtain ⟨cs, -, hcs⟩ := hblank
      exact ⟨cs, hcs⟩
    induction ts with
    | nil => exact ⟨[], rfl, .nil rfl⟩
    | cons t ts ih =>
      obtain ⟨ht, hts⟩ := List.forall_mem_cons.1 h
      obtain ⟨w, hw⟩ := exists_spells_iff.2 ht
      obtain ⟨cs, hapart, hcs⟩ := ih hts
      exact ⟨[' '] ++ w ++ cs, rfl, .cons rfl hw hapart hcs⟩

/-! ### Signs and blanks -/

/-- What the operators and the punctuation begin with. -/
def signs : List Char :=
  ['.', ',', '(', ')', '[', ']', '+', '?', ':', '=', '!', '>', '<', '&', '|']

/-- A token that begins with none of the signs is a text, a number or a word. -/
theorem lexeme_of_notMem_signs {c : Char} (h : c ∉ signs) (r : List Char) :
    lexeme c r =
      if c = '"' ∨ c = '\'' then
        match closeText c r with
        | some (s, rest) => .ok (.text (String.ofList s), rest)
        | none => .error .unterminatedText
      else if c.isDigit then
        (ofDigits (c :: (spanNumber r).1)).map (·, (spanNumber r).2)
      else if isNameStart c then
        .ok (ofWord (String.ofList (c :: r.takeWhile isNamePart)), r.dropWhile isNamePart)
      else .error (.unexpectedCharacter c) := by
  unfold lexeme
  split
  case h_19 => rfl
  all_goals exact absurd (by decide) h

def blanks : List Char := [' ', '\t', '\n', '\r']

theorem isBlank_iff {c : Char} : isBlank c ↔ c ∈ blanks := by
  simp [isBlank, blanks, or_assoc]

/-- If something is so of all of some characters, then no other character is one of them. -/
theorem eq_false_of_all_not {p : Char → Bool} {cs : List Char} (hp : cs.all (!p ·)) {c : Char}
    (hc : c ∈ cs) : p c = Bool.false := by
  simpa using List.all_eq_true.1 hp c hc

variable {rest : List Char}

/-- No blank goes on with a word, a number or an operator. -/
theorem Apart.head_ne {p : Char → Bool} {c : Char} {r : List Char} (h : Apart (c :: r))
    (hp : blanks.all (!p ·)) : p c = Bool.false :=
  eq_false_of_all_not hp (isBlank_iff.1 h)

/-! ### Texts -/

theorem closeText_escape {quote : Char} (hquote : quote = '\'' ∨ quote = '"') (cs : List Char) :
    closeText quote (cs.flatMap (escape quote) ++ quote :: rest) = some (cs, rest) := by
  induction cs with
  | nil =>
    rcases hquote with rfl | rfl <;> simp [closeText]
  | cons c cs ih =>
    rw [List.flatMap_cons, List.append_assoc]
    by_cases hc : c = quote ∨ c = '\\'
    · have hunescape : unescape c = c := by
        rcases hc with rfl | rfl
        · rcases hquote with rfl | rfl <;> rfl
        · rfl
      rw [escape, if_pos hc, List.cons_append, List.cons_append, List.nil_append, closeText, ih,
        Option.map_some, hunescape]
    · obtain ⟨hne, hback⟩ := not_or.1 hc
      rw [escape, if_neg hc, List.cons_append, List.nil_append, closeText, if_neg hne,
        if_neg hback, ih, Option.map_some]
      exact fun _ _ h => absurd h hback

/-! ### Numbers -/

theorem spanNumber_digits {ds : List Char} (hds : ∀ d ∈ ds, d.isDigit) (hrest : Apart rest) :
    spanNumber (ds ++ rest) = (ds, rest) := by
  induction ds with
  | nil =>
    cases rest with
    | nil => rfl
    | cons c r =>
      have hdigit : c.isDigit = Bool.false := hrest.head_ne (by decide)
      rw [List.nil_append, spanNumber, if_neg (by simp [hdigit])]
      rintro d r' rfl
      exact absurd hrest Bool.false_ne_true
  | cons d ds ih =>
    obtain ⟨hd, hds⟩ := List.forall_mem_cons.1 hds
    rw [List.cons_append, spanNumber, if_pos hd, ih hds]
    rintro e r rfl
    cases hd

theorem natOfDigits_toDigits (zeros n : Nat) :
    natOfDigits (List.replicate zeros '0' ++ Nat.toDigits 10 n) = n := by
  have h : natOfDigits (List.replicate zeros '0' ++ Nat.toDigits 10 n) =
      Nat.ofDigitChars 10 (List.replicate zeros '0' ++ Nat.toDigits 10 n) 0 := rfl
  rw [h, Nat.ofDigitChars_append]
  simp

theorem isDigit_of_mem_decimal {zeros n : Nat} {d : Char}
    (h : d ∈ List.replicate zeros '0' ++ Nat.toDigits 10 n) : d.isDigit := by
  rcases List.mem_append.1 h with h | h
  · rw [List.eq_of_mem_replicate h]
    rfl
  · exact Nat.isDigit_of_mem_toDigits (by decide) (by decide) h

theorem ofDigits_eq_int {ds : List Char} {n : Nat} (hds : ∀ d ∈ ds, d.isDigit)
    (hn : natOfDigits ds = n) (hfits : FitsInt64 n) : ofDigits ds = .ok (.int n) := by
  have hpoint : ds.contains '.' = Bool.false := by
    simp only [List.contains_eq_mem, decide_eq_false_iff_not]
    exact fun h => absurd (hds _ h) (by decide)
  rw [ofDigits, hpoint, if_neg (by decide)]
  simp only [hn, if_pos hfits]

/-! ### One token -/

/-- Whatever stands apart after `w`, the first token is `t` and takes all of `w`. -/
def Leads (t : Token) (w : List Char) : Prop :=
  ∃ c r, w = c :: r ∧ isBlank c = Bool.false ∧
    ∀ rest, Apart rest → lexeme c (r ++ rest) = .ok (t, rest)

/-- What neither a word nor a number begins with, of all that may come where a token begins. -/
def marks : List Char := signs ++ ['"', '\''] ++ blanks

theorem notMem_marks {p : Char → Bool} {c : Char} (hc : p c) (hp : marks.all (!p ·)) :
    c ∉ signs ∧ ¬(c = '"' ∨ c = '\'') ∧ isBlank c = Bool.false := by
  have h : c ∉ marks := fun h => Bool.false_ne_true ((eq_false_of_all_not hp h).symm.trans hc)
  simpa [marks, blanks, isBlank, and_assoc] using h

theorem not_isDigit_of_isNameStart {c : Char} (hc : isNameStart c) : ¬c.isDigit := by
  rcases Bool.or_eq_true_iff.1 hc with h | h
  · rw [Char.isDigit_iff_toNat]
    rintro ⟨-, hnine⟩
    rcases Bool.or_eq_true_iff.1 h with h | h
    · have hA : 'A'.toNat ≤ c.toNat := (of_decide_eq_true h).1
      exact absurd (Nat.le_trans hA hnine) (by decide)
    · have ha : 'a'.toNat ≤ c.toNat := of_decide_eq_true (Bool.and_eq_true_iff.1 h).1
      exact absurd (Nat.le_trans ha hnine) (by decide)
  · rw [of_decide_eq_true h]
    decide

theorem leads_word {cs : List Char} (h : IsName cs) : Leads (ofWord (String.ofList cs)) cs := by
  cases cs with
  | nil => cases h
  | cons c cs =>
    obtain ⟨hc, hcs⟩ := h
    rw [List.all_eq_true] at hcs
    obtain ⟨hsign, hquote, hblank⟩ := notMem_marks hc (by decide)
    refine ⟨c, cs, rfl, hblank, fun rest hrest => ?_⟩
    have hspan : rest.takeWhile isNamePart = [] ∧ rest.dropWhile isNamePart = rest := by
      cases rest with
      | nil => exact ⟨rfl, rfl⟩
      | cons d rest =>
        have hstop : isNamePart d = Bool.false := hrest.head_ne (by decide)
        simp [hstop]
    rw [lexeme_of_notMem_signs hsign, if_neg hquote, if_neg (not_isDigit_of_isNameStart hc),
      if_pos hc, List.takeWhile_append_of_pos hcs, List.dropWhile_append_of_pos hcs, hspan.1,
      hspan.2, List.append_nil]

theorem ofWord_eq_ident {name : String} (h : name ∉ keywords) : ofWord name = .ident name := by
  fun_cases ofWord name with
  | case5 => rfl
  | _ => exact absurd (by decide) h

theorem leads_decimal {n : Nat} (hn : FitsInt64 n) (zeros : Nat) :
    Leads (.int n) (List.replicate zeros '0' ++ Nat.toDigits 10 n) := by
  have hds : ∀ d ∈ List.replicate zeros '0' ++ Nat.toDigits 10 n, d.isDigit :=
    fun d => isDigit_of_mem_decimal
  have hread := ofDigits_eq_int hds (natOfDigits_toDigits zeros n) hn
  have hne : List.replicate zeros '0' ++ Nat.toDigits 10 n ≠ [] :=
    List.append_ne_nil_of_right_ne_nil _ (Nat.toDigits_ne_nil)
  generalize List.replicate zeros '0' ++ Nat.toDigits 10 n = ds at hds hread hne ⊢
  cases ds with
  | nil => exact absurd rfl hne
  | cons d ds =>
    obtain ⟨hd, hds⟩ := List.forall_mem_cons.1 hds
    obtain ⟨hsign, hquote, hblank⟩ := notMem_marks hd (by decide)
    refine ⟨d, ds, rfl, hblank, fun rest hrest => ?_⟩
    rw [lexeme_of_notMem_signs hsign, if_neg hquote, if_pos hd, spanNumber_digits hds hrest, hread]
    rfl

theorem leads_text {quote : Char} (hquote : quote = '\'' ∨ quote = '"') (s : String) :
    Leads (.text s) (quote :: (s.toList.flatMap (escape quote) ++ [quote])) := by
  have hsign : quote ∉ signs ∧ isBlank quote = Bool.false := by
    rcases hquote with rfl | rfl <;> decide
  refine ⟨quote, _, rfl, hsign.2, fun rest _ => ?_⟩
  rw [List.append_assoc, lexeme_of_notMem_signs hsign.1, if_pos hquote.symm, List.singleton_append,
    closeText_escape hquote]
  simp only [String.ofList_toList]

theorem Apart.eq_nil_or_cons (h : Apart rest) :
    rest = [] ∨ ∃ c r, c ∈ blanks ∧ rest = c :: r := by
  cases rest with
  | nil => exact .inl rfl
  | cons c r => exact .inr ⟨c, r, isBlank_iff.1 h, rfl⟩

theorem leads_fixed {t : Token} {w : String} (h : t.fixed? = some w) : Leads t w.toList := by
  cases t with
  | ident | int | float | text => cases h
  | true | false | null | isIn =>
    cases h
    exact leads_word (by decide)
  | not | gt | lt =>
    cases h
    refine ⟨_, _, rfl, rfl, fun rest hrest => ?_⟩
    -- The character that would make another operator of it is no blank.
    rcases hrest.eq_nil_or_cons with rfl | ⟨c, r, hc, rfl⟩
    · rfl
    · simp only [blanks, List.mem_cons, List.not_mem_nil, or_false] at hc
      rcases hc with rfl | rfl | rfl | rfl <;> rfl
  | _ =>
    cases h
    exact ⟨_, _, rfl, rfl, fun _ _ => rfl⟩

theorem leads_of_spells {t : Token} {w : List Char} (h : Spells t w) : Leads t w := by
  cases h with
  | fixed h => exact leads_fixed h
  | ident hname hword =>
    have h := leads_word hname
    rwa [String.ofList_toList, ofWord_eq_ident hword] at h
  | int hn zeros => exact leads_decimal hn zeros
  | text hquote s => exact leads_text hquote s

/-! ### Many tokens -/

theorem tokenize_gap {gap : List Char} (h : Gap gap) (cs : List Char) :
    tokenize (gap ++ cs) = tokenize cs := by
  induction gap with
  | nil => rfl
  | cons c gap ih =>
    obtain ⟨hc, hgap⟩ := Bool.and_eq_true_iff.1 h
    rw [List.cons_append, tokenize, if_pos hc, ih hgap]

theorem Leads.tokenize_append {t : Token} {w : List Char} (h : Leads t w) (hrest : Apart rest) :
    tokenize (w ++ rest) = (tokenize rest).map (t :: ·) := by
  obtain ⟨c, r, rfl, hblank, hlexeme⟩ := h
  rw [List.cons_append, tokenize, hblank, if_neg Bool.false_ne_true]
  split
  · rename_i heq
    rw [hlexeme rest hrest] at heq
    cases heq
  · rename_i heq
    rw [hlexeme rest hrest] at heq
    cases heq
    rfl

/-- **Cutting undoes writing**, whichever way the tokens are written and spaced. -/
theorem tokenize_written {ts : List Token} {cs : List Char} (h : Written ts cs) :
    tokenize cs = .ok ts := by
  induction h with
  | nil hgap =>
    have h := tokenize_gap hgap []
    rwa [List.append_nil, tokenize] at h
  | cons hgap hw hapart _ ih =>
    rw [List.append_assoc, tokenize_gap hgap, (leads_of_spells hw).tokenize_append hapart, ih]
    rfl

theorem tokenize_written_inner :
    Written [.not, .ident "inner", .isIn, .text "it's \\n", .ge, .int 9223372036854775807]
      " !\tinner in 'it\\'s \\\\n'\r\n>= 9223372036854775807".toList ∧
    tokenize " !\tinner in 'it\\'s \\\\n'\r\n>= 9223372036854775807".toList =
      .ok [.not, .ident "inner", .isIn, .text "it's \\n", .ge, .int 9223372036854775807] := by
  have hpieces : " !\tinner in 'it\\'s \\\\n'\r\n>= 9223372036854775807".toList =
      [' '] ++ "!".toList ++ (['\t'] ++ "inner".toList ++ ([' '] ++ "in".toList ++
        ([' '] ++ '\'' :: ("it's \\n".toList.flatMap (escape '\'') ++ ['\'']) ++
          (['\r', '\n'] ++ ">=".toList ++
            ([' '] ++ (List.replicate 0 '0' ++ Nat.toDigits 10 9223372036854775807) ++ []))))) := by
    decide
  have h : Written [.not, .ident "inner", .isIn, .text "it's \\n", .ge, .int 9223372036854775807]
      " !\tinner in 'it\\'s \\\\n'\r\n>= 9223372036854775807".toList := by
    rw [hpieces]
    refine .cons (by decide) (.fixed rfl) (by decide) ?_
    refine .cons (by decide) (.ident (by decide) (by decide)) (by decide) ?_
    refine .cons (by decide) (.fixed rfl) (by decide) ?_
    refine .cons (by decide) (.text (.inl rfl) _) (by decide) ?_
    refine .cons (by decide) (.fixed rfl) (by decide) ?_
    exact .cons (by decide) (.int (by decide) 0) (by decide) (.nil (by decide))
  exact ⟨h, tokenize_written h⟩

end Regrant.Token
