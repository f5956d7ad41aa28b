import Regrant.Expr.Fault
import Regrant.Number.Width

/-!
# Cutting an expression into tokens

Blanks, tabs and line ends separate tokens and are dropped.  Everything else is read from left to
right, and each token takes as many characters as it can.  `lexeme_length` says that a token is
never empty, which is why `tokenize` ends.
-/

namespace Regrant.Token

def isBlank (c : Char) : Bool := c = ' ' || c = '\t' || c = '\n' || c = '\r'

def isNameStart (c : Char) : Bool := c.isAlpha || c = '_'

def isNamePart (c : Char) : Bool := c.isAlphanum || c = '_'

/-! ### Texts -/

/-- The character that an escape stands for. -/
def unescape : Char → Char
  | 'n' => '\n'
  | 't' => '\t'
  | c => c

/-- The text up to the quote that closes it, and what follows the quote. -/
def closeText (quote : Char) : List Char → Option (List Char × List Char)
  | [] => none
  | '\\' :: c :: r => (closeText quote r).map (fun (s, rest) => (unescape c :: s, rest))
  | c :: r =>
    if c = quote then some ([], r)
    else if c = '\\' then none
    else (closeText quote r).map (fun (s, rest) => (c :: s, rest))

/-! ### Numbers -/

/-- The digits at the start of a text, and the points that stand before a digit. -/
def spanNumber : List Char → List Char × List Char
  | [] => ([], [])
  | '.' :: d :: r =>
    if d.isDigit then
      let (n, rest) := spanNumber (d :: r)
      ('.' :: n, rest)
    else ([], '.' :: d :: r)
  | c :: r =>
    if c.isDigit then
      let (n, rest) := spanNumber r
      (c :: n, rest)
    else ([], c :: r)

/-- The token that digits and points spell. -/
def ofDigits (ds : List Char) : Except SyntaxFault Token :=
  if ds.contains '.' then
    let whole := ds.takeWhile (· ≠ '.')
    let frac := (ds.dropWhile (· ≠ '.')).drop 1
    if frac.contains '.' then .error (.invalidFloat (String.ofList ds))
    else .ok (.float (Binary64.ofDecimal Bool.false (natOfDigits (whole ++ frac))
      (- (frac.length : Int))))
  else
    let n := natOfDigits ds
    if FitsInt64 n then .ok (.int n) else .error (.invalidInteger (String.ofList ds))

/-! ### Words -/

def ofWord : String → Token
  | "true" => .true
  | "false" => .false
  | "null" => .null
  | "in" => .isIn
  | w => .ident w

/-! ### Tokens -/

/-- The token that starts with the character `c`, which is not blank, and what follows it. -/
def lexeme (c : Char) (r : List Char) : Except SyntaxFault (Token × List Char) :=
  match c, r with
  | '.', r => .ok (.dot, r)
  | ',', r => .ok (.comma, r)
  | '(', r => .ok (.openParen, r)
  | ')', r => .ok (.closeParen, r)
  | '[', r => .ok (.openBracket, r)
  | ']', r => .ok (.closeBracket, r)
  | '+', r => .ok (.plus, r)
  | '?', r => .ok (.question, r)
  | ':', r => .ok (.colon, r)
  | '=', '=' :: r => .ok (.eq, r)
  | '!', '=' :: r => .ok (.ne, r)
  | '!', r => .ok (.not, r)
  | '>', '=' :: r => .ok (.ge, r)
  | '>', r => .ok (.gt, r)
  | '<', '=' :: r => .ok (.le, r)
  | '<', r => .ok (.lt, r)
  | '&', '&' :: r => .ok (.and, r)
  | '|', '|' :: r => .ok (.or, r)
  | c, r =>
    if c = '"' ∨ c = '\'' then
      match closeText c r with
      | some (s, rest) => .ok (.text (String.ofList s), rest)
      | none => .error .unterminatedText
    else if c.isDigit then
      let (ds, rest) := spanNumber r
      (ofDigits (c :: ds)).map (·, rest)
    else if isNameStart c then
      .ok (ofWord (String.ofList (c :: r.takeWhile isNamePart)), r.dropWhile isNamePart)
    else .error (.unexpectedCharacter c)

theorem closeText_length {q : Char} {cs s rest : List Char}
    (h : closeText q cs = some (s, rest)) : rest.length < cs.length := by
  fun_induction closeText q cs generalizing s rest with
  | case1 => simp at h
  | case2 c r ih =>
    obtain ⟨⟨s', rest'⟩, h', he⟩ := Option.map_eq_some_iff.1 h
    simp only [Prod.mk.injEq] at he
    have := ih h'
    simp only [List.length_cons, ← he.2]
    omega
  | case3 r => simp at h; simp [h.2]
  | case4 => simp at h
  | case5 c r _ _ _ ih =>
    obtain ⟨⟨s', rest'⟩, h', he⟩ := Option.map_eq_some_iff.1 h
    simp only [Prod.mk.injEq] at he
    have := ih h'
    simp only [List.length_cons, ← he.2]
    omega

theorem spanNumber_length (cs : List Char) : (spanNumber cs).2.length ≤ cs.length := by
  fun_induction spanNumber cs <;> simp_all <;> omega

theorem dropWhile_length {α : Type} (p : α → Bool) (l : List α) :
    (l.dropWhile p).length ≤ l.length := by
  induction l with
  | nil => simp
  | cons a l ih => rw [List.dropWhile_cons]; split <;> simp; omega

theorem lexeme_length {c : Char} {r : List Char} {t : Token} {rest : List Char}
    (h : lexeme c r = .ok (t, rest)) : rest.length ≤ r.length := by
  unfold lexeme at h
  split at h
  case h_19 =>
    split at h
    · split at h
      · rename_i hc
        cases h
        exact Nat.le_of_lt (closeText_length hc)
      · cases h
    · split at h
      · have := spanNumber_length r
        cases hd : ofDigits (c :: (spanNumber r).1) <;> simp [hd, Except.map] at h
        rw [← h.2]
        exact this
      · split at h
        · cases h
          exact dropWhile_length _ _
        · cases h
  all_goals (cases h; simp)

/-- The tokens of a text. -/
def tokenize (cs : List Char) : Except SyntaxFault (List Token) :=
  match cs with
  | [] => .ok []
  | c :: r =>
    if isBlank c then tokenize r
    else match h : lexeme c r with
      | .error e => .error e
      | .ok (t, rest) =>
        have := lexeme_length h
        (tokenize rest).map (t :: ·)
termination_by cs.length

end Regrant.Token
