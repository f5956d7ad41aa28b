import Regrant.Document

/-!
# Reading JSON text

Text is cut into tokens, and the tokens are read from left to right with a stack of the lists and
records that are still open.  Numbers without fraction or exponent are exact integers where 64 bits
hold them.  All others are scaled: the leading digits that fit 64 bits are rounded once and then
multiplied or divided by a rounded power of ten.
-/

namespace Regrant.Json

/-! ### Numbers -/

def powerOfTen (n : Nat) : Binary64 := (Binary64.ofDecimal false 1 n).getD (.zero false)

/-- Division by `10 ^ 308`, so many times. -/
def divideByLargest : Nat → Binary64 → Option Binary64
  | 0, x => some x
  | k + 1, x => if x.units = 0 then some x else (x.div (powerOfTen 308)).bind (divideByLargest k)

/-- Division by `10 ^ n`, in steps of at most `10 ^ 308`. -/
def divideByPower (x : Binary64) (n : Nat) : Option Binary64 := do
  let steps := (n - 1) / 308
  let y ← divideByLargest steps x
  if y.units = 0 then some y else y.div (powerOfTen (n - 308 * steps))

/-- `significand * 10 ^ exponent`, rounded at each step. -/
def scaled (negative : Bool) (significand : Nat) (exponent : Int) : Option Binary64 := do
  let x ← Binary64.nearest negative (significand * Binary64.one) 1
  match exponent with
  | .ofNat n =>
    if x.units = 0 then some x
    else if n ≤ 308 then x.mul (powerOfTen n)
    else none
  | .negSucc n => divideByPower x (n + 1)

/-- Append digits to a significand while 64 bits hold it; answers how many digits were left. -/
def fillSignificand (significand : Nat) : List Char → Nat × Nat
  | [] => (significand, 0)
  | d :: ds =>
    let next := 10 * significand + digitValue d
    if next < UInt64.size then fillSignificand next ds else (significand, ds.length + 1)

/-- The number with these digits before and after its point and this exponent. -/
def floatOf (negative : Bool) (whole frac : List Char) (exponent : Int) : Document :=
  let (significand, dropped) := fillSignificand 0 whole
  let (significand, ignored) := fillSignificand significand frac
  match scaled negative significand
      (exponent + (dropped : Int) - ((frac.length - ignored : Nat) : Int)) with
  | some x => .number (.float x)
  | none => .unreadable

/-- The whole number with these digits, exact where 64 bits hold it. -/
def wholeOf (negative : Bool) (digits : List Char) : Document :=
  let n := natOfDigits digits
  if negative then
    if 0 < n ∧ FitsInt64 (- (n : Int)) then .number (.int (- (n : Int))) else floatOf true digits [] 0
  else if n < UInt64.size then .number (.int n) else floatOf false digits [] 0

/-- The number with these digits before its point, these after it, and maybe an exponent. -/
def numberOf (negative : Bool) (whole : List Char) : List Char → Option Int → Document
  | [], none => wholeOf negative whole
  | frac, exponent => floatOf negative whole frac (exponent.getD 0)

/-- One digit or more at the start of the text, and what follows them. -/
def digitsAt (cs : List Char) : Option (List Char × List Char) :=
  if (cs.takeWhile Char.isDigit).isEmpty then none
  else some (cs.takeWhile Char.isDigit, cs.dropWhile Char.isDigit)

/-- Digits that may carry a sign. -/
def integerAt : List Char → Option (Int × List Char)
  | '-' :: r => (digitsAt r).map (fun (ds, r) => (- (natOfDigits ds : Int), r))
  | '+' :: r => (digitsAt r).map (fun (ds, r) => ((natOfDigits ds : Int), r))
  | r => (digitsAt r).map (fun (ds, r) => ((natOfDigits ds : Int), r))

def fractionAt : List Char → Option (List Char × List Char)
  | '.' :: r => digitsAt r
  | r => some ([], r)

def exponentAt : List Char → Option (Option Int × List Char)
  | 'e' :: r => (integerAt r).map (fun (n, r) => (some n, r))
  | 'E' :: r => (integerAt r).map (fun (n, r) => (some n, r))
  | r => some (none, r)

/-- A number without its sign at the start of the text.  No zero leads other digits. -/
def unsignedAt (negative : Bool) (cs : List Char) : Option (Document × List Char) := do
  let (whole, r) ← digitsAt cs
  let (frac, r) ← fractionAt r
  let (exponent, r) ← exponentAt r
  if 1 < whole.length && whole.head? == some '0' then none
  else some (numberOf negative whole frac exponent, r)

/-- A number at the start of the text, and what follows it. -/
def numberAt : List Char → Option (Document × List Char)
  | '-' :: r => unsignedAt true r
  | r => unsignedAt false r

/-! ### Strings -/

/-- A character, or one escaped unit of UTF-16. -/
inductive Piece where
  | char (c : Char)
  | unit (n : Nat)

def unescape : Char → Option Char
  | '"' => some '"'
  | '\\' => some '\\'
  | '/' => some '/'
  | 'b' => some '\x08'
  | 'f' => some '\x0c'
  | 'n' => some '\n'
  | 'r' => some '\r'
  | 't' => some '\t'
  | _ => none

/-- The pieces of a string whose opening quote has been read, and what follows it. -/
def stringAt : List Char → Option (List Piece × List Char)
  | [] => none
  | '"' :: rest => some ([], rest)
  | '\\' :: 'u' :: a :: b :: c :: d :: rest => do
    let n ← Plain.natOfBase? 16 [a, b, c, d]
    let (s, r) ← stringAt rest
    return (.unit n :: s, r)
  | '\\' :: c :: rest => do
    let e ← unescape c
    let (s, r) ← stringAt rest
    return (.char e :: s, r)
  | c :: rest =>
    if c.toNat < 0x20 ∨ c = '\\' then none
    else do
      let (s, r) ← stringAt rest
      return (.char c :: s, r)

/-- The characters that the pieces spell: two surrogates make one, and none stands alone. -/
def joinUnits : List Piece → Option (List Char)
  | [] => some []
  | .char c :: rest => (joinUnits rest).map (c :: ·)
  | .unit n :: .unit m :: rest =>
    if 0xD800 ≤ n ∧ n < 0xDC00 then
      if 0xDC00 ≤ m ∧ m < 0xE000 then
        (joinUnits rest).map (Char.ofNat (0x10000 + (n - 0xD800) * 0x400 + (m - 0xDC00)) :: ·)
      else none
    else if 0xDC00 ≤ n ∧ n < 0xE000 then none
    else (joinUnits (.unit m :: rest)).map (Char.ofNat n :: ·)
  | .unit n :: rest =>
    if 0xD800 ≤ n ∧ n < 0xE000 then none else (joinUnits rest).map (Char.ofNat n :: ·)

def textOf (pieces : List Piece) : Document :=
  match joinUnits pieces with
  | some cs => .text (String.ofList cs)
  | none => .unreadable

/-! ### Tokens -/

inductive Token where
  | openList
  | closeList
  | openRecord
  | closeRecord
  | comma
  | colon
  | scalar (d : Document)

def isBlank (c : Char) : Bool := c = ' ' || c = '\t' || c = '\n' || c = '\r'

/-- One token at the start of the text, and what follows it. -/
def tokenAt : List Char → Option (Token × List Char)
  | '[' :: r => some (.openList, r)
  | ']' :: r => some (.closeList, r)
  | '\x7b' :: r => some (.openRecord, r)
  | '\x7d' :: r => some (.closeRecord, r)
  | ',' :: r => some (.comma, r)
  | ':' :: r => some (.colon, r)
  | 't' :: 'r' :: 'u' :: 'e' :: r => some (.scalar (.bool true), r)
  | 'f' :: 'a' :: 'l' :: 's' :: 'e' :: r => some (.scalar (.bool false), r)
  | 'n' :: 'u' :: 'l' :: 'l' :: r => some (.scalar .null, r)
  | '"' :: r => (stringAt r).map (fun (s, r) => (.scalar (textOf s), r))
  | cs => (numberAt cs).map (fun (d, r) => (.scalar d, r))

/-! ### Each token shortens the text -/

theorem digitsAt_length {cs ds rest : List Char} (h : digitsAt cs = some (ds, rest)) :
    rest.length < cs.length := by
  unfold digitsAt at h
  cases cs with
  | nil => simp at h
  | cons c r =>
    cases hc : c.isDigit with
    | false => simp [hc] at h
    | true =>
      simp only [hc, List.takeWhile_cons_of_pos, List.dropWhile_cons_of_pos, List.isEmpty_cons,
        Bool.false_eq_true, if_false, Option.some.injEq, Prod.mk.injEq] at h
      exact h.2 ▸ Nat.lt_succ_of_le (List.dropWhile_suffix Char.isDigit).length_le

theorem integerAt_length {cs rest : List Char} {n : Int} (h : integerAt cs = some (n, rest)) :
    rest.length < cs.length := by
  unfold integerAt at h
  split at h <;> obtain ⟨⟨ds, r⟩, hd, he⟩ := Option.map_eq_some_iff.1 h <;> cases he
  · exact Nat.lt_succ_of_lt (digitsAt_length hd)
  · exact Nat.lt_succ_of_lt (digitsAt_length hd)
  · exact digitsAt_length hd

theorem fractionAt_length {cs ds rest : List Char} (h : fractionAt cs = some (ds, rest)) :
    rest.length ≤ cs.length := by
  unfold fractionAt at h
  split at h
  · exact Nat.le_succ_of_le (Nat.le_of_lt (digitsAt_length h))
  · cases h
    exact Nat.le_refl _

theorem exponentAt_length {cs rest : List Char} {n : Option Int}
    (h : exponentAt cs = some (n, rest)) : rest.length ≤ cs.length := by
  unfold exponentAt at h
  split at h
  · obtain ⟨⟨n, r⟩, hi, he⟩ := Option.map_eq_some_iff.1 h
    cases he
    exact Nat.le_succ_of_le (Nat.le_of_lt (integerAt_length hi))
  · obtain ⟨⟨n, r⟩, hi, he⟩ := Option.map_eq_some_iff.1 h
    cases he
    exact Nat.le_succ_of_le (Nat.le_of_lt (integerAt_length hi))
  · cases h
    exact Nat.le_refl _

theorem unsignedAt_length {negative : Bool} {cs rest : List Char} {d : Document}
    (h : unsignedAt negative cs = some (d, rest)) : rest.length < cs.length := by
  obtain ⟨⟨whole, r⟩, hw, h⟩ := Option.bind_eq_some_iff.1 h
  obtain ⟨⟨frac, r'⟩, hf, h⟩ := Option.bind_eq_some_iff.1 h
  obtain ⟨⟨e, r''⟩, he, h⟩ := Option.bind_eq_some_iff.1 h
  have := digitsAt_length hw
  have := fractionAt_length hf
  have := exponentAt_length he
  dsimp only at h
  split at h
  · cases h
  · cases h
    omega

theorem numberAt_length {cs rest : List Char} {d : Document} (h : numberAt cs = some (d, rest)) :
    rest.length < cs.length := by
  unfold numberAt at h
  split at h
  · exact Nat.lt_succ_of_lt (unsignedAt_length h)
  · exact unsignedAt_length h

theorem stringAt_length {cs rest : List Char} {s : List Piece} (h : stringAt cs = some (s, rest)) :
    rest.length < cs.length := by
  fun_induction stringAt cs generalizing s rest with
  | case1 => cases h
  | case2 => cases h; simp
  | case3 a b c d r ih =>
    obtain ⟨n, _, h⟩ := Option.bind_eq_some_iff.1 h
    obtain ⟨⟨s', r'⟩, hs, h⟩ := Option.bind_eq_some_iff.1 h
    cases h
    have := ih hs
    simp only [List.length_cons]
    omega
  | case4 c r _ ih =>
    obtain ⟨n, _, h⟩ := Option.bind_eq_some_iff.1 h
    obtain ⟨⟨s', r'⟩, hs, h⟩ := Option.bind_eq_some_iff.1 h
    cases h
    have := ih hs
    simp only [List.length_cons]
    omega
  | case5 => cases h
  | case6 c r _ _ _ _ ih =>
    obtain ⟨⟨s', r'⟩, hs, h⟩ := Option.bind_eq_some_iff.1 h
    cases h
    have := ih hs
    simp only [List.length_cons]
    omega

theorem tokenAt_length {cs rest : List Char} {t : Token} (h : tokenAt cs = some (t, rest)) :
    rest.length < cs.length := by
  unfold tokenAt at h
  split at h
  case h_10 =>
    obtain ⟨⟨s, r⟩, hs, he⟩ := Option.map_eq_some_iff.1 h
    cases he
    exact Nat.lt_succ_of_lt (stringAt_length hs)
  case h_11 =>
    obtain ⟨⟨d, r⟩, hn, he⟩ := Option.map_eq_some_iff.1 h
    cases he
    exact numberAt_length hn
  all_goals
    cases h
    simp only [List.length_cons]
    omega

/-- The tokens of a text. -/
def tokens (cs : List Char) : Option (List Token) :=
  match cs with
  | [] => some []
  | c :: r =>
    if isBlank c then tokens r
    else match h : tokenAt (c :: r) with
      | none => none
      | some (t, rest) =>
        have := tokenAt_length h
        (tokens rest).map (t :: ·)
termination_by cs.length
decreasing_by
  · exact Nat.lt_succ_self r.length
  · assumption

/-! ### Documents -/

/-- A list or record that is still open, its members in reverse. -/
inductive Frame where
  | list (items : List Document)
  | record (fields : List (Document × Document))
  /-- A record whose last key waits for its value. -/
  | field (fields : List (Document × Document)) (key : Document)

/-- What may come next. -/
inductive Expect where
  | value
  | valueOrClose
  | key
  | keyOrClose
  | colon
  | commaOrClose
  | nothing
deriving DecidableEq

/-- Nesting is limited to this many levels. -/
def maxDepth : Nat := 127

/-- Put a finished document where it belongs. -/
def place (d : Document) : List Frame → Option (Expect × List Frame × Option Document)
  | [] => some (.nothing, [], some d)
  | .list items :: fs => some (.commaOrClose, .list (d :: items) :: fs, none)
  | .field fields key :: fs => some (.commaOrClose, .record ((key, d) :: fields) :: fs, none)
  | .record _ :: _ => none

def step (expect : Expect) (frames : List Frame) (t : Token) :
    Option (Expect × List Frame × Option Document) :=
  match t, expect, frames with
  | .scalar d, .value, fs => place d fs
  | .scalar d, .valueOrClose, fs => place d fs
  | .scalar (.text k), .key, .record fields :: fs =>
    some (.colon, .field fields (.text k) :: fs, none)
  | .scalar (.text k), .keyOrClose, .record fields :: fs =>
    some (.colon, .field fields (.text k) :: fs, none)
  | .colon, .colon, fs => some (.value, fs, none)
  | .openList, .value, fs => opened (.list []) .valueOrClose fs
  | .openList, .valueOrClose, fs => opened (.list []) .valueOrClose fs
  | .openRecord, .value, fs => opened (.record []) .keyOrClose fs
  | .openRecord, .valueOrClose, fs => opened (.record []) .keyOrClose fs
  | .closeList, .valueOrClose, .list items :: fs => place (.list items.reverse) fs
  | .closeList, .commaOrClose, .list items :: fs => place (.list items.reverse) fs
  | .closeRecord, .keyOrClose, .record fields :: fs => place (.record fields.reverse) fs
  | .closeRecord, .commaOrClose, .record fields :: fs => place (.record fields.reverse) fs
  | .comma, .commaOrClose, .list items :: fs => some (.value, .list items :: fs, none)
  | .comma, .commaOrClose, .record fields :: fs => some (.key, .record fields :: fs, none)
  | _, _, _ => none
where
  opened (f : Frame) (e : Expect) (fs : List Frame) :
      Option (Expect × List Frame × Option Document) :=
    if fs.length < maxDepth then some (e, f :: fs, none) else none

def build : Expect → List Frame → Option Document → List Token → Option Document
  | _, _, done, [] => done
  | e, fs, _, t :: ts =>
    match step e fs t with
    | some (e', fs', done') => build e' fs' done' ts
    | none => none

/-- The document that a JSON text holds, repeated keys included. -/
def read (s : String) : Option Document := do
  build .value [] none (← tokens s.toList)

/-- The value that a JSON text holds; of two fields with one key the later counts. -/
def parse (s : String) : Option Json := do
  (← read s).toJson?

end Regrant.Json
