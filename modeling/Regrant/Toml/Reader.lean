import Regrant.Document
import Regrant.Number.Width
import Regrant.Toml.Basic

/-!
# Reading TOML

A text is a list of lines, each a header, a key with its value, or nothing but a comment.  The
values of a line go to the table of the last header.
-/

namespace Regrant.Toml

/-! ### Characters -/

def isBlank (c : Char) : Bool := c = ' ' || c = '\t'

/-- No control characters stand in comments and on lines of text. -/
def isAllowed (c : Char) : Bool := c = '\t' || (0x20 ≤ c.toNat && c.toNat ≠ 0x7F)

def isKeyChar (c : Char) : Bool := c.isAlphanum || c = '_' || c = '-'

def skipBlanks (cs : List Char) : List Char := cs.dropWhile isBlank

/-- What follows a line break. -/
def afterBreak? : List Char → Option (List Char)
  | '\n' :: r => some r
  | '\r' :: '\n' :: r => some r
  | _ => none

def skipComment (cs : List Char) : List Char :=
  match cs with
  | '#' :: r => r.dropWhile isAllowed
  | cs => cs

/-- Past blanks, a comment and the line break, or the end of the text. -/
def endLine? (cs : List Char) : Option (List Char) :=
  match skipComment (skipBlanks cs) with
  | [] => some []
  | cs => afterBreak? cs

/-- Past blanks, comments and line breaks; each step has to leave a shorter rest. -/
def skipLines (cs : List Char) : List Char :=
  match afterBreak? (skipComment (skipBlanks cs)) with
  | some r => if r.length < cs.length then skipLines r else cs
  | none => skipBlanks cs
termination_by cs.length

/-! ### Text -/

def unescape : Char → Option Char
  | 'b' => some '\x08'
  | 't' => some '\t'
  | 'n' => some '\n'
  | 'f' => some '\x0c'
  | 'r' => some '\r'
  | '"' => some '"'
  | '\\' => some '\\'
  | _ => none

/-- The character with this hexadecimal number. -/
def charOfHex? (ds : List Char) : Option Char := do
  let n ← Plain.natOfBase? 16 ds
  if n < 0xD800 ∨ (0xDFFF < n ∧ n ≤ 0x10FFFF) then some (Char.ofNat n) else none

abbrev TextAndRest := Option (List Char × List Char)

/-- A text of one line whose opening quote has been read. -/
def basicFrom (out : List Char) : List Char → TextAndRest
  | '"' :: r => some (out.reverse, r)
  | '\\' :: 'u' :: a :: b :: c :: d :: r => do
    basicFrom ((← charOfHex? [a, b, c, d]) :: out) r
  | '\\' :: 'U' :: a :: b :: c :: d :: e :: f :: g :: h :: r => do
    basicFrom ((← charOfHex? [a, b, c, d, e, f, g, h]) :: out) r
  | '\\' :: c :: r => do basicFrom ((← unescape c) :: out) r
  | c :: r => if isAllowed c then basicFrom (c :: out) r else none
  | [] => none

/-- A text of several lines; `skipping` is set while white space behind an escaped line break is
passed. -/
def basicLinesFrom (skipping : Bool) (out : List Char) : List Char → TextAndRest
  | '"' :: '"' :: '"' :: '"' :: '"' :: r => some (('"' :: '"' :: out).reverse, r)
  | '"' :: '"' :: '"' :: '"' :: r => some (('"' :: out).reverse, r)
  | '"' :: '"' :: '"' :: r => some (out.reverse, r)
  | '\\' :: 'u' :: a :: b :: c :: d :: r => do
    basicLinesFrom false ((← charOfHex? [a, b, c, d]) :: out) r
  | '\\' :: 'U' :: a :: b :: c :: d :: e :: f :: g :: h :: r => do
    basicLinesFrom false ((← charOfHex? [a, b, c, d, e, f, g, h]) :: out) r
  | '\\' :: c :: r =>
    if (afterBreak? (skipBlanks (c :: r))).isSome then basicLinesFrom true out (c :: r)
    else do basicLinesFrom false ((← unescape c) :: out) r
  | '\r' :: '\n' :: r => basicLinesFrom skipping (if skipping then out else '\n' :: out) r
  | c :: r =>
    if skipping && (isBlank c || c = '\n') then basicLinesFrom true out r
    else if isAllowed c || c = '\n' then basicLinesFrom false (c :: out) r
    else none
  | [] => none

/-- A text without escapes. -/
def literalFrom (out : List Char) : List Char → TextAndRest
  | '\'' :: r => some (out.reverse, r)
  | c :: r => if isAllowed c then literalFrom (c :: out) r else none
  | [] => none

def literalLinesFrom (out : List Char) : List Char → TextAndRest
  | '\'' :: '\'' :: '\'' :: '\'' :: '\'' :: r => some (('\'' :: '\'' :: out).reverse, r)
  | '\'' :: '\'' :: '\'' :: '\'' :: r => some (('\'' :: out).reverse, r)
  | '\'' :: '\'' :: '\'' :: r => some (out.reverse, r)
  | '\r' :: '\n' :: r => literalLinesFrom ('\n' :: out) r
  | c :: r => if isAllowed c || c = '\n' then literalLinesFrom (c :: out) r else none
  | [] => none

/-- A line break right after the opening quotes does not count. -/
def skipFirstBreak (cs : List Char) : List Char := (afterBreak? cs).getD cs

/-- A text in any kind of quotes. -/
def textAt : List Char → TextAndRest
  | '"' :: '"' :: '"' :: r => basicLinesFrom false [] (skipFirstBreak r)
  | '"' :: r => basicFrom [] r
  | '\'' :: '\'' :: '\'' :: r => literalLinesFrom [] (skipFirstBreak r)
  | '\'' :: r => literalFrom [] r
  | _ => none

/-! ### Keys -/

/-- One name of a key: bare, or in quotes on one line. -/
def nameAt (cs : List Char) : Option (String × List Char) :=
  match cs with
  | '"' :: r => (basicFrom [] r).map fun (s, r) => (String.ofList s, r)
  | '\'' :: r => (literalFrom [] r).map fun (s, r) => (String.ofList s, r)
  | cs =>
    let name := cs.takeWhile isKeyChar
    if name.isEmpty then none else some (String.ofList name, cs.dropWhile isKeyChar)

/-- The names of a key, between dots; each step has to leave a shorter rest. -/
def keyAt (cs : List Char) : Option (List String × List Char) :=
  match nameAt (skipBlanks cs) with
  | none => none
  | some (name, r) => match skipBlanks r with
    | '.' :: r =>
      if r.length < cs.length then (keyAt r).map fun (names, r) => (name :: names, r) else none
    | r => some ([name], r)
termination_by cs.length

/-! ### Numbers and moments -/

/-- Digits, with low lines between them only. -/
def digits? (isDigit : Char → Bool) (cs : List Char) : Option (List Char) :=
  let parts := cs.splitOnP (· = '_')
  if parts.all (fun p => !p.isEmpty && p.all isDigit) then some parts.flatten else none

def splitSign : List Char → Option Char × List Char
  | '+' :: r => (some '+', r)
  | '-' :: r => (some '-', r)
  | r => (none, r)

/-- Decimal digits without a leading zero. -/
def decimalDigits? (cs : List Char) : Option (List Char) := do
  let ds ← digits? Char.isDigit cs
  if 1 < cs.length ∧ cs.head? = some '0' then none else some ds

def int? (cs : List Char) : Option Int := do
  let n ← match cs with
    | '0' :: 'x' :: r => based 16 r
    | '0' :: 'o' :: r => based 8 r
    | '0' :: 'b' :: r => based 2 r
    | cs =>
      let (sign, r) := splitSign cs
      let n : Int := natOfDigits (← decimalDigits? r)
      some (if sign = some '-' then -n else n)
  if FitsInt64 n then some n else none
where
  based (base : Nat) (cs : List Char) : Option Int := do
    let ds ← digits? (fun c => (Plain.hexValue? c).isSome) cs
    let n ← Plain.natOfBase? base ds
    return n

/-- A number with a fraction or an exponent, or one of the words for infinity and no number.  It
must not be too large to be held. -/
def float? (cs : List Char) : Option FloatReading := do
  let (sign, body) := splitSign cs
  if body = ['i', 'n', 'f'] then return .infinite (sign = some '-')
  if body = ['n', 'a', 'n'] then return .notANumber
  let isMark (c : Char) : Bool := c = '.' || c = 'e' || c = 'E'
  let whole ← decimalDigits? (body.takeWhile (fun c => !isMark c))
  let rest := body.dropWhile (fun c => !isMark c)
  let (frac, rest) ← match rest with
    | '.' :: r =>
      let isExponent (c : Char) : Bool := c = 'e' || c = 'E'
      let ds ← digits? Char.isDigit (r.takeWhile (fun c => !isExponent c))
      pure ('.' :: ds, r.dropWhile (fun c => !isExponent c))
    | r => pure ([], r)
  let exponent ← match rest with
    | [] => pure []
    | _ :: r =>
      let (sign, r) := splitSign r
      let ds ← digits? Char.isDigit r
      pure ('e' :: (sign.toList ++ ds))
  if frac.isEmpty && exponent.isEmpty then none
  match readFloat (sign.toList ++ whole ++ frac ++ exponent) with
  | some (.infinite false) => none
  | x => x

def twoDigits? (low high : Nat) : List Char → Option Nat
  | [a, b] => (natOfDigits? [a, b]).filter fun n => low ≤ n && n ≤ high
  | _ => none

def isLeapYear (year : Nat) : Bool := year % 4 = 0 && (year % 100 ≠ 0 || year % 400 = 0)

def daysOf (year month : Nat) : Nat :=
  if month = 2 then (if isLeapYear year then 29 else 28)
  else if month ∈ [4, 6, 9, 11] then 30
  else 31

/-- A date at the start of the text. -/
def dateAt : List Char → Option (List Char × List Char)
  | a :: b :: c :: d :: '-' :: e :: f :: '-' :: g :: h :: r => do
    let year ← natOfDigits? [a, b, c, d]
    let month ← twoDigits? 1 12 [e, f]
    let _ ← twoDigits? 1 (daysOf year month) [g, h]
    return ([a, b, c, d, '-', e, f, '-', g, h], r)
  | _ => none

/-- The fraction of a second: at most nine digits, without zeros at the end. -/
def fractionText (ds : List Char) : List Char :=
  match ((ds.take 9).reverse.dropWhile (· = '0')).reverse with
  | [] => []
  | ds => '.' :: ds

/-- A time of day at the start of the text. -/
def timeAt : List Char → Option (List Char × List Char)
  | a :: b :: ':' :: c :: d :: ':' :: e :: f :: r => do
    let _ ← twoDigits? 0 23 [a, b]
    let _ ← twoDigits? 0 59 [c, d]
    let _ ← twoDigits? 0 60 [e, f]
    let time := [a, b, ':', c, d, ':', e, f]
    match r with
    | '.' :: r =>
      let ds := r.takeWhile Char.isDigit
      if ds.isEmpty then none else some (time ++ fractionText ds, r.dropWhile Char.isDigit)
    | r => some (time, r)
  | _ => none

/-- The distance of a time from the universal one. -/
def offset? : List Char → Option (List Char)
  | [] => some []
  | ['Z'] => some ['Z']
  | ['z'] => some ['Z']
  | [sign, a, b, ':', c, d] => do
    if sign ≠ '+' ∧ sign ≠ '-' then none
    let _ ← twoDigits? 0 23 [a, b]
    let _ ← twoDigits? 0 59 [c, d]
    return [sign, a, b, ':', c, d]
  | _ => none

/-- A date, a time or both, in the form in which it is shown. -/
def moment? (cs : List Char) : Option (List Char) :=
  match dateAt cs with
  | some (date, []) => some date
  | some (date, c :: r) =>
    if c = 'T' ∨ c = 't' ∨ c = ' ' then do
      let (time, r) ← timeAt r
      return date ++ 'T' :: (time ++ (← offset? r))
    else none
  | none => match timeAt cs with
    | some (time, []) => some time
    | _ => none

/-- The characters of words, numbers and moments. -/
def isWordChar (c : Char) : Bool := isKeyChar c || c = '+' || c = '.' || c = ':'

/-- A word at the start of the text; a blank may part a date from a time. -/
def wordAt (cs : List Char) : List Char × List Char :=
  let word := cs.takeWhile isWordChar
  match dateAt word, cs.dropWhile isWordChar with
  | some (_, []), ' ' :: r =>
    if (r.head?.any Char.isDigit) then
      (word ++ ' ' :: r.takeWhile isWordChar, r.dropWhile isWordChar)
    else (word, ' ' :: r)
  | _, r => (word, r)

/-- What a word stands for. -/
def ofWord? (cs : List Char) : Option Toml :=
  if cs = ['t', 'r', 'u', 'e'] then some (.bool true)
  else if cs = ['f', 'a', 'l', 's', 'e'] then some (.bool false)
  else match moment? cs with
    | some m => some (.moment (String.ofList m))
    | none => match int? cs with
      | some n => some (.int n)
      | none => (float? cs).map .float

/-! ### Values -/

mutual
/-- A value, nested no deeper than `n`. -/
def valueAt : Nat → List Char → Option (Toml × List Char)
  | 0, _ => none
  | n + 1, cs => match cs with
    | '[' :: r => (itemsAt n r).map fun (l, r) => (.list l, r)
    | '\x7b' :: r => match skipBlanks r with
      | '\x7d' :: r => some (.table .braces [], r)
      | r => (fieldsAt n [] r).map fun (fs, r) => (.table .braces fs, r)
    | '"' :: _ => (textAt cs).map fun (s, r) => (.text (String.ofList s), r)
    | '\'' :: _ => (textAt cs).map fun (s, r) => (.text (String.ofList s), r)
    | cs => let (word, r) := wordAt cs; (ofWord? word).map (·, r)
termination_by structural n => n

/-- The items of a list whose opening bracket has been read. -/
def itemsAt : Nat → List Char → Option (List Toml × List Char)
  | 0, _ => none
  | n + 1, cs => match skipLines cs with
    | ']' :: r => some ([], r)
    | cs => do
      let (v, r) ← valueAt n cs
      match skipLines r with
      | ',' :: r => (itemsAt n r).map fun (l, r) => (v :: l, r)
      | ']' :: r => some ([v], r)
      | _ => none
termination_by structural n => n

/-- The fields between braces, the first of which comes next. -/
def fieldsAt : Nat → Fields → List Char → Option (Fields × List Char)
  | 0, _, _ => none
  | n + 1, fields, cs => do
    let (keys, r) ← keyAt cs
    match skipBlanks r with
    | '=' :: r =>
      let (v, r) ← valueAt n (skipBlanks r)
      let (_, fields) ← assign keys v .braces fields
      match skipBlanks r with
      | ',' :: r => fieldsAt n fields r
      | '\x7d' :: r => some (fields, r)
      | _ => none
    | _ => none
termination_by structural n => n
end

/-! ### Lines -/

/-- The root table, and the keys of the last header. -/
structure Progress where
  root : Fields
  header : List String

namespace Progress

/-- Change the table of the last header. -/
def change (p : Progress) (keys : List String) (f : Change) : Option Progress := do
  let (_, root) ← within .implied f keys .header p.root
  return { p with root }

/-- A header starts a table, or one more of repeated tables. -/
def openHeader (p : Progress) (keys : List String) (repeated : Bool) : Option Progress := do
  let key ← keys.getLast?
  let p ← p.change keys.dropLast (if repeated then openRepeated key else openTable key)
  return { p with header := keys }

/-- A line that is not empty, up to where it has to end. -/
def line (p : Progress) (cs : List Char) : Option (Progress × List Char) :=
  match cs with
  | '[' :: '[' :: r => do
    let (keys, r) ← keyAt r
    match skipBlanks r with
    | ']' :: ']' :: r => return (← p.openHeader keys true, r)
    | _ => none
  | '[' :: r => do
    let (keys, r) ← keyAt r
    match skipBlanks r with
    | ']' :: r => return (← p.openHeader keys false, r)
    | _ => none
  | cs => do
    let (keys, r) ← keyAt cs
    match skipBlanks r with
    | '=' :: r =>
      let (v, r) ← valueAt (cs.length + 1) (skipBlanks r)
      return (← p.change p.header (assign keys v), r)
    | _ => none

/-- All lines of a text; each step has to leave a shorter rest. -/
def lines (p : Progress) (cs : List Char) : Option Progress :=
  match skipLines cs with
  | [] => some p
  | '#' :: r => if r.all isAllowed then some p else none
  | rest => match p.line rest with
    | none => none
    | some (p, r) => match endLine? r with
      | none => none
      | some r => if r.length < cs.length then lines p r else none
termination_by cs.length

end Progress

/-- The root table of a text.  A byte order mark may stand in front. -/
def read (text : String) : Option Fields :=
  let cs := match text.toList with
    | c :: r => if c = '\uFEFF' then r else c :: r
    | [] => []
  (Progress.lines ⟨[], []⟩ cs).map (·.root)

end Regrant.Toml
