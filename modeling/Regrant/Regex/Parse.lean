import Regrant.Number.Decimal
import Regrant.Document
import Regrant.Regex.Basic

/-!
# Reading regular expressions

A pattern is read from left to right with a stack of the groups that are still open, and so are the
bracketed classes within it.  Neither looking around nor referring back is part of the language.

Flags such as `(?i)` hold to the end of the group in which they are set, so the reader carries them
along and builds what they make of each part.
-/

namespace Regrant.Regex

structure Flags where
  caseless : Bool := false
  multiLine : Bool := false
  dotAll : Bool := false
  anyLineEnd : Bool := false
  unicode : Bool := true
  /-- Blanks and comments are skipped. -/
  extended : Bool := false

namespace Flags

def word (f : Flags) : Charset := if f.unicode then .word else .asciiWord

def fold (f : Flags) (s : Charset) : Charset :=
  if f.caseless then (if f.unicode then s.caseless else s.asciiCaseless) else s

def lineStart (f : Flags) : Look :=
  if f.multiLine then (if f.anyLineEnd then .anyLineStart else .lineStart) else .textStart

def lineEnd (f : Flags) : Look :=
  if f.multiLine then (if f.anyLineEnd then .anyLineEnd else .lineEnd) else .textEnd

/-- All characters but those that end a line. -/
def dot (f : Flags) : Charset := fun c =>
  f.dotAll || (c ≠ '\n' && (c ≠ '\r' || !f.anyLineEnd))

/-- Outside of Unicode mode a class has to keep to ASCII: a byte above matches no character. -/
def admits (f : Flags) (s : Charset) : Bool :=
  f.unicode || !(List.range 128).any (fun i => s (Char.ofNat (128 + i)))

def restrict (f : Flags) (s : Charset) : Charset :=
  if f.unicode then s else fun c => c.toNat < 128 && s c

def set (f : Flags) (value : Bool) : Char → Option Flags
  | 'i' => some { f with caseless := value }
  | 'm' => some { f with multiLine := value }
  | 's' => some { f with dotAll := value }
  | 'R' => some { f with anyLineEnd := value }
  | 'u' => some { f with unicode := value }
  | 'x' => some { f with extended := value }
  | 'U' => some f
  | _ => none

/-- The flags after a list of changes; those behind the dash are switched off. -/
def change (f : Flags) (value : Bool) : List Char → Option Flags
  | [] => some f
  | '-' :: cs => if value && !cs.isEmpty then change f false cs else none
  | c :: cs => if c ∈ cs then none else do change (← f.set value c) value cs

end Flags

/-! ### Blanks and numbers -/

/-- Without the blanks and comments that the extended notation skips. -/
def skipFrom (comment : Bool) : List Char → List Char
  | [] => []
  | c :: cs =>
    if comment then skipFrom (c ≠ '\n') cs
    else if Charset.space c then skipFrom false cs
    else if c = '#' then skipFrom true cs
    else c :: cs

def skip (f : Flags) (cs : List Char) : List Char :=
  if f.extended then skipFrom false cs else cs

/-- Digits, between which the extended notation allows blanks. -/
def digitsAt (f : Flags) (inDigits comment : Bool) : List Char → List Char × List Char
  | [] => ([], [])
  | c :: cs =>
    if comment then digitsAt f inDigits (c ≠ '\n') cs
    else if c.isDigit then
      let (ds, rest) := digitsAt f true false cs
      (c :: ds, rest)
    else if Charset.space c && (f.extended || !inDigits) then digitsAt f inDigits false cs
    else if c = '#' && f.extended && inDigits then digitsAt f inDigits true cs
    else ([], c :: cs)

/-- A number of at most 32 bits with blanks around it. -/
def countAt (f : Flags) (cs : List Char) : Option (Nat × List Char) :=
  let (ds, rest) := digitsAt f false false cs
  let n := natOfDigits ds
  if ds.isEmpty || UInt32.size ≤ n then none else some (n, rest.dropWhile Charset.space)

/-- The bounds of a repetition whose opening brace has been read. -/
def boundsAt (f : Flags) (cs : List Char) : Option ((Nat × Option Nat) × List Char) := do
  let (low, rest) ← countAt f (skip f cs)
  let (extra, rest) ← match rest with
    | ',' :: rest => match skip f rest with
      | '\x7d' :: rest => some (none, '\x7d' :: rest)
      | rest => do
        let (high, rest) ← countAt f rest
        if low ≤ high then some (some (high - low), rest) else none
    | rest => some (some 0, rest)
  match rest with
  | '\x7d' :: rest => match skip f rest with
    | '?' :: rest => some ((low, extra), rest)
    | rest => some ((low, extra), rest)
  | _ => none

/-! ### Escapes -/

/-- What stands for one character or condition. -/
inductive Atom where
  /-- A character; `byte` if it was written as a byte of two hexadecimal digits. -/
  | literal (c : Char) (byte : Bool)
  | look (l : Look)
  | set (s : Charset)

def charOf (n : Nat) : Option Char := if n.isValidChar then some (Char.ofNat n) else none

/-- So many hexadecimal digits. -/
def hexAt (f : Flags) : Nat → Nat → List Char → Option (Nat × List Char)
  | 0, n, cs => some (n, cs)
  | k + 1, n, cs => match skip f cs with
    | c :: cs => do hexAt f k (16 * n + (← Plain.hexValue? c)) cs
    | [] => none

/-- What stands between the brace that has been read and the one that closes it. -/
def bracedAt (f : Flags) (comment : Bool) : List Char → Option (List Char × List Char)
  | [] => none
  | c :: cs =>
    if comment then bracedAt f (c ≠ '\n') cs
    else if f.extended && Charset.space c then bracedAt f false cs
    else if f.extended && c = '#' then bracedAt f true cs
    else if c = '\x7d' then some ([], cs)
    else (bracedAt f false cs).map (fun (s, rest) => (c :: s, rest))

/-- A character given by its number; `digits` of them, or any number in braces. -/
def numberedAt (f : Flags) (digits : Nat) (cs : List Char) : Option (Atom × List Char) :=
  match skip f cs with
  | '\x7b' :: cs => do
    let (ds, rest) ← bracedAt f false cs
    let n ← Plain.natOfBase? 16 ds
    return (.literal (← charOf n) false, rest)
  | cs => do
    let (n, rest) ← hexAt f digits 0 cs
    return (.literal (← charOf n) (digits = 2), rest)

/-- A Unicode class, its letter `p` having been read. -/
def unicodeClassAt (f : Flags) (negated : Bool) (cs : List Char) : Option (Atom × List Char) := do
  if !f.unicode then none
  let (name, rest) ← match skip f cs with
    | '\x7b' :: cs => bracedAt f false cs
    | '\\' :: _ => none
    | c :: cs => some ([c], cs)
    | [] => none
  let s ← Charset.unicode? (String.ofList name)
  return (.set ((f.fold s).negateIf negated), rest)

def isMeta (c : Char) : Bool := "\\.+*?()|[]\x7b\x7d^$#&-~".toList.contains c

/-- A word boundary, plain or of the kind that a name in braces says. -/
def boundaryAt (f : Flags) (cs : List Char) : Option (Atom × List Char) :=
  let plain := some (.look (.boundary f.word), cs)
  match cs with
  | '\x7b' :: r =>
    match skip f r with
    | [] => none
    | c :: _ =>
      if !(c.isAlpha || c = '-') then plain
      else do
        let (name, rest) ← bracedAt f false r
        let l ← match String.ofList name with
          | "start" => some (Look.wordStart f.word)
          | "end" => some (Look.wordEnd f.word)
          | "start-half" => some (Look.notAfterWord f.word)
          | "end-half" => some (Look.notBeforeWord f.word)
          | _ => none
        return (.look l, rest)
  | _ => plain

/-- What follows a backslash. -/
def escapeAt (f : Flags) : List Char → Option (Atom × List Char)
  | [] => none
  | c :: cs =>
    match c with
    | 'x' => numberedAt f 2 cs
    | 'u' => numberedAt f 4 cs
    | 'U' => numberedAt f 8 cs
    | 'p' => unicodeClassAt f false cs
    | 'P' => unicodeClassAt f true cs
    | 'a' => some (.literal '\x07' false, cs)
    | 'f' => some (.literal '\x0c' false, cs)
    | 't' => some (.literal '\t' false, cs)
    | 'n' => some (.literal '\n' false, cs)
    | 'r' => some (.literal '\r' false, cs)
    | 'v' => some (.literal '\x0b' false, cs)
    | 'A' => some (.look .textStart, cs)
    | 'z' => some (.look .textEnd, cs)
    | 'b' => boundaryAt f cs
    | 'B' => some (.look (.notBoundary f.word), cs)
    | '<' => some (.look (.wordStart f.word), cs)
    | '>' => some (.look (.wordEnd f.word), cs)
    | c =>
      match Charset.perl? f.unicode c, Charset.perl? f.unicode c.toLower with
      | some s, _ => some (.set s, cs)
      | none, some s => some (.set (s.negateIf true), cs)
      | none, none =>
        if isMeta c || (c.toNat < 128 && !c.isAlphanum) then some (.literal c false, cs) else none

/-! ### Classes -/

/-- A union of members, how many there are, and the nesting of the deepest. -/
structure Union where
  set : Charset := fun _ => false
  size : Nat := 0
  depth : Nat := 0

namespace Union

def add (u : Union) (s : Charset) (depth : Nat) : Union :=
  ⟨fun c => u.set c || s c, u.size + 1, max u.depth depth⟩

/-- The nesting of the union itself, which counts only if it joins several members. -/
def nesting (u : Union) : Nat := if u.size < 2 then u.depth else u.depth + 1

end Union

/-- An open class or an operator that waits for its right side. -/
inductive ClassFrame where
  | bracket (outer : Union) (negated : Bool)
  | operator (op : Bool → Bool → Bool) (left : Charset) (depth : Nat)

/-- Close the operator on top of the stack, if there is one. -/
def closeOperator (right : Union) : List ClassFrame → Charset × Nat × List ClassFrame
  | .operator op left depth :: frames =>
    (fun c => op (left c) (right.set c), max depth right.nesting + 1, frames)
  | frames => (right.set, right.nesting, frames)

/-- A class whose opening bracket has been read: negation, leading dashes, a leading bracket. -/
def openBracket (f : Flags) (cs : List Char) : Option (Bool × Union × List Char) :=
  let cs := skip f cs
  let (negated, cs) := match cs with
    | '^' :: cs => (true, skip f cs)
    | cs => (false, cs)
  let dashes := cs.takeWhile (· = '-')
  let cs := skip f (cs.dropWhile (· = '-'))
  let u := dashes.foldl (fun u _ => u.add (· = '-') 0) ({} : Union)
  match cs with
  | [] => none
  | ']' :: cs =>
    if dashes.isEmpty then some (negated, u.add (· = ']') 0, skip f cs)
    else some (negated, u, ']' :: cs)
  | cs => some (negated, u, cs)

/-- A class such as `[:alpha:]`. -/
def posixAt : List Char → Option (Charset × List Char)
  | '[' :: ':' :: cs =>
    let (negated, cs) := match cs with
      | '^' :: cs => (true, cs)
      | cs => (false, cs)
    match cs.dropWhile (· ≠ ':') with
    | ':' :: ']' :: rest =>
      (Charset.posix? (String.ofList (cs.takeWhile (· ≠ ':')))).map
        (fun s => (s.negateIf negated, rest))
    | _ => none
  | _ => none

/-- A member of a class: a character, an escape. -/
def memberAt (f : Flags) : List Char → Option (Atom × List Char)
  | '\\' :: cs => escapeAt f cs
  | c :: cs => some (.literal c false, cs)
  | [] => none

/-- A character that is a member of a class under these flags. -/
def literal? (f : Flags) : Atom → Option Char
  | .literal c byte => if f.unicode || byte || c.toNat < 128 then some c else none
  | _ => none

/-- A member, or a range of characters from one to another. -/
def rangeAt (f : Flags) (cs : List Char) : Option (Charset × List Char) := do
  let (first, rest) ← memberAt f cs
  let single : Option (Charset × List Char) := match first with
    | .set s => some (s, skip f rest)
    | .look _ => none
    | atom => (literal? f atom).map (fun c => ((· = c), skip f rest))
  match skip f rest with
  | [] => none
  | '-' :: rest => match skip f rest with
    | ']' :: _ => single
    | '-' :: _ => single
    | rest => do
      let (last, rest) ← memberAt f rest
      let a ← literal? f first
      let b ← literal? f last
      if a ≤ b then some (Charset.range a b, skip f rest) else none
  | _ => single

def operator? : List Char → Option ((Bool → Bool → Bool) × List Char)
  | '&' :: '&' :: cs => some (and, cs)
  | '-' :: '-' :: cs => some (fun a b => a && !b, cs)
  | '~' :: '~' :: cs => some (xor, cs)
  | _ => none

/-- A class, from behind its opening bracket on; each step has to leave a shorter rest. -/
def classFrom (f : Flags) (frames : List ClassFrame) (u : Union) (cs : List Char) :
    Option (Charset × Nat × List Char) :=
  let continueWith (frames : List ClassFrame) (u : Union) (rest : List Char) :=
    if rest.length < cs.length then classFrom f frames u rest else none
  match posixAt (skip f cs), skip f cs with
  | some (s, rest), _ => continueWith frames (u.add (f.fold s) 0) rest
  | none, '[' :: rest => do
    let (negated, inner, rest) ← openBracket f rest
    continueWith (.bracket u negated :: frames) inner rest
  | none, ']' :: rest =>
    let (set, depth, frames) := closeOperator u frames
    match frames with
    | .bracket outer negated :: frames =>
      let set := Charset.negateIf negated set
      if frames.isEmpty then some (set, depth + 1, rest)
      else continueWith frames (outer.add set (depth + 1)) rest
    | _ => none
  | none, cs => match operator? cs with
    | some (op, rest) =>
      let (left, depth, frames) := closeOperator u frames
      continueWith (.operator op left depth :: frames) {} rest
    | none => do
      let (set, rest) ← rangeAt f cs
      continueWith frames (u.add (f.fold set) 0) rest
termination_by cs.length

/-- A class whose opening bracket has been read, with its nesting. -/
def classAt (f : Flags) (cs : List Char) : Option (Charset × Nat × List Char) := do
  let (negated, u, rest) ← openBracket f cs
  classFrom f [.bracket {} negated] u rest

/-! ### Groups -/

/-- A part of a sequence: what it matches, or nothing for a change of flags, and its nesting. -/
structure Part where
  regex : Option Regex
  depth : Nat

/-- Parts and alternatives in reverse. -/
structure Group where
  flags : Flags
  parts : List Part := []
  branches : List Part := []

namespace Group

/-- The alternative that the parts make up. -/
def sequence (g : Group) : Part :=
  match g.parts with
  | [] => ⟨some .empty, 0⟩
  | [p] => ⟨some (p.regex.getD .empty), p.depth⟩
  | parts => ⟨some (parts.foldl (fun r p => .concat (p.regex.getD .empty) r) .empty),
      1 + (parts.map (·.depth)).foldl max 0⟩

def push (g : Group) (regex : Regex) (depth : Nat) : Group :=
  { g with parts := ⟨some regex, depth⟩ :: g.parts }

def nextBranch (g : Group) : Group :=
  { g with parts := [], branches := g.sequence :: g.branches }

/-- What the whole group matches. -/
def close (g : Group) : Part :=
  match g.branches with
  | [] => g.sequence
  | branches => ⟨some (branches.foldl (fun r p => .alternate (p.regex.getD .empty) r)
        (g.sequence.regex.getD .empty)),
      1 + ((g.sequence :: branches).map (·.depth)).foldl max 0⟩

/-- Repeat the last part. -/
def repeatLast (g : Group) (low : Nat) (extra : Option Nat) : Option Group :=
  match g.parts with
  | ⟨some r, depth⟩ :: parts =>
    some { g with parts := ⟨some (.times r low extra), depth + 1⟩ :: parts }
  | _ => none

end Group

def isNameChar (first : Bool) (c : Char) : Bool :=
  c = '_' || Unicode.Property.alphabetic.holds c ||
    (!first && (c = '.' || c = '[' || c = ']' || Unicode.decimalNumber.contains c ||
      Unicode.letterNumber.contains c || Unicode.otherNumber.contains c))

/-- The name of a group, up to `>`. -/
def nameAt (cs : List Char) : Option (String × List Char) :=
  match cs.takeWhile (· ≠ '>'), cs.dropWhile (· ≠ '>') with
  | c :: name, '>' :: rest =>
    if isNameChar true c && name.all (isNameChar false) then
      some (String.ofList (c :: name), rest)
    else none
  | _, _ => none

/-- How a group starts. -/
inductive Opening where
  | group (flags : Flags) (name : Option String)
  | setFlags (flags : Flags)

/-- What follows the parenthesis that opens a group. -/
def openingAt (f : Flags) (cs : List Char) : Option (Opening × List Char) :=
  match skip f cs with
  | '?' :: 'P' :: '<' :: cs => do
    let (name, rest) ← nameAt cs
    return (.group f (some name), rest)
  | '?' :: '<' :: cs => do
    let (name, rest) ← nameAt cs
    return (.group f (some name), rest)
  | '?' :: cs =>
    let changes := cs.takeWhile (fun c => c ≠ ':' && c ≠ ')')
    match cs.dropWhile (fun c => c ≠ ':' && c ≠ ')') with
    | ':' :: rest => do return (.group (← f.change true changes) none, rest)
    | ')' :: rest => do
      if changes.isEmpty then none
      return (.setFlags (← f.change true changes), rest)
    | _ => none
  | cs => some (.group f none, cs)

/-! ### Patterns -/

/-- What an atom matches under these flags. -/
def ofAtom (f : Flags) : Atom → Option Regex
  | .literal c byte =>
    if !f.unicode && byte && 128 ≤ c.toNat then none
    else if f.unicode || c.toNat < 128 then some (.chars (f.fold (· = c)))
    else some (.chars (· = c))
  | .look l => some (.look l)
  | .set s => if f.admits s then some (.chars (f.restrict s)) else none

/-- What stands for one character at the start of the text, with its nesting. -/
def atomAt (f : Flags) : List Char → Option ((Regex × Nat) × List Char)
  | '[' :: cs => do
    let (s, depth, rest) ← classAt f cs
    return ((← ofAtom f (.set s), depth), rest)
  | '\\' :: cs => do
    let (atom, rest) ← escapeAt f cs
    return ((← ofAtom f atom, 0), rest)
  | '.' :: cs => if f.unicode then some ((.chars f.dot, 0), cs) else none
  | '^' :: cs => some ((.look f.lineStart, 0), cs)
  | '$' :: cs => some ((.look f.lineEnd, 0), cs)
  | c :: cs => do return ((← ofAtom f (.literal c false), 0), cs)
  | [] => none

/-- Groups and repetitions may be nested this deep. -/
def maxNesting : Nat := 250

/-- The innermost open group, the groups around it, and the names of groups so far. -/
structure Reader where
  inner : Group
  outer : List Group := []
  names : List String := []

/-- Without the question mark that makes a repetition match as little as possible. -/
def lazyMark : List Char → List Char
  | '?' :: cs => cs
  | cs => cs

/-- One part of the pattern. -/
def Reader.step (s : Reader) (cs : List Char) : Option (Reader × List Char) :=
  let f := s.inner.flags
  let repeated (low : Nat) (extra : Option Nat) (rest : List Char) :=
    (s.inner.repeatLast low extra).map (fun g => ({ s with inner := g }, rest))
  match cs with
  | '(' :: cs => do
    let (opening, rest) ← openingAt f cs
    match opening with
    | .setFlags f =>
      some ({ s with inner := { s.inner with flags := f, parts := ⟨none, 0⟩ :: s.inner.parts } }, rest)
    | .group f name =>
      if name.any (s.names.contains ·) then none
      else some (⟨{ flags := f }, s.inner :: s.outer, name.toList ++ s.names⟩, rest)
  | ')' :: cs => match s.outer with
    | g :: outer =>
      let p := s.inner.close
      some (⟨g.push (p.regex.getD .empty) (p.depth + 1), outer, s.names⟩, cs)
    | [] => none
  | '|' :: cs => some ({ s with inner := s.inner.nextBranch }, cs)
  | '?' :: cs => repeated 0 (some 1) (lazyMark cs)
  | '*' :: cs => repeated 0 none (lazyMark cs)
  | '+' :: cs => repeated 1 none (lazyMark cs)
  | '\x7b' :: cs => do
    let ((low, extra), rest) ← boundsAt f cs
    repeated low extra rest
  | cs => do
    let ((r, depth), rest) ← atomAt f cs
    return ({ s with inner := s.inner.push r depth }, rest)

/-- The pattern from here on; each step has to leave a shorter rest. -/
def Reader.run (s : Reader) (cs : List Char) : Option Part :=
  match skip s.inner.flags cs with
  | [] => if s.outer.isEmpty then some s.inner.close else none
  | c :: r =>
    match s.step (c :: r) with
    | none => none
    | some (s, rest) => if rest.length < cs.length then s.run rest else none
termination_by cs.length

/-- The parts of a regular expression once all its repetitions are written out. -/
def unfolded : Regex → Nat
  | .empty => 0
  | .chars _ => 1
  | .look _ => 1
  | .concat r s => r.unfolded + s.unfolded
  | .alternate r s => r.unfolded + s.unfolded + 1
  | .times r low extra => low * r.unfolded + extra.getD 1 * (r.unfolded + 1)

/-- Patterns that unfold to more parts than this are refused. -/
def maxUnfolded : Nat := 327680

/-- The regular expression that a pattern spells. -/
def parse? (pattern : String) : Option Regex := do
  let p ← Reader.run ⟨{ flags := {} }, [], []⟩ pattern.toList
  let r ← p.regex
  if p.depth ≤ maxNesting ∧ r.unfolded ≤ maxUnfolded then some r else none

end Regrant.Regex
