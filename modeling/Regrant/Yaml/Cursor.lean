/-!
# Places in a YAML text

A `Cursor` is what is left of a text and where that is.  Columns and lines matter in YAML: the
column of a token opens and closes blocks, and a key has to end on the line on which it starts.
-/

namespace Regrant.Yaml

/-- How many characters and lines lie before a place, and how many characters of its line. -/
structure Position where
  index : Nat
  line : Nat
  column : Nat

namespace Position

def start : Position := ⟨0, 0, 0⟩

/-- After so many more characters of the same line. -/
def advance (p : Position) (n : Nat) : Position := ⟨p.index + n, p.line, p.column + n⟩

/-- After a line break of so many characters. -/
def newLine (p : Position) (n : Nat) : Position := ⟨p.index + n, p.line + 1, 0⟩

end Position

structure Cursor where
  position : Position
  rest : List Char

/-! ### Characters -/

/-- A text holds no control characters but tabs and line breaks. -/
def isAllowed (c : Char) : Bool :=
  let n := c.toNat
  c = '\t' || c = '\n' || c = '\r' || n = 0x85 ||
    (0x20 ≤ n && n ≤ 0x7E) || (0xA0 ≤ n && n ≤ 0xFFFD) || 0x10000 ≤ n

def byteOrderMark : Char := '\uFEFF'

def isBlank (c : Char) : Bool := c = ' ' || c = '\t'

/-- The characters that end a line. -/
def isBreak (c : Char) : Bool :=
  c = '\n' || c = '\r' || c = '\u0085' || c = '\u2028' || c = '\u2029'

/-- A line break is kept as a line feed, but for the line and the paragraph separator. -/
def keptBreak (c : Char) : Char := if c = '\u2028' ∨ c = '\u2029' then c else '\n'

/-- The characters of names: letters, digits, low lines and hyphens of ASCII. -/
def isWord (c : Char) : Bool := c.isAlphanum || c = '_' || c = '-'

/-- Nothing, or nothing but white space, comes next. -/
def isGap : List Char → Bool
  | [] => true
  | c :: _ => isBlank c || isBreak c

/-- The end of the line comes next. -/
def isLineEnd : List Char → Bool
  | [] => true
  | c :: _ => isBreak c

/-- The line `---` or `...` of a document's start or end. -/
def isDocumentMark (column : Nat) : List Char → Bool
  | '-' :: '-' :: '-' :: r => column = 0 && isGap r
  | '.' :: '.' :: '.' :: r => column = 0 && isGap r
  | _ => false

namespace Cursor

def ofText (cs : List Char) : Cursor := ⟨.start, cs⟩

def column (c : Cursor) : Nat := c.position.column

/-- Past so many characters of the same line. -/
def skip (c : Cursor) (n : Nat) : Cursor := ⟨c.position.advance n, c.rest.drop n⟩

/-- The characters up to the first that fails a test, none of them a line break. -/
def span (test : Char → Bool) (c : Cursor) : List Char × Cursor :=
  let taken := c.rest.takeWhile test
  (taken, ⟨c.position.advance taken.length, c.rest.dropWhile test⟩)

def skipWhile (test : Char → Bool) (c : Cursor) : Cursor := (c.span test).2

/-- The rest of the line. -/
def line (c : Cursor) : List Char × Cursor := c.span (fun x => !isBreak x)

/-- The line break that comes next, if any, and the place after it. -/
def lineBreak (c : Cursor) : List Char × Cursor :=
  match c.rest with
  | '\r' :: '\n' :: r => (['\n'], ⟨c.position.newLine 2, r⟩)
  | x :: r => if isBreak x then ([keptBreak x], ⟨c.position.newLine 1, r⟩) else ([], c)
  | [] => ([], c)

/-- Past blanks, a comment and the end of the line; nothing else may stand there. -/
def endLine? (c : Cursor) : Option Cursor :=
  let c := c.skipWhile isBlank
  let c := if c.rest.head? = some '#' then c.line.2 else c
  if isLineEnd c.rest then some c.lineBreak.2 else none

end Cursor

end Regrant.Yaml
