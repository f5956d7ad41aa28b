import Regrant.Document
import Regrant.Yaml.Cursor

/-!
# Scalars of a YAML text

A scalar is plain, quoted or a block.  Where a plain or quoted scalar runs over several lines, the
white space between its words is a `Gap`: blanks stay, one line break becomes a blank, and of
several line breaks the first is dropped.  A block is a list of lines (`BlockLine`), which are kept
or folded.
-/

namespace Regrant.Yaml

/-! ### Gaps -/

/-- White space inside a scalar. -/
structure Gap where
  /-- Blanks before the first line break. -/
  blanks : List Char
  /-- Line breaks, in reverse. -/
  breaks : List Char
  /-- The first line break was escaped and does not count. -/
  escaped : Bool

namespace Gap

def none : Gap := ⟨[], [], false⟩

def afterEscape : Gap := ⟨[], [], true⟩

/-- There is a line break. -/
def isBroken (g : Gap) : Bool := g.escaped || !g.breaks.isEmpty

def isNone (g : Gap) : Bool := g.blanks.isEmpty && !g.isBroken

def blank (g : Gap) (c : Char) : Gap := if g.isBroken then g else { g with blanks := c :: g.blanks }

def lineBreak (g : Gap) (c : Char) : Gap := { g with blanks := [], breaks := keptBreak c :: g.breaks }

/-- What the white space stands for. -/
def text (g : Gap) : List Char :=
  if g.escaped then g.breaks.reverse
  else match g.breaks.reverse with
    | [] => g.blanks.reverse
    | ['\n'] => [' ']
    | '\n' :: rest => rest
    | breaks => breaks

end Gap

/-- The characters read so far, in reverse, after the gap that follows them. -/
def joinGap (out : List Char) (g : Gap) : List Char := g.text.reverse ++ out

/-! ### Plain scalars -/

/-- A plain scalar ends before these characters. -/
def endsPlain (flow : Bool) : List Char → Bool
  | [] => true
  | ':' :: r => isGap r
  | c :: _ => flow && c ∈ [',', '[', ']', '\x7b', '\x7d']

/-- In a flow collection no colon may stand before an indicator. -/
def badColon (flow : Bool) : List Char → Bool
  | ':' :: c :: _ => flow && c ∈ [',', '?', '[', ']', '\x7b', '\x7d']
  | _ => false

/-- A plain scalar and whether the text went on to another line.  Its lines are indented by at
least `indent` outside of flow collections. -/
def plainFrom (flow : Bool) (indent : Nat) (out : List Char) (g : Gap) (p : Position) :
    List Char → Option (List Char × Bool × Cursor)
  | [] => some (out.reverse, g.isBroken, ⟨p, []⟩)
  | '\r' :: '\n' :: r => plainFrom flow indent out (g.lineBreak '\n') (p.newLine 2) r
  | c :: r =>
    if isBreak c then plainFrom flow indent out (g.lineBreak c) (p.newLine 1) r
    else if isBlank c then
      if g.isBroken && p.column < indent && c = '\t' then none
      else plainFrom flow indent out (g.blank c) (p.advance 1) r
    else
      let stop := some (out.reverse, g.isBroken, ⟨p, c :: r⟩)
      if !g.isNone && ((!flow && p.column < indent) || isDocumentMark p.column (c :: r) || c = '#')
      then stop
      else if badColon flow (c :: r) then none
      else if endsPlain flow (c :: r) then stop
      else plainFrom flow indent (c :: joinGap out g) .none (p.advance 1) r

/-! ### Quoted scalars -/

/-- A scalar whose opening single quote has been read. -/
def singleFrom (out : List Char) (g : Gap) (p : Position) : List Char → Option (List Char × Cursor)
  | [] => none
  | '\'' :: '\'' :: r => singleFrom ('\'' :: joinGap out g) .none (p.advance 2) r
  | '\'' :: r => some ((joinGap out g).reverse, ⟨p.advance 1, r⟩)
  | '\r' :: '\n' :: r => singleFrom out (g.lineBreak '\n') (p.newLine 2) r
  | c :: r =>
    if isDocumentMark p.column (c :: r) then none
    else if isBreak c then singleFrom out (g.lineBreak c) (p.newLine 1) r
    else if isBlank c then singleFrom out (g.blank c) (p.advance 1) r
    else singleFrom (c :: joinGap out g) .none (p.advance 1) r

/-- The character that a letter after a backslash stands for. -/
def unescape : Char → Option Char
  | '0' => some '\x00'
  | 'a' => some '\x07'
  | 'b' => some '\x08'
  | 't' => some '\t'
  | '\t' => some '\t'
  | 'n' => some '\n'
  | 'v' => some '\x0b'
  | 'f' => some '\x0c'
  | 'r' => some '\r'
  | 'e' => some '\x1b'
  | ' ' => some ' '
  | '"' => some '"'
  | '/' => some '/'
  | '\\' => some '\\'
  | 'N' => some '\u0085'
  | '_' => some '\u00a0'
  | 'L' => some '\u2028'
  | 'P' => some '\u2029'
  | _ => none

/-- The character with this hexadecimal number. -/
def charOfHex? (ds : List Char) : Option Char := do
  let n ← Plain.natOfBase? 16 ds
  if n < 0xD800 ∨ (0xDFFF < n ∧ n ≤ 0x10FFFF) then some (Char.ofNat n) else none

/-- A scalar whose opening double quote has been read. -/
def doubleFrom (out : List Char) (g : Gap) (p : Position) : List Char → Option (List Char × Cursor)
  | [] => none
  | '"' :: r => some ((joinGap out g).reverse, ⟨p.advance 1, r⟩)
  | '\\' :: '\r' :: '\n' :: r => doubleFrom (joinGap out g) .afterEscape ((p.advance 1).newLine 2) r
  | '\\' :: 'x' :: a :: b :: r => do
    let c ← charOfHex? [a, b]
    doubleFrom (c :: joinGap out g) .none (p.advance 4) r
  | '\\' :: 'u' :: a :: b :: c :: d :: r => do
    let c ← charOfHex? [a, b, c, d]
    doubleFrom (c :: joinGap out g) .none (p.advance 6) r
  | '\\' :: 'U' :: a :: b :: c :: d :: e :: f :: h :: i :: r => do
    let c ← charOfHex? [a, b, c, d, e, f, h, i]
    doubleFrom (c :: joinGap out g) .none (p.advance 10) r
  | '\\' :: c :: r =>
    if isBreak c then doubleFrom (joinGap out g) .afterEscape ((p.advance 1).newLine 1) r
    else do
      let c ← unescape c
      doubleFrom (c :: joinGap out g) .none (p.advance 2) r
  | '\r' :: '\n' :: r => doubleFrom out (g.lineBreak '\n') (p.newLine 2) r
  | c :: r =>
    if isDocumentMark p.column (c :: r) || c = '\\' then none
    else if isBreak c then doubleFrom out (g.lineBreak c) (p.newLine 1) r
    else if isBlank c then doubleFrom out (g.blank c) (p.advance 1) r
    else doubleFrom (c :: joinGap out g) .none (p.advance 1) r

/-! ### Block scalars -/

/-- What becomes of the line breaks at the end of a block. -/
inductive Chomping where
  | strip
  | clip
  | keep
deriving DecidableEq

structure BlockHeader where
  chomping : Chomping
  /-- How far the lines are indented beyond the block around them. -/
  indent : Option Nat

def chompingAt (c : Cursor) : Option Chomping × Cursor :=
  match c.rest with
  | '+' :: _ => (some .keep, c.skip 1)
  | '-' :: _ => (some .strip, c.skip 1)
  | _ => (none, c)

def indentationAt (c : Cursor) : Option Nat × Cursor :=
  match c.rest with
  | x :: _ => if x.isDigit then (some (digitValue x), c.skip 1) else (none, c)
  | [] => (none, c)

/-- The signs after `|` or `>`: a chomping and an indentation, in any order. -/
def blockHeader (c : Cursor) : Option (BlockHeader × Cursor) :=
  let (first, c) := chompingAt c
  let (indent, c) := indentationAt c
  let (second, c) := if first.isNone then chompingAt c else (none, c)
  if indent = some 0 then none else some (⟨(first <|> second).getD .clip, indent⟩, c)

/-- The line breaks of empty lines, the widest indentation before a line break or text, and the
place of that text.  No tab may stand in the indentation. -/
def emptyLines (indent : Option Nat) (breaks : List Char) (widest : Nat) (p : Position) :
    List Char → Option (List Char × Nat × Cursor)
  | [] => some (breaks.reverse, max widest p.column, ⟨p, []⟩)
  | '\r' :: '\n' :: r => emptyLines indent ('\n' :: breaks) (max widest p.column) (p.newLine 2) r
  | c :: r =>
    let inside := indent.all (p.column < ·)
    if c = ' ' ∧ inside then emptyLines indent breaks widest (p.advance 1) r
    else if c = '\t' ∧ inside then none
    else if isBreak c then
      emptyLines indent (keptBreak c :: breaks) (max widest p.column) (p.newLine 1) r
    else some (breaks.reverse, max widest p.column, ⟨p, c :: r⟩)

/-- A line of a block. -/
structure BlockLine where
  text : List Char
  /-- The line break at its end, if there is one. -/
  ending : List Char
  /-- The line breaks of the empty lines after it. -/
  blanks : List Char

/-- The lines with exactly this indentation; each step has to leave a shorter rest. -/
def blockLines (indent : Nat) (c : Cursor) : Option (List BlockLine × Cursor) :=
  if c.column = indent ∧ c.rest ≠ [] then
    let (text, afterText) := c.line
    let (ending, afterBreak) := afterText.lineBreak
    match emptyLines (some indent) [] 0 afterBreak.position afterBreak.rest with
    | none => none
    | some (blanks, _, next) =>
      if next.rest.length < c.rest.length then
        (blockLines indent next).map (fun (ls, c) => (⟨text, ending, blanks⟩ :: ls, c))
      else none
  else some ([], c)
termination_by c.rest.length

def startsBlank : List Char → Bool
  | c :: _ => isBlank c
  | [] => false

/-- The text between two lines.  When folded, a line feed between lines that do not start with a
blank becomes a blank, or goes if empty lines follow. -/
def between (folded : Bool) (before after : BlockLine) : List Char :=
  if folded && before.ending = ['\n'] && !startsBlank before.text && !startsBlank after.text then
    if before.blanks.isEmpty then [' '] else before.blanks
  else before.ending ++ before.blanks

def joinLines (folded : Bool) (chomping : Chomping) : List BlockLine → List Char
  | [] => []
  | [l] => l.text ++ (match chomping with
    | .strip => []
    | .clip => l.ending
    | .keep => l.ending ++ l.blanks)
  | l :: next :: rest => l.text ++ between folded l next ++ joinLines folded chomping (next :: rest)

/-- A block whose `|` or `>` has been read, inside blocks that are indented by less than `outer`. -/
def blockFrom (folded : Bool) (outer : Nat) (c : Cursor) : Option (List Char × Cursor) := do
  let (header, c) ← blockHeader c
  let c ← c.endLine?
  let given := header.indent.map (· + (outer - 1))
  let (blanks, widest, c) ← emptyLines given [] 0 c.position c.rest
  let indent := given.getD (max 1 (max widest outer))
  let (lines, c) ← blockLines indent c
  let leading := if lines.isEmpty && header.chomping ≠ .keep then [] else blanks
  return (leading ++ joinLines folded header.chomping lines, c)

end Regrant.Yaml
