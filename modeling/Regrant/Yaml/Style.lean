import Regrant.Yaml.Scalar

/-!
# How scalars are written in YAML

Text is written plain where it can be, and it cannot where it would read as something else than
text, or as more than one token.  Otherwise it is quoted; text of several lines is a block.
`Style.of` chooses, `Style.text` writes.
-/

namespace Regrant.Yaml

/-- Characters that can stand for themselves. -/
def isPrintable (c : Char) : Bool :=
  let n := c.toNat
  c = '\n' || (0x20 ≤ n && n ≤ 0x7E) || (0xA0 ≤ n && n ≤ 0xFFFD && c ≠ byteOrderMark) || 0x10000 ≤ n

/-- Some character that passes one test stands right before one that passes another. -/
def hasPair (p q : Char → Bool) : List Char → Bool
  | a :: b :: rest => (p a && q b) || hasPair p q (b :: rest)
  | _ => false

def isSpace (c : Char) : Bool := c = ' '

/-- The first character has a meaning of its own at the start of a token. -/
def startsWithIndicator : List Char → Bool
  | '-' :: '-' :: '-' :: _ => true
  | '.' :: '.' :: '.' :: _ => true
  | '-' :: r => isGap r
  | '?' :: r => isGap r
  | c :: _ => c ∈ ['#', ',', '[', ']', '\x7b', '\x7d', '&', '*', '!', '|', '>', '\'', '"', '%', '@',
      '\x60']
  | [] => false

/-- A colon before white space, or a number sign after it. -/
def hasIndicator : List Char → Bool
  | ':' :: r => isGap r || hasIndicator r
  | c :: '#' :: r => isBlank c || isBreak c || hasIndicator ('#' :: r)
  | _ :: r => hasIndicator r
  | [] => false

/-- Text that would not read back as text if it were plain. -/
def isAmbiguous (s : String) : Bool :=
  Plain.zeroLed s.toList || (match Plain.resolve s with
    | .text _ => false
    | _ => true)

inductive Style where
  | plain
  | single
  | double
  | literal
deriving DecidableEq

namespace Style

/-- Nothing in the text asks for escapes. -/
def fitsSingle (cs : List Char) : Bool :=
  cs.all isPrintable && !hasPair isSpace isBreak cs && !hasPair isBreak isSpace cs

def fitsPlain (cs : List Char) : Bool :=
  cs.all isPrintable && !cs.any isBreak && !cs.head?.any isSpace && !cs.getLast?.any isSpace
    && !startsWithIndicator cs && !hasIndicator cs

def fitsLiteral (cs : List Char) : Bool :=
  cs.all isPrintable && !hasPair isSpace isBreak cs && !cs.getLast?.any isSpace

/-- The style in which text is written. -/
def of (s : String) : Style :=
  let cs := s.toList
  if '\n' ∈ cs then (if fitsLiteral cs then literal else double)
  else if !isAmbiguous s && fitsPlain cs then plain
  else if fitsSingle cs then single
  else double

/-! ### Text -/

def margin (n : Nat) : List Char := List.replicate n ' '

/-- Text between single quotes; after a line break comes an indentation. -/
def singleText (indent : Nat) (afterBreak : Bool) : List Char → List Char
  | [] => (if afterBreak then margin indent else []) ++ ['\'']
  | c :: r =>
    if isBreak c then c :: singleText indent true r
    else
      let shown := if c = '\'' then ['\'', '\''] else [c]
      (if afterBreak then margin indent else []) ++ shown ++ singleText indent false r

/-- Hexadecimal digits of a number, so many of them. -/
def hexDigits : Nat → Nat → List Char
  | 0, _ => []
  | k + 1, n => hexDigits k (n / 16) ++ [(Nat.digitChar (n % 16)).toUpper]

/-- The letter that stands for a character after a backslash. -/
def shortEscape? : Char → Option Char
  | '\x00' => some '0'
  | '\x07' => some 'a'
  | '\x08' => some 'b'
  | '\t' => some 't'
  | '\n' => some 'n'
  | '\x0b' => some 'v'
  | '\x0c' => some 'f'
  | '\r' => some 'r'
  | '\x1b' => some 'e'
  | '"' => some '"'
  | '\\' => some '\\'
  | '\u0085' => some 'N'
  | '\u2028' => some 'L'
  | '\u2029' => some 'P'
  | _ => none

def doubleChar (c : Char) : List Char :=
  match shortEscape? c with
  | some e => ['\\', e]
  | none =>
    if isPrintable c then [c]
    else if c.toNat ≤ 0xFF then '\\' :: 'x' :: hexDigits 2 c.toNat
    else if c.toNat ≤ 0xFFFF then '\\' :: 'u' :: hexDigits 4 c.toNat
    else '\\' :: 'U' :: hexDigits 8 c.toNat

/-- The lines of a block, each behind its indentation; empty lines have none. -/
def literalText (indent : Nat) (atStart : Bool) : List Char → List Char
  | [] => []
  | c :: r =>
    if isBreak c then c :: literalText indent true r
    else (if atStart then margin indent else []) ++ c :: literalText indent false r

/-- The signs of a block: an indentation if its first line cannot show it, and what becomes of its
last line break. -/
def literalHeader (cs : List Char) : List Char :=
  let indentation := if cs.head?.any (fun c => isSpace c || isBreak c) then ['2'] else []
  let chomping := match cs.reverse with
    | c :: rest =>
      if !isBreak c then ['-']
      else if rest.isEmpty || rest.head?.any isBreak then ['+']
      else []
    | [] => ['-']
  '|' :: (indentation ++ chomping)

/-- Text in a style, further lines being indented by so many blanks. -/
def text (indent : Nat) (style : Style) (s : String) : String :=
  let cs := s.toList
  String.ofList <| match style with
    | plain => cs
    | single => '\'' :: singleText indent false cs
    | double => '"' :: (cs.flatMap doubleChar ++ ['"'])
    | literal => literalHeader cs ++ '\n' :: literalText indent true cs

end Style

end Regrant.Yaml
