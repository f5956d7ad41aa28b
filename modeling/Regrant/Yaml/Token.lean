import Regrant.Location.Percent
import Regrant.Yaml.Scalar

/-!
# Tokens of a YAML text

Indentation and keys are made explicit: a block sequence or mapping opens where a line is indented
further and closes where one is indented less, and `key` stands before each key.  A key without `?`
is recognised only at the colon after it; until then every place where it could start is remembered
as a `Candidate`, one for each level of flow collections.
-/

namespace Regrant.Yaml

inductive Token where
  /-- The version line of a document. -/
  | version (major minor : Nat)
  /-- A name for the start of tags. -/
  | tagHandle (handle start : String)
  | documentStart
  | documentEnd
  | openSequence
  | openMapping
  | closeBlock
  | openList
  | closeList
  | openRecord
  | closeRecord
  /-- The hyphen of a block sequence. -/
  | entry
  | comma
  | key
  | value
  | alias (name : String)
  | anchor (name : String)
  | tag (handle suffix : String)
  | plain (s : String)
  | quoted (s : String)
deriving DecidableEq

/-- A place where a key may have started. -/
structure Candidate where
  /-- The number of tokens before it. -/
  before : Nat
  /-- The block around it holds keys only, at this very column. -/
  required : Bool
  place : Position

structure Scanner where
  cursor : Cursor
  tokens : Array Token
  /-- The candidate of each flow collection that is open, innermost first, and that of the block
  around them all. -/
  candidates : List (Option Candidate)
  /-- The columns of the open block collections, innermost first. -/
  columns : List Nat
  /-- A key may start here. -/
  keyAllowed : Bool

namespace Scanner

def ofText (cs : List Char) : Scanner := ⟨.ofText cs, #[], [none], [], true⟩

/-- Inside a flow collection. -/
def inFlow (s : Scanner) : Bool := 1 < s.candidates.length

/-- The least column of text that belongs to the innermost block. -/
def outer (s : Scanner) : Nat :=
  match s.columns with
  | [] => 0
  | c :: _ => c + 1

def emit (s : Scanner) (t : Token) : Scanner := { s with tokens := s.tokens.push t }

def insert (s : Scanner) (before : Nat) (t : Token) : Scanner :=
  { s with tokens := s.tokens.insertIdxIfInBounds before t }

def skip (s : Scanner) (n : Nat) : Scanner := { s with cursor := s.cursor.skip n }

/-! ### Blocks -/

/-- Open a block at a column that lies further in, before the token of this number. -/
def openBlock (s : Scanner) (column before : Nat) (t : Token) : Scanner :=
  if !s.inFlow && s.columns.all (· < column) then
    { s.insert before t with columns := column :: s.columns }
  else s

/-- Close the blocks that lie further in than a column. -/
def closeBlocks (s : Scanner) (keep : Nat → Bool) : Scanner :=
  if s.inFlow then s
  else
    let closed := s.columns.takeWhile (fun c => !keep c)
    { s with
      tokens := s.tokens ++ closed.map (fun _ => Token.closeBlock)
      columns := s.columns.drop closed.length }

/-! ### Candidates for keys -/

/-- Give up the innermost candidate, which must not have been a required key. -/
def dropCandidate (s : Scanner) : Option Scanner :=
  match s.candidates with
  | some c :: cs => if c.required then none else some { s with candidates := none :: cs }
  | _ => some s

/-- A candidate is a key only up to the end of its line and for so many characters. -/
def Candidate.isStale (p : Position) (c : Candidate) : Bool :=
  c.place.line < p.line || c.place.index + 1024 < p.index

/-- Give up the candidates that can no longer be keys. -/
def dropStale (s : Scanner) : Option Scanner := do
  let p := s.cursor.position
  let candidates ← s.candidates.mapM fun
    | some c => if Candidate.isStale p c then (if c.required then none else some none) else some (some c)
    | none => some none
  return { s with candidates }

/-- The token to come may be a key. -/
def addCandidate (s : Scanner) : Option Scanner :=
  if s.keyAllowed then do
    let p := s.cursor.position
    let required := !s.inFlow && s.columns.head? = some p.column
    let s ← s.dropCandidate
    return { s with candidates := some ⟨s.tokens.size, required, p⟩ :: s.candidates.drop 1 }
  else some s

/-! ### White space -/

/-- On a new line a key may start, but for flow collections. -/
def nextLine (s : Scanner) : Scanner := { s with keyAllowed := s.keyAllowed || !s.inFlow }

/-- Past white space and comments, the first of which may have begun already.  A tab is white space
only where no key may start. -/
def skipSpace (s : Scanner) (comment : Bool) (p : Position) : List Char → Scanner
  | [] => { s with cursor := ⟨p, []⟩ }
  | '\r' :: '\n' :: r => s.nextLine.skipSpace false (p.newLine 2) r
  | c :: r =>
    if isBreak c then s.nextLine.skipSpace false (p.newLine 1) r
    else if comment || c = '#' then s.skipSpace true (p.advance 1) r
    else if c = ' ' || (c = '\t' && (s.inFlow || !s.keyAllowed)) then
      s.skipSpace false (p.advance 1) r
    else { s with cursor := ⟨p, c :: r⟩ }

/-! ### Names and tags -/

/-- The name of an anchor. -/
def nameAt (c : Cursor) : Option (String × Cursor) :=
  let (name, c) := c.span isWord
  let ends := isGap c.rest ||
    c.rest.head?.any (· ∈ ['?', ':', ',', ']', '\x7d', '%', '@', '\x60'])
  if name.isEmpty || !ends then none else some (String.ofList name, c)

/-- The start of a tag: `!`, and possibly a name that another `!` ends. -/
def handleAt (c : Cursor) : Option (List Char × Cursor) :=
  match c.rest with
  | '!' :: _ =>
    let (name, c) := (c.skip 1).span isWord
    if c.rest.head? = some '!' then some ('!' :: (name ++ ['!']), c.skip 1)
    else some ('!' :: name, c)
  | _ => none

/-- A handle that has its own end, or is the shortest one. -/
def isClosedHandle (handle : List Char) : Bool :=
  handle = ['!'] || handle.getLast? = some '!'

/-- The characters of a tag; brackets and commas only where the tag has delimiters. -/
def isTagChar (delimited : Bool) (c : Char) : Bool :=
  isWord c || c ∈ [';', '/', '?', ':', '@', '&', '=', '+', '$', '.', '!', '~', '*', '\'', '(', ')', '%']
    || (delimited && c ∈ [',', '[', ']'])

/-- Each `%` has two hexadecimal digits behind it. -/
def areEscapesComplete : List Char → Bool
  | [] => true
  | '%' :: a :: b :: r =>
    (Plain.hexValue? a).isSome && (Plain.hexValue? b).isSome && areEscapesComplete r
  | c :: r => c ≠ '%' && areEscapesComplete r

/-- The text of a tag, decoded. -/
def tagText (delimited : Bool) (c : Cursor) : Option (String × Cursor) := do
  let (cs, c) := c.span (isTagChar delimited)
  if areEscapesComplete cs then
    let s ← Location.decodeText? (Location.percentDecode cs)
    return (s, c)
  else none

/-- A tag: verbatim in angle brackets, or a handle and what it is short for. -/
def tagAt (c : Cursor) : Option (Token × Cursor) := do
  match c.rest with
  | '!' :: '<' :: _ =>
    let (s, c) ← tagText true (c.skip 2)
    if s.isEmpty || c.rest.head? ≠ some '>' then none else return (.tag "" s, c.skip 1)
  | _ =>
    let (handle, c) ← handleAt c
    let (s, c) ← tagText false c
    if 1 < handle.length && isClosedHandle handle then
      if s.isEmpty then none else return (.tag (String.ofList handle) s, c)
    else
      let suffix := String.ofList (handle.drop 1) ++ s
      return (if suffix.isEmpty then .tag "" "!" else .tag "!" suffix, c)

/-! ### Directives -/

/-- A number of at most nine digits. -/
def numberAt (c : Cursor) : Option (Nat × Cursor) := do
  let (ds, c) := c.span Char.isDigit
  if 9 < ds.length then none
  let n ← natOfDigits? ds
  return (n, c)

/-- A line that starts with `%`, the sign having been read. -/
def directiveAt (c : Cursor) : Option (Token × Cursor) := do
  let (name, c) := c.span isWord
  if !isGap c.rest then none
  let c := c.skipWhile isBlank
  let (t, c) ← match String.ofList name with
    | "YAML" => do
      let (major, c) ← numberAt c
      if c.rest.head? ≠ some '.' then none
      let (minor, c) ← numberAt (c.skip 1)
      pure (Token.version major minor, c)
    | "TAG" => do
      let (handle, c) ← handleAt c
      if !isClosedHandle handle || !c.rest.head?.any isBlank then none
      let (start, c) ← tagText true (c.skipWhile isBlank)
      if start.isEmpty || !isGap c.rest then none
      pure (Token.tagHandle (String.ofList handle) start, c)
    | _ => none
  let c ← c.endLine?
  return (t, c)

/-! ### Tokens -/

/-- A token of so many characters that no key can start with. -/
def sign (s : Scanner) (n : Nat) (t : Token) (keyAllowed : Bool) : Option Scanner := do
  let s ← s.dropCandidate
  return { (s.emit t).skip n with keyAllowed }

def documentMark (s : Scanner) (t : Token) : Option Scanner :=
  (s.closeBlocks (fun _ => false)).sign 3 t false

def openFlow (s : Scanner) (t : Token) : Option Scanner := do
  let s ← s.addCandidate
  return { (s.emit t).skip 1 with candidates := none :: s.candidates, keyAllowed := true }

def closeFlow (s : Scanner) (t : Token) : Option Scanner := do
  let s ← s.sign 1 t false
  return if s.inFlow then { s with candidates := s.candidates.drop 1 } else s

/-- A hyphen or question mark, which opens a block at its column. -/
def blockSign (s : Scanner) (opening t : Token) (keyAllowed : Bool) : Option Scanner :=
  if !s.inFlow && !s.keyAllowed then none
  else (s.openBlock s.cursor.column s.tokens.size opening).sign 1 t keyAllowed

/-- A colon: the innermost candidate, if there is one, has been a key. -/
def valueSign (s : Scanner) : Option Scanner :=
  match s.candidates with
  | some c :: cs =>
    let s := { s.insert c.before .key with candidates := none :: cs }
    let s := s.openBlock c.place.column c.before .openMapping
    some { (s.emit .value).skip 1 with keyAllowed := false }
  | _ => s.blockSign .openMapping .value (!s.inFlow)

/-- A token that may be a key, and the place after it. -/
def content (s : Scanner) (read : Cursor → Option (Token × Cursor)) : Option Scanner := do
  let s ← s.addCandidate
  let (t, c) ← read s.cursor
  return { s.emit t with cursor := c, keyAllowed := false }

def quoted (s : Scanner) (read : Position → List Char → Option (List Char × Cursor)) :
    Option Scanner :=
  s.content fun c => (read (c.position.advance 1) (c.rest.drop 1)).map
    (fun (cs, c) => (.quoted (String.ofList cs), c))

def block (s : Scanner) (folded : Bool) : Option Scanner := do
  let s ← s.dropCandidate
  let (cs, c) ← blockFrom folded s.outer (s.cursor.skip 1)
  return { s.emit (.quoted (String.ofList cs)) with cursor := c, keyAllowed := true }

def plain (s : Scanner) : Option Scanner := do
  let s ← s.addCandidate
  let (cs, broken, c) ← plainFrom s.inFlow s.outer [] .none s.cursor.position s.cursor.rest
  return { s.emit (.plain (String.ofList cs)) with cursor := c, keyAllowed := broken }

/-- A plain scalar starts here. -/
def startsPlain (flow : Bool) : List Char → Bool
  | [] => false
  | '-' :: r => !r.head?.any isBlank
  | '?' :: r => !flow && !isGap r
  | ':' :: r => !flow && !isGap r
  | c :: _ => !isBlank c && c ∉ [',', '[', ']', '\x7b', '\x7d', '#', '&', '*', '!', '|', '>', '\'', '"',
      '%', '@', '\x60']

/-- One more token; white space has been skipped. -/
def token (s : Scanner) : Option Scanner :=
  let flow := s.inFlow
  let rest := s.cursor.rest
  if s.cursor.column = 0 && rest.head? = some '%' then do
    let s ← (s.closeBlocks (fun _ => false)).dropCandidate
    let (t, c) ← directiveAt (s.cursor.skip 1)
    return { s.emit t with cursor := c, keyAllowed := false }
  else if isDocumentMark s.cursor.column rest then
    s.documentMark (if rest.head? = some '-' then .documentStart else .documentEnd)
  else match rest with
    | [] => none
    | '[' :: _ => s.openFlow .openList
    | '\x7b' :: _ => s.openFlow .openRecord
    | ']' :: _ => s.closeFlow .closeList
    | '\x7d' :: _ => s.closeFlow .closeRecord
    | ',' :: _ => s.sign 1 .comma true
    | '*' :: _ => s.content fun c => (nameAt (c.skip 1)).map (fun (n, c) => (.alias n, c))
    | '&' :: _ => s.content fun c => (nameAt (c.skip 1)).map (fun (n, c) => (.anchor n, c))
    | '!' :: _ => s.content fun c => do
      let (t, c) ← tagAt c
      if isGap c.rest || (flow && c.rest.head? = some ',') then some (t, c) else none
    | '\'' :: _ => s.quoted (singleFrom [] .none)
    | '"' :: _ => s.quoted (doubleFrom [] .none)
    | c :: r =>
      if c = '-' && isGap r then s.blockSign .openSequence .entry true
      else if c = '?' && (flow || isGap r) then s.blockSign .openMapping .key (!flow)
      else if c = ':' && (flow || isGap r) then s.valueSign
      else if c = '|' && !flow then s.block false
      else if c = '>' && !flow then s.block true
      else if startsPlain flow rest then s.plain
      else none

/-- The tokens up to the end of the text; each step has to leave a shorter rest. -/
def run (s : Scanner) : Option (Array Token) :=
  match (s.skipSpace false s.cursor.position s.cursor.rest).dropStale with
  | none => none
  | some t =>
    if t.cursor.rest.isEmpty then
      ((t.closeBlocks (fun _ => false)).dropCandidate).map (·.tokens)
    else match (t.closeBlocks (· ≤ t.cursor.column)).token with
      | none => none
      | some next =>
        if next.cursor.rest.length < s.cursor.rest.length then run next else none
termination_by s.cursor.rest.length

end Scanner

/-- The tokens of a text.  A byte order mark may stand in front. -/
def tokens (s : String) : Option (List Token) :=
  let dropMark : List Char → List Char
    | c :: r => if c = byteOrderMark then r else c :: r
    | [] => []
  let cs := dropMark s.toList
  if cs.all isAllowed then (Scanner.ofText cs).run.map Array.toList else none

end Regrant.Yaml
