import Regrant.Yaml.Token

/-!
# Documents of a YAML text

The tokens of a text are read as one document.  A node that is missing where one may stand is an
empty plain scalar.  An alias stands for the node with its anchor; inside that very node it has no
value.
-/

namespace Regrant.Yaml

/-- What is left to read, and the nodes that have an anchor. -/
structure Remainder where
  tokens : List Token
  anchors : List (String × Document)

abbrev Reading := StateT Remainder Option

namespace Reading

def fail {α : Type} : Reading α := fun _ => none

def peek : Reading (Option Token) := return (← get).tokens.head?

def skip : Reading Unit := modify fun r => { r with tokens := r.tokens.drop 1 }

def anchored (name : String) (d : Document) : Reading Unit :=
  modify fun r => { r with anchors := (name, d) :: r.anchors }

/-- One of some tokens comes next. -/
def isNext (ts : List Token) : Reading Bool := return (← peek).any (· ∈ ts)

/-- Pass a token if it comes next. -/
def accept (t : Token) : Reading Bool := do
  if (← peek) = some t then
    skip
    return true
  else return false

end Reading

open Reading

/-- A node without any text. -/
def empty : Document := .plain ""

/-- Collections nest no deeper than this if they are to be read. -/
def maxDepth : Nat := 128

/-- A collection inside so many others. -/
def nested (depth : Nat) (d : Document) : Document := if depth < maxDepth then d else .unreadable

/-! ### Anchors and tags -/

/-- The full text of a tag, its handle being one of the known ones. -/
def resolveTag (handles : List (String × String)) (handle suffix : String) : Option String :=
  if handle.isEmpty then some suffix else (handles.lookup handle).map (· ++ suffix)

structure Properties where
  anchor : Option String
  tag : Option String

/-- An anchor and a tag, in any order. -/
def properties (handles : List (String × String)) : Reading Properties := do
  let first ← anchor?
  let tag ← match ← peek with
    | some (.tag handle suffix) => do
      skip
      match resolveTag handles handle suffix with
      | some tag => pure (some tag)
      | none => fail
    | _ => pure none
  let second ← if first.isNone && tag.isSome then anchor? else pure none
  return ⟨first <|> second, tag⟩
where
  anchor? : Reading (Option String) := do
    match ← peek with
    | some (.anchor name) =>
      skip
      return some name
    | _ => return none

/-- A scalar with its tag; the tag `!` says no more than that there is a scalar. -/
def scalar (tag : Option String) (d : Document) : Document :=
  match tag with
  | none => d
  | some tag => if tag = "!" then d else .tagged tag d

def withTag (tag : Option String) (d : Document) : Document :=
  match tag with
  | none => d
  | some tag => .tagged tag d

/-! ### Nodes -/

mutual
/-- A node at some depth.  Collections without delimiters stand only inside blocks, and a sequence
that is not indented only as a value of a mapping. -/
def node (handles : List (String × String)) (block unindented : Bool) (depth : Nat) :
    Nat → Reading Document
  | 0 => fail
  | n + 1 => do
    match ← peek with
    | some (.alias name) =>
      skip
      match (← get).anchors.lookup name with
      | some d => return d
      | none => fail
    | _ =>
      let p ← properties handles
      match p.anchor with
      | none => content handles p block unindented depth n
      | some name =>
        anchored name .unreadable
        let d ← content handles p block unindented depth n
        anchored name d
        return d
termination_by structural n => n

/-- What follows the anchor and the tag of a node. -/
def content (handles : List (String × String)) (p : Properties) (block unindented : Bool)
    (depth : Nat) : Nat → Reading Document
  | 0 => fail
  | n + 1 => do
    let collection (d : Document) : Document := nested depth (withTag p.tag d)
    match ← peek with
    | some (.plain s) =>
      skip
      return scalar p.tag (.plain s)
    | some (.quoted s) =>
      skip
      return scalar p.tag (.text s)
    | some .openList =>
      skip
      return collection (.sequence (← flowItems handles true (depth + 1) n))
    | some .openRecord =>
      skip
      return collection (.record (← flowFields handles true (depth + 1) n))
    | some .openSequence =>
      if block then
        skip
        return collection (.sequence (← blockItems handles (depth + 1) n))
      else otherwise
    | some .openMapping =>
      if block then
        skip
        return collection (.record (← blockFields handles (depth + 1) n))
      else otherwise
    | some .entry =>
      if unindented then
        return collection (.sequence (← unindentedItems handles (depth + 1) n))
      else otherwise
    | _ => otherwise
termination_by structural n => n
where
  otherwise : Reading Document :=
    if p.anchor.isSome || p.tag.isSome then return withTag p.tag empty else fail

/-- A node, or an empty one before one of some tokens. -/
def nodeUnless (handles : List (String × String)) (ends : List Token) (block unindented : Bool)
    (depth : Nat) : Nat → Reading Document
  | 0 => fail
  | n + 1 => do
    if ← isNext ends then return empty else node handles block unindented depth n
termination_by structural n => n

/-- The value of a field, which may be missing. -/
def fieldValue (handles : List (String × String)) (ends : List Token) (block : Bool)
    (depth : Nat) : Nat → Reading Document
  | 0 => fail
  | n + 1 => do
    if ← accept .value then nodeUnless handles ends block block depth n else return empty
termination_by structural n => n

/-- The items of a block sequence. -/
def blockItems (handles : List (String × String)) (depth : Nat) : Nat → Reading (List Document)
  | 0 => fail
  | n + 1 => do
    if ← accept .closeBlock then return []
    if ← accept .entry then
      let d ← nodeUnless handles [.entry, .closeBlock] true false depth n
      return d :: (← blockItems handles depth n)
    else fail
termination_by structural n => n

/-- The items of a sequence that is indented like the mapping around it. -/
def unindentedItems (handles : List (String × String)) (depth : Nat) :
    Nat → Reading (List Document)
  | 0 => fail
  | n + 1 => do
    if ← accept .entry then
      let d ← nodeUnless handles [.entry, .key, .value, .closeBlock] true false depth n
      return d :: (← unindentedItems handles depth n)
    else return []
termination_by structural n => n

/-- The fields of a block mapping. -/
def blockFields (handles : List (String × String)) (depth : Nat) :
    Nat → Reading (List (Document × Document))
  | 0 => fail
  | n + 1 => do
    if ← accept .closeBlock then return []
    if ← accept .key then
      let k ← nodeUnless handles [.key, .value, .closeBlock] true true depth n
      let v ← fieldValue handles [.key, .value, .closeBlock] true depth n
      return (k, v) :: (← blockFields handles depth n)
    else fail
termination_by structural n => n

/-- The items between brackets; one of them may be a single field. -/
def flowItems (handles : List (String × String)) (first : Bool) (depth : Nat) :
    Nat → Reading (List Document)
  | 0 => fail
  | n + 1 => do
    if ← accept .closeList then return []
    let comma ← if first then pure true else accept .comma
    if !comma then fail
    if ← accept .closeList then (if first then fail else return [])
    else if ← accept .key then
      let k ← if ← isNext [.value, .comma, .closeList] then
          skip
          pure empty
        else node handles false false (depth + 1) n
      let v ← fieldValue handles [.comma, .closeList] false (depth + 1) n
      return nested depth (.record [(k, v)]) :: (← flowItems handles false depth n)
    else
      let d ← node handles false false depth n
      return d :: (← flowItems handles false depth n)
termination_by structural n => n

/-- The fields between braces. -/
def flowFields (handles : List (String × String)) (first : Bool) (depth : Nat) :
    Nat → Reading (List (Document × Document))
  | 0 => fail
  | n + 1 => do
    if ← accept .closeRecord then return []
    let comma ← if first then pure true else accept .comma
    if !comma then fail
    if ← accept .closeRecord then return []
    if ← accept .key then
      let k ← nodeUnless handles [.value, .comma, .closeRecord] false false depth n
      let v ← fieldValue handles [.comma, .closeRecord] false depth n
      return (k, v) :: (← flowFields handles false depth n)
    else
      let k ← node handles false false depth n
      return (k, empty) :: (← flowFields handles false depth n)
termination_by structural n => n
end

/-! ### Documents -/

/-- The handles that directives define, beside the two that are always there. -/
def handlesOf (directives : List Token) : Option (List (String × String)) :=
  let defined := directives.filterMap fun
    | .tagHandle handle start => some (handle, start)
    | _ => none
  let versions := directives.filterMap fun
    | .version major minor => some (major, minor)
    | _ => none
  if versions.length ≤ 1 && versions.all (fun v => v.1 = 1 && (v.2 = 1 || v.2 = 2)) &&
      (defined.map (·.1)).eraseDups.length = defined.length then
    some (defined ++ [("!", "!"), ("!!", Document.coreTag "")])
  else none

def isDirective : Token → Bool
  | .version _ _ => true
  | .tagHandle _ _ => true
  | _ => false

/-- The only document of a text. -/
def read (text : String) : Option Document := do
  let ts ← tokens text
  if ts.isEmpty then return .absent
  let directives := ts.takeWhile isDirective
  let handles ← handlesOf directives
  let ts := ts.drop directives.length
  let root (ts : List Token) : Option (Document × Remainder) :=
    (node handles true false 0 (8 * ts.length + 8)).run ⟨ts, []⟩
  let (d, r) ← match ts with
    | .documentStart :: ts =>
      if ts.head?.all (fun t => isDirective t || t = .documentStart || t = .documentEnd) then
        some (empty, ⟨ts, []⟩)
      else root ts
    | ts => if directives.isEmpty then root ts else none
  if r.tokens.all (· = .documentEnd) then some d else none

end Regrant.Yaml
