import Regrant.Json.Basic

/-!
# Documents before a model is read from them

A `Document` is what the reader of a file format leaves: scalars, lists and records, with repeated
keys still repeated.  JSON scalars have a type.  A plain YAML scalar has none: it is text where
text is wanted and otherwise what its spelling says (`resolve`).  A CSV cell is text, and absent
when empty.

The functions `as…?` and `slots` are how models are read; they answer `none` where the document
does not have the shape that is asked for.
-/

namespace Regrant

inductive Document where
  /-- A YAML stream without a document. -/
  | absent
  | null
  | bool (b : Bool)
  | number (n : Number)
  | text (s : String)
  /-- A plain YAML scalar. -/
  | plain (s : String)
  /-- A CSV cell. -/
  | cell (s : String)
  /-- A YAML node with a tag. -/
  | tagged (tag : String) (node : Document)
  | list (items : List Document)
  /-- A YAML sequence, which never stands for a record. -/
  | sequence (items : List Document)
  | record (fields : List (Document × Document))
  /-- Well-formed text without a value, such as a number out of range: it can only be ignored. -/
  | unreadable
deriving Inhabited

namespace Json

mutual
/-- The document that a JSON value reads as. -/
def document : Json → Document
  | .null => .null
  | .bool b => .bool b
  | .number n => .number n
  | .text s => .text s
  | .list items => .list (documentList items)
  | .object fields => .record (documentFields fields)
def documentList : List Json → List Document
  | [] => []
  | x :: xs => document x :: documentList xs
def documentFields : List (String × Json) → List (Document × Document)
  | [] => []
  | (k, x) :: fs => (.text k, document x) :: documentFields fs
end

end Json

/-! ### Plain scalars -/

namespace Plain

def nullWords : List String := ["null", "Null", "NULL", "~"]

def bool? (s : String) : Option Bool :=
  if s ∈ ["true", "True", "TRUE"] then some true
  else if s ∈ ["false", "False", "FALSE"] then some false
  else none

/-- The digits of a number with leading zeros, which reads as text. -/
def zeroLed (cs : List Char) : Bool :=
  let ds := match cs with
    | '-' :: r => r
    | '+' :: r => r
    | r => r
  1 < ds.length && ds.head? == some '0' && ds.all Char.isDigit

def hexValue? (c : Char) : Option Nat :=
  if c.isDigit then some (c.toNat - '0'.toNat)
  else if 'a' ≤ c ∧ c ≤ 'f' then some (c.toNat - 'a'.toNat + 10)
  else if 'A' ≤ c ∧ c ≤ 'F' then some (c.toNat - 'A'.toNat + 10)
  else none

/-- A run of digits to a base of at most sixteen. -/
def natOfBase? (base : Nat) (cs : List Char) : Option Nat :=
  if cs.isEmpty then none
  else cs.foldlM (fun n c => do
    let d ← hexValue? c
    if d < base then some (base * n + d) else none) 0

/-- The base that a prefix such as `0x` announces, and the digits after it. -/
def splitBase : List Char → Option (Nat × List Char)
  | '0' :: 'x' :: r => some (16, r)
  | '0' :: 'o' :: r => some (8, r)
  | '0' :: 'b' :: r => some (2, r)
  | _ => none

/-- A whole number as YAML spells it: decimal without leading zeros, or with a base. -/
def int? (s : String) : Option Int :=
  let cs := s.toList
  let (negative, body) := match cs with
    | '-' :: r => (true, r)
    | '+' :: r => (false, r)
    | r => (false, r)
  let magnitude := match splitBase body with
    | some (base, ds) => natOfBase? base ds
    | none => if zeroLed cs then none else natOfDigits? body
  magnitude.map fun n => if negative then - (n : Int) else n

/-- A number with a fraction or exponent, or one of the words for infinity and no number. -/
def float? (s : String) : Option FloatReading :=
  if s ∈ [".inf", ".Inf", ".INF", "+.inf", "+.Inf", "+.INF"] then some (.infinite false)
  else if s ∈ ["-.inf", "-.Inf", "-.INF"] then some (.infinite true)
  else if s ∈ [".nan", ".NaN", ".NAN"] then some .notANumber
  else
    let cs := s.toList
    if zeroLed cs then none
    else match cs with
      | '+' :: '+' :: _ => none
      | '+' :: '-' :: _ => none
      | _ => match readFloat cs with
        | some (.finite x) => some (.finite x)
        | _ => none

/-- What the spelling of a plain scalar says it is.  An integer of 65 to 128 bits cannot be read, a
longer one reads as a float, and an infinite number reads as null. -/
def resolve (s : String) : Document :=
  if s.isEmpty || s ∈ nullWords then .null
  else match bool? s with
    | some b => .bool b
    | none => match int? s with
      | some n => if FitsWord64 n then .number (.int n)
        else if FitsWord128 n then .unreadable
        else match float? s with
          | some (.finite x) => .number (.float x)
          | _ => .text s
      | none => match float? s with
        | some (.finite x) => .number (.float x)
        | some _ => .null
        | none => .text s

end Plain

namespace Document

/-- The tags of the YAML core schema start like this. -/
def coreTag (name : String) : String := "tag:yaml.org,2002:" ++ name

/-- What a scalar with a tag says it is.  A tag of its own leaves it without an untyped reading. -/
def resolveTagged (tag s : String) : Document :=
  if tag = coreTag "bool" then (match Plain.bool? s with
    | some b => .bool b
    | none => .unreadable)
  else if tag = coreTag "int" then (match Plain.int? s with
    | some n => if FitsWord64 n then .number (.int n) else .unreadable
    | none => .unreadable)
  else if tag = coreTag "float" then (match Plain.float? s with
    | some (.finite x) => .number (.float x)
    | some _ => .null
    | none => .unreadable)
  else if tag = coreTag "null" then (if s ∈ Plain.nullWords then .null else .unreadable)
  else if tag.startsWith "!" then .unreadable
  else .text s

/-- What an untyped document says it is. -/
def resolve : Document → Document
  | .plain s => Plain.resolve s
  | .cell s => .text s
  | .tagged tag (.plain s) => resolveTagged tag s
  | .tagged tag (.text s) => resolveTagged tag s
  | .tagged tag node => if tag.startsWith "!" then .unreadable else node
  | d => d

mutual
/-- The JSON value that a document holds. -/
def toJson? : Document → Option Json
  | .absent => some .null
  | .null => some .null
  | .bool b => some (.bool b)
  | .number n => some (.number n)
  | .text s => some (.text s)
  | .cell s => some (.text s)
  | .plain s => scalarJson? (Plain.resolve s)
  | .tagged tag node => match resolve (.tagged tag node) with
    | .unreadable => none
    | .list _ => toJson? node
    | .sequence _ => toJson? node
    | .record _ => toJson? node
    | d => scalarJson? d
  | .list items => (toJsonList? items).map .list
  | .sequence items => (toJsonList? items).map .list
  | .record fields => (toJsonFields? fields).map Json.ofFields
  | .unreadable => none
def toJsonList? : List Document → Option (List Json)
  | [] => some []
  | x :: xs => do
    let j ← toJson? x
    let js ← toJsonList? xs
    return j :: js
def toJsonFields? : List (Document × Document) → Option (List (String × Json))
  | [] => some []
  | (k, x) :: fs => do
    let key ← keyText? k
    let j ← toJson? x
    let js ← toJsonFields? fs
    return (key, j) :: js
def scalarJson? : Document → Option Json
  | .null => some .null
  | .bool b => some (.bool b)
  | .number n => some (.number n)
  | .text s => some (.text s)
  | _ => none
/-- Any scalar can be the key of a record. -/
def keyText? : Document → Option String
  | .text s => some s
  | .plain s => some s
  | .cell s => some s
  | .tagged _ node => keyText? node
  | _ => none
end

/-! ### Scalars -/

/-- A scalar as text, whatever its tag or spelling. -/
def asText? (d : Document) : Option String := d.keyText?

def asBool? (d : Document) : Option Bool :=
  match d.resolve with
  | .bool b => some b
  | _ => none

/-- A whole number; a cell may spell it in hexadecimal. -/
def asInt? (d : Document) : Option Int :=
  match d with
  | .cell s => match s.toList with
    | '0' :: 'x' :: '-' :: r => (Plain.natOfBase? 16 r).map (fun n => - (n : Int))
    | '0' :: 'x' :: '+' :: r => (Plain.natOfBase? 16 r).map Int.ofNat
    | '0' :: 'x' :: r => (Plain.natOfBase? 16 r).map Int.ofNat
    | cs => intOfDigits? cs
  | d => match d.resolve with
    | .number (.int n) => some n
    | _ => none

def asInt32? (d : Document) : Option Int := d.asInt?.filter FitsInt32

def asInt64? (d : Document) : Option Int := d.asInt?.filter FitsInt64

def asCount? (d : Document) : Option Nat :=
  (d.asInt?.filter (fun n => 0 ≤ n ∧ FitsWord64 n)).map Int.toNat

/-- Text that an untyped scalar must also look like. -/
def asExactText? (d : Document) : Option String :=
  match d.resolve with
  | .text s => some s
  | _ => none

/-- The name of a case: text, a name with null, or a tag on null. -/
def asCase? : Document → Option String
  | .record [(.text name, .null)] => some name
  | .tagged tag node =>
    if tag.startsWith "!" then
      match node.resolve with
      | .null => some (tag.drop 1).toString
      | _ => none
    else node.asText?
  | d => d.asText?

/-- Null where a value may be missing. -/
def isNull : Document → Bool
  | .absent => true
  | .null => true
  | .plain s => s.isEmpty || s ∈ Plain.nullWords
  | .cell s => s.isEmpty
  | .tagged tag (.plain s) => tag = coreTag "null" && s ∈ Plain.nullWords
  | _ => false

/-- A value that may be null. -/
def asOption? {α : Type} (read : Document → Option α) (d : Document) : Option (Option α) :=
  if d.isNull then some none else (read d).map some

/-! ### Lists and records -/

/-- Items; an empty scalar is a list without any. -/
def asList? : Document → Option (List Document)
  | .absent => some []
  | .list items => some items
  | .sequence items => some items
  | .plain s => if s.isEmpty then some [] else none
  | .tagged _ node => node.asList?
  | _ => none

def asListOf? {α : Type} (read : Document → Option α) (d : Document) : Option (List α) := do
  (← d.asList?).mapM read

/-- Fields with their keys as text; an empty scalar is a record without any. -/
def asFields? : Document → Option (List (String × Document))
  | .absent => some []
  | .record fields => fields.mapM (fun f => f.1.keyText?.map (·, f.2))
  | .plain s => if s.isEmpty then some [] else none
  | .tagged _ node => node.asFields?
  | _ => none

/-- A record with free keys; of two fields with one key the later counts. -/
def asMapOf? {α : Type} (read : Document → Option α) (d : Document) :
    Option (SortedMap String α) := do
  let fields ← d.asFields?
  return .ofList (← fields.mapM (fun f => (read f.2).map (f.1, ·)))

/-- What a record holds for one of its declared fields. -/
inductive Slot where
  | given (d : Document)
  | missing
  /-- The record was written as a list that ends before this field. -/
  | cut

/-- The declared fields of a record, each under any of its names and at most once.  A JSON list
stands for the record whose fields it holds in declared order. -/
def slots (names : List (List String)) (d : Document) : Option (List Slot) :=
  match d with
  | .list items =>
    if items.length ≤ names.length then
      some (items.map .given ++ List.replicate (names.length - items.length) .cut)
    else none
  | d => do
    let fields ← d.asFields?
    names.mapM fun accepted => match fields.filter (fun f => f.1 ∈ accepted) with
      | [] => some .missing
      | [f] => some (.given f.2)
      | _ => none

namespace Slot

variable {α : Type}

def required (read : Document → Option α) : Slot → Option α
  | .given d => read d
  | _ => none

def withDefault (default : α) (read : Document → Option α) : Slot → Option α
  | .given d => read d
  | _ => some default

/-- A field that may be null or missing. -/
def optional (read : Document → Option α) : Slot → Option (Option α)
  | .given d => d.asOption? read
  | _ => some none

/-- A field that may be null or missing, but that a list has to reach. -/
def nullable (read : Document → Option α) : Slot → Option (Option α)
  | .given d => d.asOption? read
  | .missing => some none
  | .cut => none

/-- A list that may be null or missing. -/
def listOrNull (read : Document → Option α) (s : Slot) : Option (List α) :=
  (s.optional (asListOf? read)).map (·.getD [])

end Slot

end Document

end Regrant
