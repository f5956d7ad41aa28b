import Regrant.Document
import Regrant.Text

/-!
# Comma-separated values

A text is a list of records that line ends separate, and a record a list of fields that commas
separate.  A field may stand between quotes, where a quote is written twice.  Lines without
anything are no records.  White space around fields does not count.

The first record is the header, which names the fields of those that follow.  A record of another
length than the header, or that is no text, is broken.
-/

namespace Regrant.Csv

/-- Where in a record the next byte stands. -/
inductive Place where
  | recordStart
  | fieldStart
  | field
  | quoted
  /-- After a quote inside of a quoted field. -/
  | quote

def comma : UInt8 := 44

def quoteMark : UInt8 := 34

def isLineEnd (b : UInt8) : Bool := b = 10 || b = 13

/-- What has been read: the records, the fields of the current one and the bytes of its current
field, each in reverse. -/
structure Progress where
  place : Place
  field : List UInt8
  fields : List (List UInt8)
  records : List (List (List UInt8))

namespace Progress

def start : Progress := ⟨.recordStart, [], [], []⟩

def endField (p : Progress) : Progress :=
  { p with place := .fieldStart, field := [], fields := p.field.reverse :: p.fields }

def endRecord (p : Progress) : Progress :=
  ⟨.recordStart, [], [], (p.field.reverse :: p.fields).reverse :: p.records⟩

def add (p : Progress) (place : Place) (b : UInt8) : Progress :=
  { p with place, field := b :: p.field }

/-- A byte that does not stand between quotes. -/
def bare (p : Progress) (b : UInt8) : Progress :=
  if b = comma then p.endField else if isLineEnd b then p.endRecord else p.add .field b

def step (p : Progress) (b : UInt8) : Progress :=
  match p.place with
  | .recordStart =>
    if isLineEnd b then p
    else if b = quoteMark then { p with place := .quoted }
    else p.bare b
  | .fieldStart => if b = quoteMark then { p with place := .quoted } else p.bare b
  | .field => p.bare b
  | .quoted => if b = quoteMark then { p with place := .quote } else p.add .quoted b
  | .quote => if b = quoteMark then p.add .quoted b else p.bare b

/-- All records; the last one need not end in a line end. -/
def finish (p : Progress) : List (List (List UInt8)) :=
  match p.place with
  | .recordStart => p.records.reverse
  | _ => p.endRecord.records.reverse

end Progress

/-- The bytes without a byte order mark in front. -/
def dropMark : List UInt8 → List UInt8
  | 0xEF :: 0xBB :: 0xBF :: rest => rest
  | bytes => bytes

def records (bytes : List UInt8) : List (List (List UInt8)) :=
  ((dropMark bytes).foldl Progress.step .start).finish

/-- The fields of a record, if they are text. -/
def texts? (fields : List (List UInt8)) : Option (List String) :=
  fields.mapM fun f => (String.fromUTF8? ⟨f.toArray⟩).map Text.trim

/-- A record under a header.  Where the header is no text, the fields are known by their order. -/
def row (header : Option (List String)) (fields : List String) : Document :=
  match header with
  | some names => .record (names.zip fields |>.map (fun (n, f) => (.text n, .cell f)))
  | none => .list (fields.map .cell)

/-- The records below the header; a broken one is `none`. -/
def rows (bytes : List UInt8) : List (Option Document) :=
  match records bytes with
  | [] => []
  | header :: rest => rest.map fun fields =>
    if fields.length = header.length then (texts? fields).map (row (texts? header)) else none

end Regrant.Csv
