import Regrant.Number.Decimal
import Regrant.Toml.Basic
import Regrant.Unicode.Casing

/-!
# Layers of settings

Settings come in layers: defaults, a file, the environment, the command line.  A `SettingValue` is
what the layers so far amount to.  Tables of a later layer are merged into those of an earlier one,
all else replaces what was there.  Keys are in lower case.
-/

namespace Regrant

inductive SettingValue where
  | text (s : String)
  | int (n : Int)
  | float (x : FloatReading)
  | bool (b : Bool)
  | list (items : List SettingValue)
  | table (fields : List (String × SettingValue))

namespace SettingValue

abbrev Fields := List (String × SettingValue)

mutual
/-- The settings that a file holds; a moment is its text. -/
def ofToml : Toml → SettingValue
  | .text s => .text s
  | .int n => .int n
  | .float x => .float x
  | .bool b => .bool b
  | .moment s => .text s
  | .list items => .list (ofTomlList items)
  | .table _ fields => .table (ofTomlFields fields)
  | .tables items => .list (ofTomlTables items)
def ofTomlList : List Toml → List SettingValue
  | [] => []
  | x :: xs => ofToml x :: ofTomlList xs
def ofTomlFields : List (String × Toml) → Fields
  | [] => []
  | (k, x) :: fs => (k, ofToml x) :: ofTomlFields fs
def ofTomlTables : List (List (String × Toml)) → List SettingValue
  | [] => []
  | t :: ts => .table (ofTomlFields t) :: ofTomlTables ts
end

/-- The fields of a table; anything else gives way to an empty one. -/
def fieldsOf : Option SettingValue → Fields
  | some (.table fields) => fields
  | _ => []

/-- Put a value where a key stands, or at the end. -/
def put (key : String) (v : SettingValue) (fields : Fields) : Fields :=
  if (fields.lookup key).isSome then fields.map (fun f => if f.1 = key then (key, v) else f)
  else fields ++ [(key, v)]

mutual
/-- A later value over an earlier one.  A table without fields leaves what it finds. -/
def layOn (earlier : Option SettingValue) : SettingValue → SettingValue
  | .table [] => earlier.getD (.table [])
  | .table (f :: fs) => .table (layFields (fieldsOf earlier) (f :: fs))
  | v => v
/-- Later fields over earlier ones. -/
def layFields (earlier : Fields) : Fields → Fields
  | [] => earlier
  | (k, v) :: fs =>
    let key := Unicode.lower k
    layFields (put key (layOn (earlier.lookup key) v) earlier) fs
end

/-- Set what a path of keys leads to.  Whatever is no table on the way gives way to one. -/
def setAt (v : SettingValue) : List String → Fields → Fields
  | [], fields => fields
  | [key], fields => layFields fields [(key, v)]
  | key :: keys, fields => put key (.table (setAt v keys (fieldsOf (fields.lookup key)))) fields

/-- The characters of the names of a path. -/
def isNameChar (c : Char) : Bool := c.isAlphanum || c = '_' || c = '-' || c = ' '

/-- The path that a key with dots stands for; any other key stands for itself. -/
def pathOf (key : String) : List String :=
  let names := key.splitOn "."
  if names.all (fun n => !n.isEmpty && n.all isNameChar) then names else [key]

def set (key : String) (v : SettingValue) (fields : Fields) : Fields := setAt v (pathOf key) fields

/-! ### Reading -/

/-- Layouts of numbers as text: never with an exponent. -/
def layout : DecimalLayout := ⟨-400, 400, false, false⟩

def floatText : FloatReading → String
  | .finite x => layout.text x
  | .infinite negative => if negative then "-inf" else "inf"
  | .notANumber => "NaN"

/-- A scalar as text. -/
def asText? : SettingValue → Option String
  | .text s => some s
  | .int n => some (toString n)
  | .float x => some (floatText x)
  | .bool b => some (if b then "true" else "false")
  | _ => none

/-- The greatest count that is held. -/
def maxCount : Nat := UInt64.size - 1

/-- The nearest count to a number, half a unit being rounded up. -/
def floatCount : FloatReading → Nat
  | .finite x =>
    if x.negative then 0 else min maxCount ((2 * x.units + Binary64.one) / (2 * Binary64.one))
  | .infinite negative => if negative then 0 else maxCount
  | .notANumber => 0

/-- The count that a text spells; words for yes and no count as one and zero. -/
def textCount? (s : String) : Option Nat :=
  let word := Unicode.lower s
  if word ∈ ["true", "on", "yes"] then some 1
  else if word ∈ ["false", "off", "no"] then some 0
  else
    let digits := match s.toList with
      | '+' :: r => r
      | r => r
    (natOfDigits? digits).filter (· ≤ maxCount)

/-- A scalar as a count. -/
def asCount? : SettingValue → Option Nat
  | .text s => textCount? s
  | .int n => if 0 ≤ n then some n.toNat else none
  | .float x => some (floatCount x)
  | .bool b => some (if b then 1 else 0)
  | _ => none

/-- The values under some keys.  A list holds them in this order. -/
def members? (keys : List String) : SettingValue → Option (List (Option SettingValue))
  | .table fields => some (keys.map (fun k => fields.lookup k))
  | .list items => some ((List.range keys.length).map (items[·]?))
  | _ => none

end SettingValue

end Regrant
