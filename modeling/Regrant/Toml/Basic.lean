import Regrant.Number.Decimal

/-!
# TOML values

A table remembers how it came about, since that decides how it may still grow: a table with a header
gets no second header, and dotted keys do not reach into it; what stands between braces is complete.
-/

namespace Regrant

/-- How a table came about. -/
inductive TomlOrigin where
  /-- It has a header of its own, or is the root. -/
  | header
  /-- It lies on the way to a table with a header. -/
  | implied
  /-- It lies on the way of a dotted key. -/
  | dotted
  /-- It stands between braces. -/
  | braces
deriving DecidableEq

inductive Toml where
  | text (s : String)
  | int (n : Int)
  | float (x : FloatReading)
  | bool (b : Bool)
  /-- A date, a time of day or both. -/
  | moment (s : String)
  | list (items : List Toml)
  | table (origin : TomlOrigin) (fields : List (String × Toml))
  /-- The tables that one repeated header in double brackets starts. -/
  | tables (items : List (List (String × Toml)))

namespace Toml

abbrev Fields := List (String × Toml)

/-- What may change a table: it sees where the table comes from. -/
abbrev Change := TomlOrigin → Fields → Option (TomlOrigin × Fields)

def replace (key : String) (v : Toml) (fields : Fields) : Fields :=
  fields.map fun f => if f.1 = key then (key, v) else f

/-- Change the table that keys lead to.  Tables that are missing on the way are made; of repeated
tables the last is meant. -/
def within (origin : TomlOrigin) (change : Change) : List String → Change
  | [] => change
  | key :: keys => fun here fields => do
    let (v : Toml) ← match fields.lookup key with
      | none => (within origin change keys origin []).map fun (o, fs) => Toml.table o fs
      | some (.table .braces _) => none
      | some (.table o fs) =>
        if origin = .dotted ∧ o = .header then none
        else (within origin change keys o fs).map fun (o, fs) => Toml.table o fs
      | some (.tables items) => match items.getLast? with
        | some fs => (within origin change keys .header fs).map fun (_, fs) =>
            Toml.tables (items.dropLast ++ [fs])
        | none => none
      | some _ => none
    return (here, if (fields.lookup key).isSome then replace key v fields else fields ++ [(key, v)])

/-- Give a key that is free a value.  A table that dotted keys made is changed by dotted keys only,
and they change no other. -/
def define (isDotted : Bool) (key : String) (v : Toml) : Change := fun here fields =>
  if (here == .dotted) != isDotted || (fields.lookup key).isSome then none
  else some (here, fields ++ [(key, v)])

/-- Set a value under a dotted key. -/
def assign (keys : List String) (v : Toml) : Change :=
  match keys.getLast? with
  | none => fun _ _ => none
  | some key => within .dotted (define (1 < keys.length) key v) keys.dropLast

/-- Start a table under a header. -/
def openTable (key : String) : Change := fun here fields =>
  match fields.lookup key with
  | none => some (here, fields ++ [(key, .table .header [])])
  | some (.table .implied fs) => some (here, replace key (.table .header fs) fields)
  | some _ => none

/-- Start one more table under a header in double brackets. -/
def openRepeated (key : String) : Change := fun here fields =>
  match fields.lookup key with
  | none => some (here, fields ++ [(key, .tables [[]])])
  | some (.tables items) => some (here, replace key (.tables (items ++ [[]])) fields)
  | some _ => none

end Toml

end Regrant
