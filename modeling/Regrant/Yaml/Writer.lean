import Regrant.Yaml.Style

/-!
# Writing YAML

Values are written in block style: a field or item a line, what lies deeper indented by two blanks.
The items of a list that is the value of a field are not indented.  A key of several lines, or of
more than 128 bytes, stands behind a question mark.
-/

namespace Regrant.Yaml

/-- Positional from `1e-5` up to `1e16`, whole numbers with `.0`. -/
def layout : DecimalLayout := ⟨-5, 15, true, false⟩

def number : Number → String
  | .int n => toString n
  | .float x => layout.text x

def margin (n : Nat) : String := String.ofList (Style.margin n)

/-- Text in its style, and the end of its last line. -/
def textLine (indent : Nat) (s : String) : String :=
  let t := (Style.of s).text indent s
  if Style.of s = .literal && s.toList.getLast?.any isBreak then t else t ++ "\n"

/-- A key that can stand in front of its colon. -/
def isSimpleKey (k : String) : Bool := !k.toList.any isBreak && k.utf8ByteSize ≤ 128

/-- A list or object that has members. -/
def isNested : Json → Bool
  | .list items => !items.isEmpty
  | .object fields => !fields.isEmpty
  | _ => false

mutual
/-- A value from the column on that its further lines are indented to. -/
def inline (n : Nat) : Json → String
  | .null => "null\n"
  | .bool b => if b then "true\n" else "false\n"
  | .number x => number x ++ "\n"
  | .text s => textLine n s
  | .list [] => "[]\n"
  | .list (x :: xs) => "- " ++ inline (n + 2) x ++ items n xs
  | .object [] => "\x7b\x7d\n"
  | .object ((k, x) :: fs) => field n k x ++ fields n fs
/-- Items on lines of their own. -/
def items (n : Nat) : List Json → String
  | [] => ""
  | x :: xs => margin n ++ "- " ++ inline (n + 2) x ++ items n xs
/-- Fields on lines of their own. -/
def fields (n : Nat) : List (String × Json) → String
  | [] => ""
  | (k, x) :: fs => margin n ++ field n k x ++ fields n fs
/-- A field whose line is indented already. -/
def field (n : Nat) (k : String) (x : Json) : String :=
  if isSimpleKey k then (Style.of k).text n k ++ ":" ++ (match x with
    | .list (y :: ys) => "\n" ++ margin n ++ "- " ++ inline (n + 2) y ++ items n ys
    | .object ((l, y) :: fs) => "\n" ++ margin (n + 2) ++ field (n + 2) l y ++ fields (n + 2) fs
    | x => " " ++ inline (n + 2) x)
  else "? " ++ textLine (n + 2) k ++ margin n ++ ": " ++ inline (n + 2) x
end

def render (j : Json) : String := inline 0 j

end Regrant.Yaml
