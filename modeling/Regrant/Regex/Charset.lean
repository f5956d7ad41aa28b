import Regrant.Unicode.Casing
import Regrant.Unicode.Script

/-!
# Sets of characters in regular expressions

A set is the test of its members.  Sets that are named in a pattern are found here: the classes
`\d`, `\s` and `\w`, the classes `[:alpha:]` and so on, and the Unicode classes of `\p`.
-/

namespace Regrant.Regex

open Unicode

abbrev Charset := Char → Bool

namespace Charset

def range (first last : Char) : Charset := fun c => first ≤ c && c ≤ last

def negateIf (negated : Bool) (s : Charset) : Charset := fun c => s c != negated

/-- With all characters that are the same as a member up to case. -/
def caseless (s : Charset) : Charset := fun c => (caseVariants c).any s

/-- The same for letters of ASCII only. -/
def asciiCaseless (s : Charset) : Charset := fun c => s c || s c.toLower || s c.toUpper

/-! ### Perl classes -/

def digit : Charset := decimalNumber.contains

def space : Charset := Property.whiteSpace.holds

def word : Charset := fun c =>
  Property.alphabetic.holds c || nonspacingMark.contains c || spacingMark.contains c ||
    enclosingMark.contains c || decimalNumber.contains c || connectorPunctuation.contains c ||
    Property.joinControl.holds c

def asciiDigit : Charset := Char.isDigit

def asciiSpace : Charset := fun c => c = ' ' || range '\t' '\r' c

def asciiWord : Charset := fun c => c.isAlphanum || c = '_'

/-- The classes that an escape of one letter names. -/
def perl? (unicode : Bool) : Char → Option Charset
  | 'd' => some (if unicode then digit else asciiDigit)
  | 's' => some (if unicode then space else asciiSpace)
  | 'w' => some (if unicode then word else asciiWord)
  | _ => none

/-! ### Bracketed names -/

/-- The class that `[:name:]` stands for. -/
def posix? : String → Option Charset
  | "alnum" => some Char.isAlphanum
  | "alpha" => some Char.isAlpha
  | "ascii" => some (range '\x00' '\x7f')
  | "blank" => some (fun c => c = '\t' || c = ' ')
  | "cntrl" => some (fun c => c < ' ' || c = '\x7f')
  | "digit" => some Char.isDigit
  | "graph" => some (range '!' '~')
  | "lower" => some Char.isLower
  | "print" => some (range ' ' '~')
  | "punct" => some (fun c => range '!' '~' c && !c.isAlphanum)
  | "space" => some asciiSpace
  | "upper" => some Char.isUpper
  | "word" => some asciiWord
  | "xdigit" => some (fun c => c.isDigit || range 'a' 'f' c || range 'A' 'F' c)
  | _ => none

/-! ### Unicode classes -/

/-- Names are compared in lower case, without blanks, and without a leading `is`. -/
def normalize (name : String) : String :=
  let cs := ((name.toList.filter (fun c => c ≠ ' ' && c ≠ '_' && c ≠ '-' && c.toNat < 128)).map
    Char.toLower)
  match name.toList.map Char.toLower with
  | 'i' :: 's' :: _ => if cs = ['i', 's', 'c'] then "isc" else String.ofList (cs.drop 2)
  | _ => String.ofList cs

def category? (name : String) : Option Charset :=
  match name with
  | "any" => some (fun _ => true)
  | "assigned" => some assigned
  | "ascii" => some (range '\x00' '\x7f')
  | _ => Unicode.category? name

def script? (name : String) : Option Charset := (Unicode.script? name).map (·.contains)

def property? (name : String) : Option Charset :=
  if name ∈ ["cf", "sc", "lc"] then none else (Property.byName? name).map (·.holds)

/-- The class of a name such as `Greek`, or of a name and value such as `sc=Greek`. -/
def unicode? (name : String) : Option Charset :=
  let named (key value : String) : Option Charset :=
    let key := normalize key
    if key ∈ ["gc", "generalcategory", "category"] then category? (normalize value)
    else if key ∈ ["sc", "script", "scx", "scriptextensions"] then script? (normalize value)
    else none
  match name.splitOn "!=" with
  | key :: value :: rest =>
    (named key (String.intercalate "!=" (value :: rest))).map (negateIf true)
  | _ => match name.splitOn ":" with
    | key :: value :: rest => named key (String.intercalate ":" (value :: rest))
    | _ => match name.splitOn "=" with
      | key :: value :: rest => named key (String.intercalate "=" (value :: rest))
      | _ =>
        let name := normalize name
        (property? name).or ((category? name).or (script? name))

end Charset

end Regrant.Regex
