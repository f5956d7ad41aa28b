import Regrant.Unicode.Property

/-!
# Text

Trimming, search and the quoted form in which messages show text.
-/

namespace Regrant.Text

open Unicode

def isBlank (c : Char) : Bool := Property.whiteSpace.holds c

def trimStart (cs : List Char) : List Char := cs.dropWhile isBlank

def trimEnd (cs : List Char) : List Char := (cs.reverse.dropWhile isBlank).reverse

/-- Without white space at either end. -/
def trim (s : String) : String := String.ofList (trimEnd (trimStart s.toList))

/-- The text before the last dot of a name that does not start with it, and the text after. -/
def splitExtension (name : String) : Option (String × String) :=
  let back := name.toList.reverse
  match back.dropWhile (· ≠ '.') with
  | '.' :: c :: rest =>
    some (String.ofList (c :: rest).reverse, String.ofList (back.takeWhile (· ≠ '.')).reverse)
  | _ => none

def sameIgnoringAsciiCase (s t : String) : Bool := s.toLower == t.toLower

/-- `needle` stands somewhere in `haystack`. -/
def occursIn (needle : List Char) : List Char → Bool
  | [] => needle.isEmpty
  | c :: cs => needle.isPrefixOf (c :: cs) || occursIn needle cs

def contains (haystack needle : String) : Bool := occursIn needle.toList haystack.toList

def startsWith (s t : String) : Bool := t.toList.isPrefixOf s.toList

def endsWith (s t : String) : Bool := t.toList.isSuffixOf s.toList

/-! ### The quoted form of messages -/

/-- Characters that are shown as they are. -/
def isPrintable (c : Char) : Bool :=
  c = ' ' ||
    (assigned c && !([control, format, surrogate, privateUse, lineSeparator, paragraphSeparator,
      spaceSeparator].any (·.contains c)) && !Property.graphemeExtend.holds c)

def hexText (n : Nat) : List Char := Nat.toDigits 16 n

def quoteChar (c : Char) : List Char :=
  if c = '"' then ['\\', '"']
  else if c = '\\' then ['\\', '\\']
  else if c = '\n' then ['\\', 'n']
  else if c = '\t' then ['\\', 't']
  else if c = '\r' then ['\\', 'r']
  else if c.toNat = 0 then ['\\', '0']
  else if isPrintable c then [c]
  else '\\' :: 'u' :: '\x7b' :: (hexText c.toNat ++ ['\x7d'])

/-- Text between double quotes, with escapes for what cannot be seen. -/
def quote (s : String) : String :=
  String.ofList ('"' :: (s.toList.flatMap quoteChar ++ ['"']))

end Regrant.Text
