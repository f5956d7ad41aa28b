import Regrant.Document

/-!
# Percent encoding

In a URL, `%` and two hexadecimal digits stand for a byte, and the bytes spell text in UTF-8.
-/

namespace Regrant.Location

/-- The bytes of a text in which `%` and two hexadecimal digits stand for a byte.  Any other `%`
stands for itself. -/
def percentDecode : List Char → List UInt8
  | '%' :: a :: b :: rest =>
    match Plain.hexValue? a, Plain.hexValue? b with
    | some x, some y => UInt8.ofNat (16 * x + y) :: percentDecode rest
    | _, _ => String.utf8EncodeChar '%' ++ percentDecode (a :: b :: rest)
  | c :: rest => String.utf8EncodeChar c ++ percentDecode rest
  | [] => []

/-- A byte by its two hexadecimal digits. -/
def percentByte (b : UInt8) : List Char :=
  ['%', (Nat.digitChar (b.toNat / 16)).toUpper, (Nat.digitChar (b.toNat % 16)).toUpper]

/-- The text in which bytes stand for certain characters. -/
def percentEncode (encoded : Char → Bool) (cs : List Char) : List Char :=
  cs.flatMap fun c => if encoded c then (String.utf8EncodeChar c).flatMap percentByte else [c]

/-- The text that bytes spell. -/
def decodeText? (bytes : List UInt8) : Option String := String.fromUTF8? ⟨bytes.toArray⟩

end Regrant.Location
