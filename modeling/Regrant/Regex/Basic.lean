import Regrant.Regex.Charset

/-!
# Regular expressions

`Regex.reach` follows a regular expression through a text.  Positions are the places before, between
and after its characters.  A set of positions is a number with one bit for each, so that a
character moves the whole set by one shift.
-/

namespace Regrant.Regex

/-- A condition on a position. -/
inductive Look where
  | textStart | textEnd
  | lineStart | lineEnd
  /-- The same where `\r`, `\n` and `\r\n` each end a line. -/
  | anyLineStart | anyLineEnd
  | boundary (word : Charset) | notBoundary (word : Charset)
  | wordStart (word : Charset) | wordEnd (word : Charset)
  | notAfterWord (word : Charset) | notBeforeWord (word : Charset)

namespace Look

/-- The condition holds between two characters, `none` being an end of the text. -/
def holds (before after : Option Char) : Look → Bool
  | textStart => before.isNone
  | textEnd => after.isNone
  | lineStart => before.isNone || before == some '\n'
  | lineEnd => after.isNone || after == some '\n'
  | anyLineStart =>
    before.isNone || before == some '\n' || (before == some '\r' && after != some '\n')
  | anyLineEnd =>
    after.isNone || after == some '\r' || (after == some '\n' && before != some '\r')
  | boundary word => before.any word != after.any word
  | notBoundary word => before.any word == after.any word
  | wordStart word => !before.any word && after.any word
  | wordEnd word => before.any word && !after.any word
  | notAfterWord word => !before.any word
  | notBeforeWord word => !after.any word

end Look

end Regex

inductive Regex where
  | empty
  | chars (set : Regex.Charset)
  | look (l : Regex.Look)
  | concat (r s : Regex)
  | alternate (r s : Regex)
  /-- At least `low` times, and at most `low + extra` times if there is such a limit. -/
  | times (r : Regex) (low : Nat) (extra : Option Nat)

namespace Regex

/-- Every position of a text, with the character before and after it. -/
def positions (text : List Char) : List (Option Char × Option Char) :=
  (none :: text.map some).zip (text.map some ++ [none])

/-- The positions from the given one on at which `p` holds. -/
def positionsWhere {α : Type} (p : α → Bool) (l : List α) : Nat :=
  l.foldr (fun a n => 2 * n + (if p a then 1 else 0)) 0

/-- Apply `f` so many times.  Once it changes nothing it never will. -/
def iterate {α : Type} [DecidableEq α] (f : α → α) : Nat → α → α
  | 0, a => a
  | n + 1, a =>
    let b := f a
    if b = a then a else iterate f n b

/-- The positions where a match ends that starts at one of `starts`.  A text with `n` characters has
`n + 1` positions, so going round more than `n + 1` times reaches nothing new. -/
def reach (text : List Char) : Regex → Nat → Nat
  | empty, starts => starts
  | chars set, starts => 2 * (starts &&& positionsWhere set text)
  | look l, starts => starts &&& positionsWhere (fun p => l.holds p.1 p.2) (positions text)
  | concat r s, starts => reach text s (reach text r starts)
  | alternate r s, starts => reach text r starts ||| reach text s starts
  | times r low extra, starts =>
    let limit := text.length + 1
    iterate (fun found => found ||| reach text r found) (min (extra.getD limit) limit)
      (iterate (reach text r) (min low limit) starts)

/-- The regular expression matches somewhere in the text. -/
def search (r : Regex) (text : List Char) : Bool :=
  r.reach text ((1 <<< (text.length + 1)) - 1) != 0

end Regex

end Regrant
